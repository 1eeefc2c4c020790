import Potfile.FileSystem.Memory

/-! # File systems that do what is asked

* `Yields`: a step succeeds, gives a value, and leads from one state to another.
* `FileSystem.Lawful`: what operations that succeed do to the files. Reading finds what is held,
  writing changes what is held at one place, and making directories changes no file.
* `FileSystem.Gives`: a file that can be read; `FileSystem.Takes`: a file that can be written once its
  directory is made.
* `Memory.lawful`: a store in memory is such a file system, in which different paths lead to different
  places.
-/

namespace Potfile

open Potfile.Path (components)

variable {σ α β κ : Type}

/-! ## Steps that succeed -/

/-- The step succeeds with a value, and leads from one state to another. -/
def Yields (act : Attempt (StateM σ) α) (before : σ) (value : α) (after : σ) : Prop :=
  (act.run.run before).run = (.ok value, after)

theorem yields_pure_iff {value result : α} {before after : σ} :
    Yields (pure value) before result after ↔ value = result ∧ before = after := by
  simp [Yields]

theorem yields_bind_iff {act : Attempt (StateM σ) α} {next : α → Attempt (StateM σ) β}
    {before after : σ} {result : β} :
    Yields (act >>= next) before result after ↔
      ∃ value between,
        Yields act before value between ∧ Yields (next value) between result after := by
  simp only [Yields, ExceptT.run_bind, StateT.run_bind, Id.run_bind]
  cases (act.run.run before).run with
  | mk outcome between =>
    cases outcome with
    | error failure => simp
    | ok value => simp [and_assoc]

theorem not_yields_throw {failure : Failure} {value : α} {before after : σ} :
    ¬ Yields (throw failure) before value after := by
  simp [Yields]

-- The operations on the state are those of `StateM` below `Attempt`: no lemma about lifting them
-- fires here, but both sides compute to a pair.
theorem yields_get_iff {value before after : σ} :
    Yields get before value after ↔ before = value ∧ before = after := by
  change ((Except.ok before : Except Failure σ), before) = (.ok value, after) ↔ _
  rw [Prod.mk.injEq, Except.ok.injEq]

theorem yields_modify_iff {change : σ → σ} {before after : σ} :
    Yields (modify change) before () after ↔ change before = after := by
  change ((Except.ok () : Except Failure Unit), change before) = (.ok (), after) ↔ _
  rw [Prod.mk.injEq, and_iff_right rfl]

theorem yields_mapM_nil_iff {act : α → Attempt (StateM σ) β} {before after : σ}
    {results : List β} :
    Yields ([].mapM act) before results after ↔ results = [] ∧ before = after := by
  rw [List.mapM_nil, yields_pure_iff, eq_comm]

theorem yields_mapM_cons_iff {act : α → Attempt (StateM σ) β} {item : α} {items : List α}
    {before after : σ} {results : List β} :
    Yields ((item :: items).mapM act) before results after ↔
      ∃ first rest between, results = first :: rest ∧ Yields (act item) before first between ∧
        Yields (items.mapM act) between rest after := by
  simp only [List.mapM_cons, yields_bind_iff, yields_pure_iff]
  constructor
  · rintro ⟨first, between, step, rest, _, steps, rfl, rfl⟩
    exact ⟨first, rest, between, rfl, step, steps⟩
  · rintro ⟨first, rest, between, rfl, step, steps⟩
    exact ⟨first, between, step, rest, _, steps, rfl, rfl⟩

theorem exists_yields_iff {act : Attempt (StateM σ) α} {before : σ} :
    (∃ value after, Yields act before value after) ↔ (act.run.run before).run.1.isOk := by
  unfold Yields
  cases (act.run.run before).run with
  | mk result after => cases result <;> simp [Except.isOk, Except.toBool]

/-! ## Laws -/

/-- What is found under each path. -/
abbrev Files := String → Option ByteArray

/-- The files after one of them was given new bytes: these are found under each path that leads to the
    same place. -/
def Files.put [DecidableEq κ] (place : String → κ) (files : Files) (path : String)
    (bytes : ByteArray) : Files :=
  fun other => if place other = place path then some bytes else files other

/-- Operations that succeed do what they are named for. Several paths may lead to one place, be it
    through `..` or through a link. -/
structure FileSystem.Lawful [DecidableEq κ] (fs : FileSystem (StateM σ)) (place : String → κ)
    (held : σ → Files) : Prop where
  read {path before bytes after} : Yields (fs.read path) before bytes after →
    held before path = some bytes ∧ held after = held before
  write {path bytes before after} : Yields (fs.write path bytes) before () after →
    held after = (held before).put place path bytes
  createDirs {path before after} : Yields (fs.createDirs path) before () after →
    held after = held before

/-- Makes the directory in which a file is to be written. -/
def makeParent (fs : FileSystem (StateM σ)) (path : String) : Attempt (StateM σ) Unit :=
  match Path.parent? path with
  | some parent => fs.createDirs parent
  | none => pure ()

/-- The file can be read wherever `kept` holds, with the same bytes each time, and leaves it so. -/
def FileSystem.Gives (fs : FileSystem (StateM σ)) (kept : σ → Prop) (path : String)
    (bytes : ByteArray) : Prop :=
  ∀ state, kept state → ∃ after, Yields (fs.read path) state bytes after ∧ kept after

/-- The file can be written wherever `kept` holds, in its directory that is made right before, and
    leaves it so. -/
def FileSystem.Takes (fs : FileSystem (StateM σ)) (kept : σ → Prop) (path : String) : Prop :=
  ∀ state, kept state → ∃ made, Yields (makeParent fs path) state () made ∧
    ∀ bytes, ∃ after, Yields (fs.write path bytes) made () after ∧ kept after

theorem lookup_cons_eq_ite [DecidableEq κ] [BEq κ] [LawfulBEq κ] {key place : κ} {value : α}
    {entries : List (κ × α)} :
    ((place, value) :: entries).lookup key =
      if key = place then some value else entries.lookup key := by
  rw [List.lookup_cons]
  by_cases same : key = place
  · rw [if_pos same, beq_iff_eq.mpr same]
  · rw [if_neg same, beq_eq_false_iff_ne.mpr same]

/-- A list in which the first entry for a target is given another value, or which gets an entry for it
    at its end. -/
theorem lookup_assigned [DecidableEq κ] [BEq κ] [LawfulBEq κ]
    (assign : List (κ × α) → List (κ × α)) {target : κ} {value : α}
    (nil : assign [] = [(target, value)])
    (cons : ∀ place old rest, assign ((place, old) :: rest) =
      if place = target then (place, value) :: rest else (place, old) :: assign rest)
    (entries : List (κ × α)) (key : κ) :
    (assign entries).lookup key = if key = target then some value else entries.lookup key := by
  induction entries with
  | nil => rw [nil, lookup_cons_eq_ite]
  | cons entry rest inductionHypothesis =>
    obtain ⟨place, old⟩ := entry
    rw [cons, lookup_cons_eq_ite]
    by_cases here : place = target
    · rw [if_pos here, lookup_cons_eq_ite, here]
      split
      · rfl
      · rfl
    · rw [if_neg here, lookup_cons_eq_ite, inductionHypothesis]
      -- The two places are different, so their cases can be asked for in any order.
      by_cases same : key = place
      · rw [if_pos same, if_pos same, if_neg (same ▸ here)]
      · rw [if_neg same, if_neg same]

/-! ## Stores in memory -/

namespace Memory

def held (store : Memory) : Files := store.get?

theorem held_put (store : Memory) (path : String) (bytes : ByteArray) :
    (store.put path bytes).held = store.held.put components path bytes := by
  funext other
  exact lookup_assigned (put.go path bytes) rfl (fun _ _ _ => rfl) store.files (components other)

theorem yields_read_iff {path : String} {before after : Memory} {bytes : ByteArray} :
    Yields (system.read path) before bytes after ↔
      before.get? path = some bytes ∧ before = after := by
  simp only [system, yields_bind_iff, yields_get_iff]
  constructor
  · rintro ⟨_, _, ⟨rfl, rfl⟩, step⟩
    split at step
    next found =>
      obtain ⟨rfl, rfl⟩ := yields_pure_iff.mp step
      exact ⟨found, rfl⟩
    next => exact absurd step not_yields_throw
  · rintro ⟨found, rfl⟩
    refine ⟨before, before, ⟨rfl, rfl⟩, ?_⟩
    simp only [found]
    exact yields_pure_iff.mpr ⟨rfl, rfl⟩

theorem lawful : system.Lawful components held where
  read step := by
    obtain ⟨found, rfl⟩ := yields_read_iff.mp step
    exact ⟨found, rfl⟩
  write step := by
    rw [← yields_modify_iff.mp step, held_put]
  createDirs step := by
    rw [← yields_modify_iff.mp step]
    rfl

end Memory

end Potfile
