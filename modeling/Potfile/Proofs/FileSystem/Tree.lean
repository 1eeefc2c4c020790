import Potfile.FileSystem.Tree
import Potfile.Proofs.FileSystem
import Potfile.Proofs.Path

/-! # What a tree of files holds

* `Tree.place`: the names to which a path leads from the top. A path that can be followed leads there
  (`place_of_resolve`).
* `Tree.held`: the files of a tree, each found under all paths that lead to it.
* `Tree.lawful`: the operations on trees do what they are named for.
* `exists_makeDirectories`, `writeFile_of_resolve`: where nothing is in the way, they succeed.
-/

namespace Potfile.Tree

open Potfile.Path (components component? lead walk)

variable {t after : Tree} {names other : List String} {path : String} {bytes : ByteArray}
variable {node : Node}

/-! ## Paths -/

/-- Where a path leads from the top. -/
def place (path : String) : List String := walk [] (components path)

theorem walk_lead (cs : List Char) : walk [] (lead cs) = [] := by
  unfold lead
  split
  · rfl
  · split <;> rfl

/-- Following pieces to the end leads where their components lead. -/
theorem walk_of_follow {here : List String} {pieces : List (List Char)}
    (followed : t.follow here (pieces.map String.ofList) = .ok names) :
    names = walk here (pieces.filterMap component?) := by
  induction pieces generalizing here with
  | nil => exact (Except.ok.inj followed).symm
  | cons piece rest inductionHypothesis =>
    rw [List.map_cons, follow] at followed
    split at followed
    · contradiction
    · contradiction
    · have void : String.ofList piece = "" ∨ String.ofList piece = "." ↔
          piece = [] ∨ piece = ['.'] := by
        simp [← String.toList_inj]
      have parent : String.ofList piece = ".." ↔ piece = ['.', '.'] := by
        simp [← String.toList_inj]
      -- Pieces are told apart by their texts on the one side, and by their characters on the other.
      simp only [void, parent] at followed
      rw [List.filterMap_cons, component?]
      by_cases isVoid : piece = [] ∨ piece = ['.']
      · rw [if_pos isVoid] at followed ⊢
        exact inductionHypothesis followed
      · rw [if_neg isVoid] at followed ⊢
        by_cases isParent : piece = ['.', '.']
        · rw [if_pos isParent] at followed ⊢
          exact inductionHypothesis followed
        · rw [if_neg isParent] at followed ⊢
          split at followed
          · contradiction
          · exact inductionHypothesis followed

theorem place_of_resolve (resolved : t.resolve path = .ok names) : names = place path := by
  unfold resolve at resolved
  split at resolved
  · contradiction
  · split at resolved
    · contradiction
    · rw [place, Path.components_eq, Path.walk_append, walk_lead]
      exact walk_of_follow resolved

theorem resolve_eq_follow {names : List String} (some : path ≠ "") (noNul : '\x00' ∉ path.toList)
    (split : pieces path = names) : t.resolve path = t.follow [] names := by
  rw [resolve, if_neg some, if_neg noNul, split]

/-! ## Files -/

theorem node?_nil : t.node? [] = some .directory := if_pos rfl

theorem node?_put (below : names ≠ []) :
    (t.put names node).node? other = if other = names then some node else t.node? other := by
  unfold node?
  by_cases top : other = []
  · rw [if_pos top, if_pos top, if_neg (top ▸ below.symm)]
  · rw [if_neg top, if_neg top]
    exact lookup_assigned (put.go names node) rfl (fun _ _ _ => rfl) t.nodes other

/-- The files of a tree. -/
def held (t : Tree) : Files := fun path =>
  match t.node? (place path) with
  | some (.file bytes) => some bytes
  | _ => none

theorem held_eq_some_iff : t.held path = some bytes ↔ t.node? (place path) = some (.file bytes) := by
  unfold held
  split
  · next found => simp [found]
  · next other =>
    refine ⟨fun none => by contradiction, fun found => ?_⟩
    exact absurd found (other bytes)

theorem held_put_file (below : place path ≠ []) :
    (t.put (place path) (.file bytes)).held = t.held.put place path bytes := by
  funext other
  unfold held Files.put
  rw [node?_put below]
  by_cases same : place other = place path
  · rw [if_pos same, if_pos same]
  · rw [if_neg same, if_neg same]

/-- A directory that is made where nothing was is no file. -/
theorem held_put_directory (absent : t.node? names = none) :
    (t.put names .directory).held = t.held := by
  have below : names ≠ [] := by
    rintro rfl
    simp [node?_nil] at absent
  funext other
  unfold held
  rw [node?_put below]
  by_cases same : place other = names
  · rw [if_pos same, same, absent]
  · rw [if_neg same]

/-! ## Operations that succeed -/

theorem bind_eq_ok_iff {ε α β : Type} {act : Except ε α} {next : α → Except ε β} {result : β} :
    (act >>= next) = .ok result ↔ ∃ value, act = .ok value ∧ next value = .ok result := by
  cases act with
  | error failure => simp [bind, Except.bind]
  | ok value => simp [bind, Except.bind]

theorem guard_eq_ok_iff {ε α : Type} {refused : Prop} [Decidable refused] {failure : ε}
    {rest : Except ε α} {result : α} :
    (do
      if refused then throw failure
      rest) = .ok result ↔ ¬ refused ∧ rest = .ok result := by
  by_cases holds : refused
  · simp only [holds, if_true, not_true_eq_false, false_and, iff_false]
    exact nofun
  · simp only [holds, if_false, not_false_eq_true, true_and]

theorem held_of_readFile (read : t.readFile path = .ok bytes) : t.held path = some bytes := by
  obtain ⟨_, found, result⟩ := bind_eq_ok_iff.mp read
  obtain ⟨_, resolved, found⟩ := bind_eq_ok_iff.mp found
  obtain rfl := place_of_resolve resolved
  split at found
  · next there =>
    obtain rfl := Except.ok.inj found
    split at result
    · obtain rfl := Except.ok.inj result
      exact held_eq_some_iff.mpr there
    · contradiction
  · contradiction

theorem put_of_writeFile (written : t.writeFile path bytes = .ok after) :
    place path ≠ [] ∧ after = t.put (place path) (.file bytes) := by
  obtain ⟨_, resolved, written⟩ := bind_eq_ok_iff.mp written
  obtain rfl := place_of_resolve resolved
  split at written
  · contradiction
  · next other =>
    refine ⟨fun top => other (by rw [top, node?_nil]), ?_⟩
    obtain ⟨_, written⟩ := guard_eq_ok_iff.mp written
    split at written
    · exact (Except.ok.inj written).symm
    · contradiction
    · contradiction

theorem held_of_makeDirectory (made : t.makeDirectory path = .ok after) : after.held = t.held := by
  obtain ⟨names, _, made⟩ := bind_eq_ok_iff.mp made
  obtain ⟨absent, made⟩ := guard_eq_ok_iff.mp made
  rw [Option.isSome_iff_ne_none, not_not] at absent
  split at made
  · rw [← Except.ok.inj made, held_put_directory absent]
  · contradiction
  · contradiction

theorem held_of_makeDirectories (made : t.makeDirectories path = .ok after) :
    after.held = t.held := by
  unfold makeDirectories at made
  generalize path.length = fuel at made
  fun_induction makeDirectories.go fuel t path generalizing after with
  | case1 => rw [Except.ok.inj made]
  | case2 _ _ _ _ _ made' => rw [← Except.ok.inj made, held_of_makeDirectory made']
  | case3 =>
    -- The directory is made behind its parents, unless it is there by then.
    rename_i inductionHypothesis
    obtain ⟨between, above, made⟩ := bind_eq_ok_iff.mp made
    rw [← inductionHypothesis above]
    dsimp +zetaDelta only at made
    split at made
    · next made' => rw [← Except.ok.inj made, held_of_makeDirectory made']
    · split at made
      · rw [Except.ok.inj made]
      · contradiction
  | case4 => contradiction
  | case5 => rw [Except.ok.inj made]
  | case6 => contradiction

/-! ## The operations of the system -/

/-- A step of `FileSystem.ofReasons` succeeds where the step that reports a reason does. -/
theorem yields_wrap_iff {σ α : Type} {act : StateM σ (Except String α)} {failure : String → Failure}
    {before after : σ} {value : α} :
    Yields (ExceptT.mk do
      match ← act with
      | .ok a => return .ok a
      | .error reason => return .error (failure reason)) before value after ↔
      (act.run before).run = (.ok value, after) := by
  simp only [Yields, ExceptT.run, ExceptT.mk, StateT.run_bind, Id.run_bind]
  cases (act.run before).run with
  | mk result between => cases result <;> simp

theorem yields_read_iff :
    Yields (system.read path) t bytes after ↔ t.readFile path = .ok bytes ∧ t = after := by
  refine yields_wrap_iff.trans ?_
  change ((t.readFile path).mapError FileError.message, t) = (.ok bytes, after) ↔ _
  rw [Prod.mk.injEq]
  cases t.readFile path with
  | error failure => simp [Except.mapError]
  | ok bytes' => simp [Except.mapError]

theorem run_change_iff {act : Tree → Except FileError Tree} :
    (StateT.run (do
      match act (← get) with
      | .ok t => set t; return .ok ()
      | .error e => return .error e.message : StateM Tree (Except String Unit)) t).run =
        (.ok (), after) ↔ act t = .ok after := by
  rw [StateT.run_bind, StateT.run_get, pure_bind]
  cases act t with
  | error failure => simp
  | ok t' => simp

theorem yields_write_iff :
    Yields (system.write path bytes) t () after ↔ t.writeFile path bytes = .ok after :=
  yields_wrap_iff.trans run_change_iff

theorem yields_createDirs_iff :
    Yields (system.createDirs path) t () after ↔ t.makeDirectories path = .ok after :=
  yields_wrap_iff.trans run_change_iff

theorem lawful : system.Lawful place held where
  read step := by
    obtain ⟨read, rfl⟩ := yields_read_iff.mp step
    exact ⟨held_of_readFile read, rfl⟩
  write step := by
    obtain ⟨below, rfl⟩ := put_of_writeFile (yields_write_iff.mp step)
    exact held_put_file below
  createDirs step := held_of_makeDirectories (yields_createDirs_iff.mp step)

/-! ## Files that can be read and written -/

theorem gives {kept : Tree → Prop} (resolved : ∀ t, kept t → t.resolve path = .ok (place path))
    (found : ∀ t, kept t → t.held path = some bytes) : system.Gives kept path bytes := by
  intro t still
  have there := held_eq_some_iff.mp (found t still)
  have looked : t.lookup path = .ok (.file bytes) :=
    bind_eq_ok_iff.mpr ⟨place path, resolved t still, by rw [there]; rfl⟩
  exact ⟨t, yields_read_iff.mpr ⟨bind_eq_ok_iff.mpr ⟨_, looked, rfl⟩, rfl⟩, still⟩

/-- A directory is made in one that is there, unless it is there itself. -/
theorem exists_makeDirectories (resolved : t.resolve path = .ok names)
    (inside : t.node? names.dropLast = some .directory)
    (free : ∀ bytes, t.node? names ≠ some (.file bytes)) :
    ∃ made, t.makeDirectories path = .ok made ∧
      (made = t ∧ t.node? names = some .directory ∨
        made = t.put names .directory ∧ t.node? names = none) := by
  have some : path ≠ "" := by
    rintro rfl
    contradiction
  unfold makeDirectories makeDirectories.go
  rw [if_neg some]
  cases found : t.node? names with
  | none =>
    have made : t.makeDirectory path = .ok (t.put names .directory) :=
      bind_eq_ok_iff.mpr ⟨names, resolved, guard_eq_ok_iff.mpr
        ⟨by simp [found], by rw [inside]; rfl⟩⟩
    rw [made]
    exact ⟨_, rfl, .inr ⟨rfl, rfl⟩⟩
  | some node =>
    cases node with
    | file bytes => exact absurd found (free bytes)
    | directory =>
      have refused : t.makeDirectory path = .error .alreadyExists := by
        rw [makeDirectory, resolved]
        change (if (t.node? names).isSome then _ else _) = _
        rw [found]
        rfl
      have looked : t.lookup path = .ok .directory :=
        bind_eq_ok_iff.mpr ⟨names, resolved, by rw [found]; rfl⟩
      have present : t.isDirectory path = true := by rw [isDirectory, looked]
      rw [refused]
      refine ⟨t, ?_, .inl ⟨rfl, rfl⟩⟩
      simp [present]

theorem writeFile_of_resolve (resolved : t.resolve path = .ok names)
    (named : asksDirectory path = false) (inside : t.node? names.dropLast = some .directory)
    (free : t.node? names ≠ some .directory) :
    t.writeFile path bytes = .ok (t.put names (.file bytes)) := by
  refine bind_eq_ok_iff.mpr ⟨names, resolved, ?_⟩
  split
  · contradiction
  · exact guard_eq_ok_iff.mpr ⟨by simp [named], by rw [inside]; rfl⟩

end Potfile.Tree
