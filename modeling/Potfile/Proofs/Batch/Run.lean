import Potfile.Proofs.Batch.Target
import Potfile.Proofs.Extraction
import Potfile.Proofs.FileSystem.Tree
import Potfile.Proofs.Text.Utf8

/-! # What the files hold after a run

* `Outcome.of_eq_of_passed`, `Outcome.catalog_of_conflicts`: an input yields a catalog or errors,
  and never both.
* `Files.receive`: the writing of one outcome, as a change to what the files hold.
* `outcomes_of_extractFiles`: a whole run changes the files by one outcome after the other, and sums
  them up.
* `exists_yields_extractFiles`: a run succeeds over files that can be read, if its targets can be
  written.
* `catalog_kept_of_last`: what is found at a target is the last catalog for it. An earlier one is
  lost (`exists_catalog_lost`).
-/

namespace Potfile

open Potfile.Path (components names)

variable {σ κ : Type} [DecidableEq κ] {fs : FileSystem (StateM σ)} {place : String → κ}
variable {held : σ → Files} {x : Extractor}
variable {inputs earlier later : List String} {input output : String} {before after : σ}
variable {bytes : ByteArray} {text : String} {summary : Summary} {o : Outcome}
variable {outcomes : List Outcome}

/-! ## Outcomes -/

namespace Outcome

theorem of_eq_of_passed
    (passed : x.transform ⟨input, .buffer bytes⟩ = [.file ⟨input, .buffer text.toUTF8⟩]) :
    Outcome.of x input bytes = ⟨input, some text, []⟩ := by
  simpa [Outcome.of, passed, Event.error?, Event.file?, SourceFile.text?]
    using Text.Utf8.decodeLossy_toUTF8 text

theorem catalog_of_conflicts (some : bytes.size ≠ 0) (loud : x.conflictsIn input bytes ≠ []) :
    (Outcome.of x input bytes).errors ≠ [] ∧ (Outcome.of x input bytes).catalog = none := by
  have errors : (x.transform ⟨input, .buffer bytes⟩).filterMap Event.error? ≠ [] := by
    obtain ⟨conflict, others, equal⟩ := List.exists_cons_of_ne_nil loud
    simp [x.transform_of_conflicts some loud, equal, Event.error?]
  exact ⟨errors, if_neg errors⟩

/-- An input without errors is passed on with one text, which is its catalog. -/
theorem exists_text_of_errors_eq_nil (silent : (Outcome.of x input bytes).errors = []) :
    ∃ text : String,
      x.transform ⟨input, .buffer bytes⟩ = [.file ⟨input, .buffer text.toUTF8⟩] := by
  by_cases empty : bytes.size = 0
  · have same : bytes = "".toUTF8 := by simpa [ByteArray.ext_iff] using empty
    exact ⟨"", by rw [x.transform_of_empty empty, ← same]⟩
  · -- Conflicts would have been reported, so there are none.
    by_cases quiet : x.conflictsIn input bytes = []
    · exact ⟨_, x.transform_of_silent empty quiet⟩
    · exact absurd silent (catalog_of_conflicts empty quiet).1

theorem catalog_of_errors_ne_nil (loud : (Outcome.of x input bytes).errors ≠ []) :
    (Outcome.of x input bytes).catalog = none := if_neg loud

theorem catalog_eq_some_iff :
    (Outcome.of x input bytes).catalog = some text ↔
      x.transform ⟨input, .buffer bytes⟩ = [.file ⟨input, .buffer text.toUTF8⟩] := by
  constructor
  · intro catalog
    have silent : (Outcome.of x input bytes).errors = [] := by
      by_contra loud
      rw [catalog_of_errors_ne_nil loud] at catalog
      contradiction
    obtain ⟨text', passed⟩ := exists_text_of_errors_eq_nil silent
    rw [of_eq_of_passed passed] at catalog
    rw [passed, Option.some.inj catalog]
  · intro passed
    rw [of_eq_of_passed passed]

theorem catalog_eq_none_iff :
    (Outcome.of x input bytes).catalog = none ↔ (Outcome.of x input bytes).errors ≠ [] := by
  refine ⟨fun without silent => ?_, catalog_of_errors_ne_nil⟩
  obtain ⟨text, passed⟩ := exists_text_of_errors_eq_nil silent
  rw [catalog_eq_some_iff.mpr passed] at without
  contradiction

theorem errors_ne_nil_iff :
    (Outcome.of x input bytes).errors ≠ [] ↔ ∃ e, .error e ∈ x.transform ⟨input, .buffer bytes⟩ := by
  constructor
  · intro loud
    obtain ⟨e, member⟩ := List.exists_mem_of_ne_nil _ loud
    obtain ⟨event, within, same⟩ := List.mem_filterMap.mp member
    cases event with
    | file => contradiction
    | error e' =>
      obtain rfl := Option.some.inj same
      exact ⟨e', within⟩
  · rintro ⟨e, member⟩
    exact List.ne_nil_of_mem (List.mem_filterMap.mpr ⟨_, member, rfl⟩)

end Outcome

/-! ## Reading -/

/-- What an input yields, if it can be read. -/
def Files.outcome? (files : Files) (x : Extractor) (input : String) : Option Outcome :=
  (files input).map (Outcome.of x input)

theorem exists_outcome_of_mem {source : String → Option Outcome}
    (found : inputs.map source = outcomes.map some) (member : input ∈ inputs) :
    ∃ o ∈ outcomes, source input = some o := by
  have own : source input ∈ outcomes.map some := found ▸ List.mem_map_of_mem member
  obtain ⟨o, within, same⟩ := List.mem_map.mp own
  exact ⟨o, within, same.symm⟩

theorem exists_input_of_mem {source : String → Option Outcome}
    (found : inputs.map source = outcomes.map some) (member : o ∈ outcomes) :
    ∃ input ∈ inputs, source input = some o := by
  have own : some o ∈ inputs.map source := found ▸ List.mem_map_of_mem member
  exact List.mem_map.mp own

theorem outcomes_of_readOutcomes (lawful : fs.Lawful place held)
    (run : Yields (readOutcomes fs x inputs) before outcomes after) :
    inputs.map ((held before).outcome? x) = outcomes.map some ∧ held after = held before := by
  unfold readOutcomes at run
  induction inputs generalizing before outcomes with
  | nil =>
    obtain ⟨rfl, rfl⟩ := yields_mapM_nil_iff.mp run
    exact ⟨rfl, rfl⟩
  | cons input inputs inductionHypothesis =>
    obtain ⟨first, rest, between, rfl, step, steps⟩ := yields_mapM_cons_iff.mp run
    obtain ⟨bytes, _, reading, result⟩ := yields_bind_iff.mp step
    obtain ⟨rfl, rfl⟩ := yields_pure_iff.mp result
    -- Reading changes nothing, so that the others find what was held at first, too.
    obtain ⟨found, unchanged⟩ := lawful.read reading
    obtain ⟨others, unchanged'⟩ := inductionHypothesis steps
    rw [unchanged] at others unchanged'
    refine ⟨?_, unchanged'⟩
    rw [List.map_cons, List.map_cons, others, Files.outcome?, found, Option.map_some]

/-! ## Writing -/

/-- The files after the catalog of an outcome was written, if it has one. -/
def Files.receive (place : String → κ) (output : String) (files : Files) (o : Outcome) : Files :=
  match o.catalog with
  | none => files
  | some text => files.put place (catalogPath output o.input) text.toUTF8

theorem yields_writeOutcome_of_none {target : Option String} (catalog : o.catalog = none) :
    Yields (writeOutcome fs output o) before target after ↔ target = none ∧ before = after := by
  unfold writeOutcome
  simp only [catalog]
  rw [yields_pure_iff, eq_comm]

theorem yields_writeOutcome_of_some {target : Option String} (catalog : o.catalog = some text) :
    Yields (writeOutcome fs output o) before target after ↔
      target = some (catalogPath output o.input) ∧
      ∃ made, Yields (makeParent fs (catalogPath output o.input)) before () made ∧
        Yields (fs.write (catalogPath output o.input) text.toUTF8) made () after := by
  have steps : writeOutcome fs output o = do
      makeParent fs (catalogPath output o.input)
      fs.write (catalogPath output o.input) text.toUTF8
      return some (catalogPath output o.input) := by
    unfold writeOutcome makeParent
    simp only [catalog]
    cases Path.parent? (catalogPath output o.input) with
    | none => rw [pure_bind]
    | some parent => rfl
  rw [steps]
  simp only [yields_bind_iff, yields_pure_iff]
  constructor
  · rintro ⟨_, made, making, _, _, writing, rfl, rfl⟩
    exact ⟨rfl, made, making, writing⟩
  · rintro ⟨rfl, made, making, writing⟩
    exact ⟨_, made, making, _, _, writing, rfl, rfl⟩

theorem held_of_makeParent (lawful : fs.Lawful place held) {path : String}
    (run : Yields (makeParent fs path) before () after) : held after = held before := by
  unfold makeParent at run
  split at run
  · exact lawful.createDirs run
  · obtain ⟨_, rfl⟩ := yields_pure_iff.mp run
    rfl

theorem held_of_writeOutcome (lawful : fs.Lawful place held) {target : Option String}
    (run : Yields (writeOutcome fs output o) before target after) :
    held after = (held before).receive place output o := by
  unfold Files.receive
  cases catalog : o.catalog with
  | none =>
    obtain ⟨_, rfl⟩ := (yields_writeOutcome_of_none catalog).mp run
    rfl
  | some text =>
    obtain ⟨_, made, making, writing⟩ := (yields_writeOutcome_of_some catalog).mp run
    rw [lawful.write writing, held_of_makeParent lawful making]

theorem held_of_writeOutcomes (lawful : fs.Lawful place held) {targets : List (Option String)}
    (run : Yields (outcomes.mapM (writeOutcome fs output)) before targets after) :
    held after = outcomes.foldl (Files.receive place output) (held before) := by
  induction outcomes generalizing before targets with
  | nil =>
    obtain ⟨_, rfl⟩ := yields_mapM_nil_iff.mp run
    rfl
  | cons o outcomes inductionHypothesis =>
    obtain ⟨_, _, between, _, step, steps⟩ := yields_mapM_cons_iff.mp run
    rw [inductionHypothesis steps, held_of_writeOutcome lawful step, List.foldl_cons]

/-- Where the catalog of an outcome is written, if it has one. -/
def Outcome.target? (output : String) (o : Outcome) : Option String :=
  o.catalog.map fun _ => catalogPath output o.input

theorem targets_of_writeOutcomes {targets : List (Option String)}
    (run : Yields (outcomes.mapM (writeOutcome fs output)) before targets after) :
    targets = outcomes.map (·.target? output) := by
  induction outcomes generalizing before targets with
  | nil => exact (yields_mapM_nil_iff.mp run).1
  | cons o outcomes inductionHypothesis =>
    obtain ⟨target, others, between, rfl, step, steps⟩ := yields_mapM_cons_iff.mp run
    rw [inductionHypothesis steps, List.map_cons, Outcome.target?]
    cases catalog : o.catalog with
    | none => rw [((yields_writeOutcome_of_none catalog).mp step).1, Option.map_none]
    | some text => rw [((yields_writeOutcome_of_some catalog).mp step).1, Option.map_some]

/-! ## Whole runs -/

/-- A run changes the files by one outcome after the other, and sums them up. All of them were read
    before. -/
theorem outcomes_of_extractFiles (lawful : fs.Lawful place held)
    (run : Yields (extractFiles fs x inputs output) before summary after) :
    ∃ outcomes : List Outcome, inputs.map ((held before).outcome? x) = outcomes.map some ∧
      held after = outcomes.foldl (Files.receive place output) (held before) ∧
      summary = {
        processed := outcomes.length
        written := outcomes.filterMap (·.target? output)
        errors := outcomes.flatMap fun o => o.errors.map ((o.input, ·)) } := by
  obtain ⟨outcomes, between, reading, rest⟩ := yields_bind_iff.mp run
  obtain ⟨targets, _, writing, result⟩ := yields_bind_iff.mp rest
  obtain ⟨rfl, rfl⟩ := yields_pure_iff.mp result
  obtain ⟨found, unchanged⟩ := outcomes_of_readOutcomes lawful reading
  refine ⟨outcomes, found, by rw [held_of_writeOutcomes lawful writing, unchanged], ?_⟩
  rw [targets_of_writeOutcomes writing, List.filterMap_map, Function.id_comp]

theorem held_of_extractFiles (lawful : fs.Lawful place held)
    (run : Yields (extractFiles fs x inputs output) before summary after) :
    ∃ outcomes : List Outcome, inputs.map ((held before).outcome? x) = outcomes.map some ∧
      held after = outcomes.foldl (Files.receive place output) (held before) := by
  obtain ⟨outcomes, found, written, _⟩ := outcomes_of_extractFiles lawful run
  exact ⟨outcomes, found, written⟩

/-! ## Runs that succeed -/

theorem exists_yields_readOutcomes {kept : σ → Prop} {source : String → Option ByteArray}
    (gives : ∀ input ∈ inputs, ∃ bytes, source input = some bytes ∧ fs.Gives kept input bytes)
    (start : kept before) :
    ∃ outcomes after, Yields (readOutcomes fs x inputs) before outcomes after ∧ kept after ∧
      inputs.map (fun input => (source input).map (Outcome.of x input)) = outcomes.map some := by
  unfold readOutcomes
  induction inputs generalizing before with
  | nil => exact ⟨[], before, yields_mapM_nil_iff.mpr ⟨rfl, rfl⟩, start, rfl⟩
  | cons input inputs inductionHypothesis =>
    rw [List.forall_mem_cons] at gives
    obtain ⟨bytes, found, given⟩ := gives.1
    obtain ⟨between, reading, still⟩ := given before start
    obtain ⟨outcomes, after, steps, kept', others⟩ := inductionHypothesis gives.2 still
    refine ⟨Outcome.of x input bytes :: outcomes, after, ?_, kept', ?_⟩
    · refine yields_mapM_cons_iff.mpr ⟨_, outcomes, between, rfl, ?_, steps⟩
      exact yields_bind_iff.mpr ⟨bytes, between, reading, yields_pure_iff.mpr ⟨rfl, rfl⟩⟩
    · rw [List.map_cons, List.map_cons, others, found, Option.map_some]

theorem exists_yields_writeOutcome {kept : σ → Prop}
    (takes : fs.Takes kept (catalogPath output o.input)) (start : kept before) :
    ∃ target after, Yields (writeOutcome fs output o) before target after ∧ kept after := by
  cases catalog : o.catalog with
  | none => exact ⟨none, before, (yields_writeOutcome_of_none catalog).mpr ⟨rfl, rfl⟩, start⟩
  | some text =>
    obtain ⟨made, making, written⟩ := takes before start
    obtain ⟨after, writing, still⟩ := written text.toUTF8
    exact ⟨_, after, (yields_writeOutcome_of_some catalog).mpr ⟨rfl, made, making, writing⟩, still⟩

theorem exists_yields_writeOutcomes {kept : σ → Prop}
    (takes : ∀ o ∈ outcomes, fs.Takes kept (catalogPath output o.input)) (start : kept before) :
    ∃ targets after, Yields (outcomes.mapM (writeOutcome fs output)) before targets after := by
  induction outcomes generalizing before with
  | nil => exact ⟨[], before, yields_mapM_nil_iff.mpr ⟨rfl, rfl⟩⟩
  | cons o outcomes inductionHypothesis =>
    rw [List.forall_mem_cons] at takes
    obtain ⟨target, between, step, still⟩ := exists_yields_writeOutcome takes.1 start
    obtain ⟨targets, after, steps⟩ := inductionHypothesis takes.2 still
    exact ⟨_, after, yields_mapM_cons_iff.mpr ⟨target, targets, between, rfl, step, steps⟩⟩

/-- A run over files that can be read succeeds, if the targets of its inputs can be written. -/
theorem exists_yields_extractFiles (lawful : fs.Lawful place held) (x : Extractor)
    {kept : σ → Prop} (start : kept before)
    (gives : ∀ input ∈ inputs, ∃ bytes,
      fs.Gives (fun state => kept state ∧ held state = held before) input bytes)
    (takes : ∀ input ∈ inputs, fs.Takes kept (catalogPath output input)) :
    ∃ summary after, Yields (extractFiles fs x inputs output) before summary after := by
  have known : ∀ input ∈ inputs, ∃ bytes, held before input = some bytes ∧
      fs.Gives (fun state => kept state ∧ held state = held before) input bytes := by
    intro input member
    obtain ⟨bytes, given⟩ := gives input member
    obtain ⟨between, reading, _⟩ := given before ⟨start, rfl⟩
    exact ⟨bytes, (lawful.read reading).1, given⟩
  obtain ⟨outcomes, between, reading, ⟨still, _⟩, found⟩ :=
    exists_yields_readOutcomes (x := x) known ⟨start, rfl⟩
  have takes' : ∀ o ∈ outcomes, fs.Takes kept (catalogPath output o.input) := by
    intro o member
    obtain ⟨input, within, outcome⟩ := exists_input_of_mem found member
    obtain ⟨bytes, _, rfl⟩ := Option.map_eq_some_iff.mp outcome
    exact takes input within
  obtain ⟨targets, after, writing⟩ := exists_yields_writeOutcomes takes' still
  exact ⟨_, after, yields_bind_iff.mpr ⟨outcomes, between, reading, yields_bind_iff.mpr
    ⟨targets, after, writing, yields_pure_iff.mpr ⟨rfl, rfl⟩⟩⟩⟩

/-! ## Targets -/

theorem foldl_receive_of_apart {files : Files} {path : String}
    (apart : ∀ o ∈ outcomes, o.catalog ≠ none →
      place (catalogPath output o.input) ≠ place path) :
    outcomes.foldl (Files.receive place output) files path = files path := by
  induction outcomes generalizing files with
  | nil => rfl
  | cons o outcomes inductionHypothesis =>
    rw [List.forall_mem_cons] at apart
    rw [List.foldl_cons, inductionHypothesis apart.2, Files.receive]
    cases catalog : o.catalog with
    | none => rfl
    | some text => exact if_neg (apart.1 (by simp [catalog])).symm

/-- What is found after a run under a path that leads to the target of an input, if no later input
    without errors has its target there. -/
theorem held_target_of_last (lawful : fs.Lawful place held)
    (run : Yields (extractFiles fs x inputs output) before summary after)
    (split : inputs = earlier ++ input :: later) (found : held before input = some bytes)
    (passed : x.transform ⟨input, .buffer bytes⟩ = [.file ⟨input, .buffer text.toUTF8⟩])
    {path : String} (target : place (catalogPath output input) = place path)
    (last : ∀ other ∈ later, place (catalogPath output other) = place path → ∀ content,
      held before other = some content → (Outcome.of x other content).errors ≠ []) :
    held after path = some text.toUTF8 := by
  obtain ⟨outcomes, read, written⟩ := held_of_extractFiles lawful run
  rw [split, List.map_append, List.map_cons] at read
  obtain ⟨front, rest, rfl, _, rest'⟩ := List.map_eq_append_iff.mp read.symm
  obtain ⟨own, back, rfl, own', back'⟩ := List.map_eq_cons_iff.mp rest'
  -- Its own outcome puts the catalog there, whatever came before.
  have mine : own = ⟨input, some text, []⟩ := by
    rw [Files.outcome?, found, Option.map_some, Option.some.injEq] at own'
    rw [own', Outcome.of_eq_of_passed passed]
  rw [written, List.foldl_append, List.foldl_cons, foldl_receive_of_apart]
  · rw [mine]
    exact if_pos target.symm
  · -- A later outcome with a catalog is one without errors, so its target is elsewhere.
    intro o member present same
    obtain ⟨other, within, outcome⟩ := exists_input_of_mem back'.symm member
    obtain ⟨content, found', rfl⟩ := Option.map_eq_some_iff.mp outcome
    exact present (Outcome.catalog_of_errors_ne_nil (last other within same content found'))

/-- Below the output directory, no link leads from one target to another: where they are found at one
    place, their paths have the same components. -/
def TargetsApart (place : String → κ) (output : String) (inputs : List String) : Prop :=
  ∀ first ∈ inputs, ∀ second ∈ inputs,
    place (catalogPath output first) = place (catalogPath output second) →
      components (catalogPath output first) = components (catalogPath output second)

theorem Tree.targetsApart (output : String) (inputs : List String) :
    TargetsApart Tree.place output inputs := by
  intro first _ second _ same
  unfold Tree.place at same
  simp only [components_catalogPath, Path.walk_append, Path.walk_names] at same
  rw [components_catalogPath, components_catalogPath, List.append_cancel_left same]

/-- The catalog of an input is found at its target after a run, unless a later input without errors
    has the same target. Inputs have the same target exactly if their paths have the same names, be it
    as a path, or as the place to which the path leads where no links are in the way. -/
theorem catalog_kept_of_last (lawful : fs.Lawful place held)
    (run : Yields (extractFiles fs x inputs output) before summary after) :
    (∀ earlier input later, inputs = earlier ++ input :: later →
      ∃ bytes, held before input = some bytes ∧
        ((Outcome.of x input bytes).errors = [] →
          (∀ other ∈ later,
            place (catalogPath output other) = place (catalogPath output input) → ∀ content,
            held before other = some content → (Outcome.of x other content).errors ≠ []) →
          ∃ text : String,
            x.transform ⟨input, .buffer bytes⟩ = [.file ⟨input, .buffer text.toUTF8⟩] ∧
            held after (catalogPath output input) = some text.toUTF8)) ∧
    (∀ first ∈ inputs, ∀ second ∈ inputs,
      components (catalogPath output first) = components (catalogPath output second) ↔
        names first = names second) ∧
    (TargetsApart place output inputs → ∀ first ∈ inputs, ∀ second ∈ inputs,
      place (catalogPath output first) = place (catalogPath output second) ↔
        names first = names second) := by
  refine ⟨?_, fun _ _ _ _ => same_catalogPath_iff, ?_⟩
  · intro earlier input later split
    obtain ⟨bytes, found⟩ : ∃ bytes, held before input = some bytes := by
      obtain ⟨outcomes, read, _⟩ := held_of_extractFiles lawful run
      have member : input ∈ inputs := split ▸ List.mem_append_right _ List.mem_cons_self
      obtain ⟨o, _, outcome⟩ := exists_outcome_of_mem read member
      obtain ⟨bytes, found, _⟩ := Option.map_eq_some_iff.mp outcome
      exact ⟨bytes, found⟩
    refine ⟨bytes, found, fun silent last => ?_⟩
    obtain ⟨text, passed⟩ := Outcome.exists_text_of_errors_eq_nil silent
    exact ⟨text, passed, held_target_of_last lawful run split found passed rfl last⟩
  · intro apart first member second member'
    constructor
    · exact fun same => same_catalogPath_iff.mp (apart first member second member' same)
    · intro same
      rw [catalogPath, catalogPath, same]

/-- Two scripts of one name, one of them in a directory, and an empty directory. -/
def Tree.twoScripts : Tree where
  nodes := [(["a.js"], .file "gettext('one')".toUTF8), (["b"], .directory),
    (["b", "a.js"], .file "gettext('two')".toUTF8), (["po"], .directory)]

/-- Two inputs have the same target, at which the catalog of the later one is found. -/
theorem catalog_kept_of_last_twoScripts :
    ∃ summary after,
      Yields (extractFiles Tree.system Extractor.ofScripts ["b/../a.js", "b/a.js"] "po")
        Tree.twoScripts summary after ∧
      Tree.place (catalogPath "po" "b/../a.js") = Tree.place (catalogPath "po" "b/a.js") ∧
      (Outcome.of Extractor.ofScripts "b/a.js" "gettext('two')".toUTF8).errors = [] ∧
      ∃ text : String,
        Extractor.ofScripts.transform ⟨"b/a.js", .buffer "gettext('two')".toUTF8⟩ =
          [.file ⟨"b/a.js", .buffer text.toUTF8⟩] ∧
        after.held (catalogPath "po" "b/a.js") = some text.toUTF8 := by
  have silent : (Outcome.of Extractor.ofScripts "b/a.js" "gettext('two')".toUTF8).errors = [] := by
    decide +kernel
  obtain ⟨summary, after, run⟩ : ∃ summary after, Yields (extractFiles Tree.system
      Extractor.ofScripts ["b/../a.js", "b/a.js"] "po") Tree.twoScripts summary after :=
    exists_yields_iff.mpr (by decide +kernel)
  obtain ⟨last, _, shared⟩ := catalog_kept_of_last Tree.lawful run
  have same := (shared (Tree.targetsApart _ _) "b/../a.js" (by simp) "b/a.js" (by simp)).mpr
    (by decide +kernel)
  obtain ⟨bytes, found, kept⟩ := last ["b/../a.js"] "b/a.js" [] rfl
  obtain rfl : "gettext('two')".toUTF8 = bytes := by
    have content : Tree.twoScripts.held "b/a.js" = some "gettext('two')".toUTF8 := by decide +kernel
    exact Option.some.inj (content.symm.trans found)
  exact ⟨summary, after, run, same, silent, kept silent (by simp)⟩

/-- A script in the directory above, and one of the same name. -/
def Memory.twoScripts : Memory where
  files := [(components "../a.js", "gettext('one')".toUTF8),
    (components "a.js", "gettext('two')".toUTF8)]

/-- What is found at the target of the earlier one is not its own catalog, but that of the later. -/
theorem exists_catalog_lost :
    components "../a.js" ≠ components "a.js" ∧
    ∃ summary after,
      Yields (extractFiles Memory.system Extractor.ofScripts ["../a.js", "a.js"] "po")
        Memory.twoScripts summary after ∧
      Memory.twoScripts.held "../a.js" = some "gettext('one')".toUTF8 ∧
      (Outcome.of Extractor.ofScripts "../a.js" "gettext('one')".toUTF8).errors = [] ∧
      ∃ text : String,
        Extractor.ofScripts.transform ⟨"../a.js", .buffer "gettext('one')".toUTF8⟩ =
          [.file ⟨"../a.js", .buffer text.toUTF8⟩] ∧
        after.held (catalogPath "po" "../a.js") ≠ some text.toUTF8 := by
  have silent : (Outcome.of Extractor.ofScripts "../a.js" "gettext('one')".toUTF8).errors = [] := by
    decide +kernel
  have silent' : (Outcome.of Extractor.ofScripts "a.js" "gettext('two')".toUTF8).errors = [] := by
    decide +kernel
  have apart : (Outcome.of Extractor.ofScripts "../a.js" "gettext('one')".toUTF8).catalog ≠
      (Outcome.of Extractor.ofScripts "a.js" "gettext('two')".toUTF8).catalog := by decide +kernel
  obtain ⟨text, passed⟩ := Outcome.exists_text_of_errors_eq_nil silent
  obtain ⟨text', passed'⟩ := Outcome.exists_text_of_errors_eq_nil silent'
  rw [Outcome.of_eq_of_passed passed, Outcome.of_eq_of_passed passed'] at apart
  obtain ⟨summary, after, run⟩ : ∃ summary after, Yields (extractFiles Memory.system
      Extractor.ofScripts ["../a.js", "a.js"] "po") Memory.twoScripts summary after :=
    exists_yields_iff.mpr (by decide +kernel)
  have other : after.held (catalogPath "po" "../a.js") = some text'.toUTF8 :=
    held_target_of_last Memory.lawful run
      (show ["../a.js", "a.js"] = ["../a.js"] ++ "a.js" :: [] from rfl) (by decide +kernel)
      passed' (by decide +kernel) (by simp)
  refine ⟨by decide +kernel, summary, after, run, by decide +kernel, silent, text, passed, ?_⟩
  rw [other]
  intro equal
  exact apart (by rw [String.toByteArray_inj.mp (Option.some.inj equal)])

end Potfile
