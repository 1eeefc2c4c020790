import Potfile.Proofs.Extraction
import Mathlib.Data.List.Forall2

/-! # What is passed on

* `Extractor.Passes`: what is passed on for one file. There are five ways for a file to arrive, and
  each decides all events.
* `passes_run`: a run passes on what is passed on for its files, one after another.
-/

namespace Potfile

open Registry (conflictsFrom tally)

/-- Content that comes in pieces. -/
def Contents.isStream : Contents → Bool
  | stream => true
  | null | buffer _ => false

namespace Extractor

variable (x : Extractor)

/-! ## One file -/

/-- What is passed on for a file. -/
inductive Passes : SourceFile → List Event → Prop where
  | stream {path : String} : Passes ⟨path, .stream⟩ [.error .streamingNotSupported]
  | null {path : String} : Passes ⟨path, .null⟩ [.file ⟨path, .null⟩]
  | empty {path : String} {bytes : ByteArray} : bytes.size = 0 →
      Passes ⟨path, .buffer bytes⟩ [.file ⟨path, .buffer bytes⟩]
  /-- An error for each occurrence that contradicts an earlier one, and then the file with the bytes
      with which it came, which need not be those of the text that was read. -/
  | contradictory {path : String} {bytes : ByteArray} {conflicts : List PluralConflict} :
      bytes.size ≠ 0 →
      conflictsFrom (x.locate ⟨path, .buffer bytes⟩) [] (x.occurrencesIn path bytes) = conflicts →
      conflicts ≠ [] →
      Passes ⟨path, .buffer bytes⟩
        (conflicts.map (.error <| .incompatiblePlural ·) ++ [.file ⟨path, .buffer bytes⟩])
  | consistent {path : String} {bytes : ByteArray} {catalog : Catalog} :
      bytes.size ≠ 0 →
      conflictsFrom (x.locate ⟨path, .buffer bytes⟩) [] (x.occurrencesIn path bytes) = [] →
      x.catalog ⟨path, .buffer bytes⟩
        (tally (x.locate ⟨path, .buffer bytes⟩) (x.occurrencesIn path bytes)) = catalog →
      Passes ⟨path, .buffer bytes⟩ [.file ⟨path, .buffer catalog.render.toUTF8⟩]

theorem conflictsIn_eq (path : String) (bytes : ByteArray) :
    x.conflictsIn path bytes =
      conflictsFrom (x.locate ⟨path, .buffer bytes⟩) [] (x.occurrencesIn path bytes) := by
  rw [conflictsIn, pass, FilePass.conflicts_eq, occurrencesIn]

theorem passes_transform (file : SourceFile) : x.Passes file (x.transform file) := by
  obtain ⟨path, contents⟩ := file
  cases contents with
  | null => exact .null
  | stream => exact .stream
  | buffer bytes =>
    by_cases empty : bytes.size = 0
    · rw [x.transform_of_empty empty]
      exact .empty empty
    · by_cases silent : x.conflictsIn path bytes = []
      · rw [x.transform_of_silent empty silent]
        exact .consistent empty (x.conflictsIn_eq path bytes ▸ silent) rfl
      · rw [x.transform_of_conflicts empty silent]
        exact .contradictory empty (x.conflictsIn_eq path bytes).symm silent

/-- The five ways exclude each other, so that the file determines what is passed on for it. -/
theorem Passes.unique {x : Extractor} {file : SourceFile} {events events' : List Event}
    (passes : x.Passes file events) (passes' : x.Passes file events') : events = events' := by
  -- The content tells the first two from the others, and these apart by its bytes and conflicts.
  cases passes with
  | stream => cases passes'; rfl
  | null => cases passes'; rfl
  | empty size =>
    cases passes' with
    | empty => rfl
    | contradictory size' | consistent size' => exact absurd size size'
  | contradictory size found some =>
    cases passes' with
    | empty size' => exact absurd size' size
    | contradictory _ found' => rw [← found, ← found']
    | consistent _ silent => exact absurd (found.symm.trans silent) some
  | consistent size silent made =>
    cases passes' with
    | empty size' => exact absurd size' size
    | contradictory _ found' some' => exact absurd (found'.symm.trans silent) some'
    | consistent _ _ made' => rw [← made, ← made']

theorem Passes.paths {x : Extractor} {file : SourceFile} {events : List Event}
    (passes : x.Passes file events) :
    (events.filterMap Event.file?).map (·.path) =
      if file.contents.isStream then [] else [file.path] := by
  cases passes with
  | stream | null | empty | consistent => rfl
  | @contradictory path bytes conflicts =>
    have noFile : (conflicts.map (Event.error <| .incompatiblePlural ·)).filterMap Event.file? =
        [] := by
      simp [Event.file?]
    rw [List.filterMap_append, noFile]
    rfl

/-! ## Many files -/

theorem run_cons (file : SourceFile) (rest : List SourceFile) :
    x.run (file :: rest) = x.transform file ++ x.run rest := by
  rw [run, List.flatMap_cons, run]

theorem run_append (before after : List SourceFile) :
    x.run (before ++ after) = x.run before ++ x.run after := by
  rw [run, List.flatMap_append, run, run]

theorem paths_run (files : List SourceFile) :
    ((x.run files).filterMap Event.file?).map (·.path) =
      (files.filter (!·.contents.isStream)).map (·.path) := by
  induction files with
  | nil => rfl
  | cons file rest inductionHypothesis =>
    rw [run_cons, List.filterMap_append, List.map_append, inductionHypothesis,
      (x.passes_transform file).paths, List.filter_cons]
    cases file.contents.isStream <;> rfl

/-- What a run passes on consists of one part for each file, in the order of the files, and the file
    alone determines its part, whatever stands around it. The files passed on have the paths of those
    that came, apart from the streams. -/
theorem passes_run :
    (∀ files events, x.run files = events ↔
      ∃ parts, List.Forall₂ x.Passes files parts ∧ parts.flatten = events) ∧
    (∀ files, ((x.run files).filterMap Event.file?).map (·.path) =
      (files.filter (!·.contents.isStream)).map (·.path)) ∧
    ∀ before file after,
      x.run (before ++ file :: after) = x.run before ++ x.run [file] ++ x.run after := by
  refine ⟨?_, x.paths_run, ?_⟩
  · intro files events
    constructor
    · rintro rfl
      refine ⟨files.map x.transform, ?_, List.flatMap_def.symm⟩
      rw [List.forall₂_map_right_iff, List.forall₂_same]
      exact fun file _ => x.passes_transform file
    · -- No file can be passed on in two ways, so the parts are those of the run.
      rintro ⟨parts, passed, rfl⟩
      induction passed with
      | nil => rfl
      | cons first _ inductionHypothesis =>
        rw [run_cons, List.flatten_cons, inductionHypothesis,
          (x.passes_transform _).unique first]
  · intro before file after
    rw [← List.singleton_append, run_append, run_append, List.append_assoc]

end Extractor

end Potfile
