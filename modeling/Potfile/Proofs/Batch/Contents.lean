import Potfile.Proofs.Batch.Accounting
import Potfile.Proofs.Catalog.Lines

/-! # What is in the files that a run writes

* `IsCatalog`: bytes that are the text of a catalog with given headers, and `IsCatalog.framed`: how such
  a text begins and ends.
* `WrittenFor`: what is written for an input with given bytes.
* `extractFiles_writes`: a run writes nothing else. What is written for an input with bytes in it is a
  catalog with its headers; for an empty input it is an empty file, which is no catalog
  (`exists_empty_written`).
-/

namespace Potfile

open Potfile.Catalog (headerLine)
open Potfile.Path (components)

variable {σ : Type} {fs : FileSystem (StateM σ)} {x : Extractor} {before after : σ}
variable {inputs : List String} {input output : String} {bytes content : ByteArray}
variable {headers : Headers}

/-! ## Texts of catalogs -/

/-- The bytes are the text of a catalog with these headers. -/
def IsCatalog (headers : Headers) (bytes : ByteArray) : Prop :=
  ∃ c : Catalog, c.headers = headers ∧ bytes = c.render.toUTF8

/-- The text begins with the entry of the empty message and the lines of the headers, and ends with
    the quote of its last string and one line feed. -/
structure Framed (headers : Headers) (text : String) : Prop where
  begins : ∃ rest, text =
    "msgid \"\"\nmsgstr \"\"\n" ++ String.ofList (headers.flatMap headerLine) ++ rest
  ends : ∃ front, text = front ++ "\"\n"

theorem framed_render (c : Catalog) : Framed c.headers c.render where
  begins := by
    refine ⟨String.ofList (c.items.flatMap Catalog.entryLines), ?_⟩
    have empty : Catalog.field "msgid".toList "" ++ Catalog.field "msgstr".toList "" =
        "msgid \"\"\nmsgstr \"\"\n".toList := by decide
    rw [← String.toList_inj, Catalog.render, String.toList_ofList, Catalog.chars, empty]
    simp only [String.toList_append, String.toList_ofList]
  ends := by
    obtain ⟨front, ended⟩ := Catalog.closed_chars c
    refine ⟨String.ofList front, ?_⟩
    rw [Catalog.render, ← ended, String.ofList_append]

theorem IsCatalog.framed (isCatalog : IsCatalog headers bytes) :
    ∃ text : String, bytes = text.toUTF8 ∧ Framed headers text := by
  obtain ⟨c, rfl, rfl⟩ := isCatalog
  exact ⟨c.render, rfl, framed_render c⟩

theorem IsCatalog.size_ne_zero (isCatalog : IsCatalog headers bytes) : bytes.size ≠ 0 := by
  obtain ⟨text, rfl, framed⟩ := isCatalog.framed
  obtain ⟨front, rfl⟩ := framed.ends
  intro empty
  have none : front ++ "\"\n" = "" := by
    rw [← String.toByteArray_inj]
    exact ByteArray.size_eq_zero_iff.mp empty
  exact absurd (String.append_eq_empty_iff.mp none).2 (by decide)

/-! ## One input -/

/-- What is written for an input with the given content: the bytes with which it is passed on. They are
    a catalog with the headers of the input exactly if the input is not empty. -/
structure WrittenFor (x : Extractor) (input : String) (content bytes : ByteArray) : Prop where
  passed : x.transform ⟨input, .buffer content⟩ = [.file ⟨input, .buffer bytes⟩]
  isCatalog_iff : IsCatalog ((x.headers ⟨input, .buffer content⟩).getD []) bytes ↔ content.size ≠ 0
  unchanged : content.size = 0 → bytes = content

theorem writtenFor_of_passed
    (passed : x.transform ⟨input, .buffer content⟩ = [.file ⟨input, .buffer bytes⟩]) :
    WrittenFor x input content bytes := by
  by_cases empty : content.size = 0
  · have same : bytes = content := by
      rw [x.transform_of_empty empty] at passed
      simpa using passed.symm
    refine ⟨passed, ⟨fun isCatalog => ?_, fun some => absurd empty some⟩, fun _ => same⟩
    rw [← same]
    exact isCatalog.size_ne_zero
  · -- What is passed on by itself is a catalog, since errors would be passed on in front of it.
    have silent : x.conflictsIn input content = [] := by
      by_contra loud
      rw [x.transform_of_conflicts empty loud] at passed
      obtain ⟨conflict, others, equal⟩ := List.exists_cons_of_ne_nil loud
      simp [equal] at passed
    refine ⟨passed, ⟨fun _ => empty, fun _ => ?_⟩, fun none => absurd none empty⟩
    rw [x.transform_of_silent empty silent] at passed
    obtain rfl : _ = bytes := by simpa using passed
    exact ⟨_, rfl, rfl⟩

/-! ## Runs -/

/-- The outcomes that a run reads are those of the bytes in its inputs. -/
theorem contents_of_readOutcomes {outcomes : List Outcome}
    (run : Yields (readOutcomes fs x inputs) before outcomes after) :
    ∃ contents, Yields (inputs.mapM fs.read) before contents after ∧
      outcomes = (inputs.zip contents).map fun (input, content) => Outcome.of x input content := by
  unfold readOutcomes at run
  induction inputs generalizing before outcomes with
  | nil =>
    obtain ⟨rfl, rfl⟩ := yields_mapM_nil_iff.mp run
    exact ⟨[], yields_mapM_nil_iff.mpr ⟨rfl, rfl⟩, rfl⟩
  | cons input inputs inductionHypothesis =>
    obtain ⟨first, rest, between, rfl, step, steps⟩ := yields_mapM_cons_iff.mp run
    obtain ⟨content, _, reading, result⟩ := yields_bind_iff.mp step
    obtain ⟨rfl, rfl⟩ := yields_pure_iff.mp result
    obtain ⟨contents, readings, rfl⟩ := inductionHypothesis steps
    exact ⟨content :: contents,
      yields_mapM_cons_iff.mpr ⟨content, contents, _, rfl, reading, readings⟩, rfl⟩

/-- A catalog is asked to be written for the outcome that it belongs to. -/
theorem exists_outcome_of_write {outcomes : List Outcome} {path : String}
    (member : .write path bytes ∈ outcomes.flatMap fun o => writing output o.input o.catalog) :
    ∃ o ∈ outcomes, path = catalogPath output o.input ∧
      ∃ text, o.catalog = some text ∧ bytes = text.toUTF8 := by
  obtain ⟨o, within, request⟩ := List.mem_flatMap.mp member
  cases found : o.catalog with
  | none => simp [found, writing] at request
  | some text =>
    obtain ⟨rfl, rfl⟩ : path = catalogPath output o.input ∧ bytes = text.toUTF8 := by
      simpa [found, writing] using request
    exact ⟨o, within, rfl, text, found, rfl⟩

/-- Whatever a run writes is written for one of its inputs, which all were read before, in the place
    of its catalog. It is a catalog with the headers of this input unless the input is empty: then
    an empty file is written. Catalogs begin with the empty message and the headers, and end with one
    line feed. -/
theorem extractFiles_writes (fs : FileSystem (StateM σ)) (x : Extractor) (inputs : List String)
    (output : String) (before : σ) :
    (∃ calls result after,
      Issues fs (fun _ fs => extractFiles fs x inputs output) before calls result after ∧
      ∀ path bytes failure, ⟨.write path bytes, failure⟩ ∈ calls →
        ∃ contents between, Yields (inputs.mapM fs.read) before contents between ∧
          ∃ input content, (input, content) ∈ inputs.zip contents ∧
            path = catalogPath output input ∧ WrittenFor x input content bytes) ∧
    ∀ headers bytes, IsCatalog headers bytes →
      ∃ text : String, bytes = text.toUTF8 ∧ Framed headers text := by
  refine ⟨?_, fun _ _ => IsCatalog.framed⟩
  obtain ⟨calls, result, after, issued, phases⟩ := exists_issues_extractFiles x inputs output before
  refine ⟨calls, result, after, issued, fun path bytes failure member => ?_⟩
  obtain ⟨_, _, course, _⟩ | ⟨outcomes, between, effects, reading, rfl, course⟩ := phases
  · -- Up to an input that cannot be read, nothing is asked for but reading.
    obtain ⟨_, _, request⟩ := List.mem_map.mp (course.request_mem member)
    contradiction
  · obtain ⟨contents, readings, rfl⟩ := contents_of_readOutcomes reading
    have effect : ⟨.write path bytes, failure⟩ ∈ effects := by
      refine (List.mem_append.mp member).resolve_left fun read => ?_
      simp [Call.granted] at read
    obtain ⟨o, within, rfl, text, found, rfl⟩ := exists_outcome_of_write (course.request_mem effect)
    obtain ⟨⟨input, content⟩, paired, rfl⟩ := List.mem_map.mp within
    exact ⟨contents, between, readings, input, content, paired, rfl,
      writtenFor_of_passed (Outcome.catalog_eq_some_iff.mp found)⟩

/-- An empty script. -/
def Memory.emptyScript : Memory where
  files := [(components "a.js", "".toUTF8)]

/-- A run over an empty script says that it has written a catalog. What is found there is no
    catalog, whatever its headers were. -/
theorem exists_empty_written :
    ∃ summary after,
      Yields (extractFiles Memory.system Extractor.ofScripts ["a.js"] "po") Memory.emptyScript
        summary after ∧
      summary.written = ["po/a.js.pot"] ∧
      after.held "po/a.js.pot" = some "".toUTF8 ∧
      ∀ headers, ¬ IsCatalog headers "".toUTF8 := by
  obtain ⟨summary, after, run⟩ : ∃ summary after, Yields (extractFiles Memory.system
      Extractor.ofScripts ["a.js"] "po") Memory.emptyScript summary after :=
    exists_yields_iff.mpr (by decide +kernel)
  have accounted := accounted_of_yields Memory.lawful run
  refine ⟨summary, after, run, ?_, ?_, fun headers isCatalog => isCatalog.size_ne_zero rfl⟩
  · rw [accounted.written]
    decide +kernel
  · obtain ⟨content, passed, left⟩ := accounted.last "po/a.js.pot" "a.js" (by decide +kernel)
    have empty : Memory.emptyScript.held.eventsFor Extractor.ofScripts "a.js" =
        [.file ⟨"a.js", .buffer "".toUTF8⟩] := by rfl
    obtain rfl : "".toUTF8 = content := by simpa using empty.symm.trans passed
    exact left

end Potfile
