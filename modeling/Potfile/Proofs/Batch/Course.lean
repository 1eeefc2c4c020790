import Potfile.Proofs.Batch.Run
import Potfile.Proofs.FileSystem.Calls

/-! # What a run asks for

* `writing`: how a catalog is written, first its directory and then the file; `plan`: how the
  catalogs of some inputs are.
* `exists_issues_extractFiles`: a run asks for its inputs, and then for what is written for their
  outcomes, each up to the first failure.
* `extractFiles_orderly`: nothing is written if an input cannot be read. Otherwise the catalogs are
  written in the order of the inputs, up to the first failure.
-/

namespace Potfile

variable {σ : Type} {fs : FileSystem (StateM σ)} {x : Extractor} {before after : σ}
variable {inputs : List String} {input output : String} {o : Outcome}

/-! ## Outcomes -/

/-- The directory in which the catalog of an input is written. -/
def catalogParent (output input : String) : String :=
  (Path.parent? (catalogPath output input)).getD ""

theorem parent?_catalogPath (output input : String) :
    Path.parent? (catalogPath output input) = some (catalogParent output input) := by
  obtain ⟨parent, found⟩ := exists_parent?_catalogPath output input
  rw [catalogParent, found, Option.getD_some]

/-- What is asked for to write a catalog, if there is one. -/
def writing (output input : String) : (catalog : Option String) → List Request
  | none => []
  | some text => [.createDirs (catalogParent output input),
      .write (catalogPath output input) text.toUTF8]

/-- What is asked for to write the catalogs of some inputs, in their order. -/
def plan (output : String) (catalog : String → Option String) (inputs : List String) :
    List Request :=
  inputs.flatMap fun input => writing output input (catalog input)

theorem follows_writeOutcome (fs : FileSystem (StateM σ)) (output : String) (o : Outcome) :
    Follows fs (fun _ fs => writeOutcome fs output o) (writing output o.input o.catalog) := by
  unfold writeOutcome
  cases catalog : o.catalog with
  | none => exact .pure none
  | some text =>
    simp only [parent?_catalogPath]
    exact .bind (.createDirs _) fun _ => .bind (.write _ _) fun _ => .pure _

theorem follows_readOutcomes (fs : FileSystem (StateM σ)) (x : Extractor) (inputs : List String) :
    Follows fs (fun _ fs => readOutcomes fs x inputs) (inputs.map .read) := by
  rw [List.map_eq_flatMap]
  exact .mapM (fun input => .bind (.read input) fun _ => .pure _) inputs

/-- What is written for the outcomes of inputs is written for the inputs, in terms of their bytes. -/
theorem plan_of_found {outcomes : List Outcome} {source : String → Option ByteArray}
    (found : (inputs.map fun input => (source input).map (Outcome.of x input)) =
      outcomes.map some) :
    (outcomes.flatMap fun o => writing output o.input o.catalog) =
      plan output (fun input => (source input).bind fun bytes => (Outcome.of x input bytes).catalog)
        inputs := by
  simp only [plan]
  induction inputs generalizing outcomes with
  | nil =>
    obtain rfl := List.map_eq_nil_iff.mp found.symm
    rfl
  | cons input inputs inductionHypothesis =>
    obtain ⟨o, others, rfl, own, others'⟩ := List.map_eq_cons_iff.mp found.symm
    obtain ⟨bytes, known, rfl⟩ := Option.map_eq_some_iff.mp own.symm
    rw [List.flatMap_cons, List.flatMap_cons, inductionHypothesis others'.symm, known]
    rfl

/-! ## Where a run stands -/

/-- An item of a flattened list belongs to one of the parts. -/
theorem exists_of_flatMap_eq {α β : Type} {part : α → List β} {items : List α} {front back : List β}
    {b : β} (split : items.flatMap part = front ++ b :: back) :
    ∃ earlier item later own rest, items = earlier ++ item :: later ∧
      front = earlier.flatMap part ++ own ∧ part item = own ++ b :: rest := by
  induction items generalizing front with
  | nil => exact absurd split (by simp)
  | cons item items inductionHypothesis =>
    rw [List.flatMap_cons, List.append_eq_append_iff] at split
    obtain ⟨between, rfl, others⟩ | ⟨between, own, rest⟩ := split
    · -- The first part is in front, so the item is among the others.
      obtain ⟨earlier, item', later, own, rest, rfl, rfl, place⟩ := inductionHypothesis others
      exact ⟨item :: earlier, item', later, own, rest, rfl, by simp, place⟩
    · cases between with
      | nil =>
        obtain ⟨earlier, item', later, own', rest', rfl, equal, place⟩ :=
          inductionHypothesis (show _ = [] ++ b :: back by simpa using rest.symm)
        refine ⟨item :: earlier, item', later, own', rest', rfl, ?_, place⟩
        rw [List.flatMap_cons, List.append_assoc, ← equal, List.append_nil, own, List.append_nil]
      | cons first between =>
        obtain ⟨rfl, rfl⟩ := List.cons.inj rest
        exact ⟨[], item, items, front, between, rfl, rfl, own⟩

variable {catalog : String → Option String}

/-- Whatever is asked for is the directory or the file of a catalog, behind all that was asked for
    earlier inputs. -/
theorem exists_input_of_flatMap_eq {asked left : List Request} {request : Request}
    (split : plan output catalog inputs = asked ++ request :: left) :
    ∃ earlier input later text, inputs = earlier ++ input :: later ∧ catalog input = some text ∧
      (asked = plan output catalog earlier ∧ request = .createDirs (catalogParent output input) ∨
        asked = plan output catalog earlier ++ [.createDirs (catalogParent output input)] ∧
          request = .write (catalogPath output input) text.toUTF8) := by
  obtain ⟨earlier, input, later, own, rest, rfl, rfl, place⟩ := exists_of_flatMap_eq split
  cases found : catalog input with
  | none => exact absurd place (by simp [found, writing])
  | some text =>
    refine ⟨earlier, input, later, text, rfl, found, ?_⟩
    rw [found, writing] at place
    match own with
    | [] =>
      obtain ⟨rfl, _⟩ := List.cons.inj place
      exact .inl ⟨List.append_nil _, rfl⟩
    | [first] =>
      obtain ⟨rfl, equal⟩ := List.cons.inj place
      obtain ⟨rfl, _⟩ := List.cons.inj equal
      exact .inr ⟨rfl, rfl⟩
    | _ :: _ :: _ => simp at place

/-! ## Runs -/

/-- A run asks for its inputs, up to the first that cannot be read. Behind them all it asks for what
    is written for their outcomes, up to the first failure. -/
theorem exists_issues_extractFiles (x : Extractor) (inputs : List String) (output : String)
    (before : σ) :
    ∃ calls result after,
      Issues fs (fun _ fs => extractFiles fs x inputs output) before calls result after ∧
      ((∃ failure, perform (readOutcomes fs x inputs) before = (.error failure, after) ∧
          Course (inputs.map .read) calls (some failure) ∧ result = .error failure) ∨
        ∃ outcomes between effects,
          Yields (readOutcomes fs x inputs) before outcomes between ∧
          calls = inputs.map (.granted <| .read ·) ++ effects ∧
          Course (outcomes.flatMap fun o => writing output o.input o.catalog) effects
            (failure? result)) := by
  obtain ⟨calls, result, between, reading, course⟩ := follows_readOutcomes fs x inputs before
  cases result with
  | error failure =>
    exact ⟨calls, _, between, reading.bind_error, .inl ⟨failure, reading.ends, course, rfl⟩⟩
  | ok outcomes =>
    -- What is returned behind the last catalog asks for nothing more.
    have written := (Follows.mapM (follows_writeOutcome fs output) outcomes).bind
      (q := fun places _ _ => pure {
        processed := outcomes.length
        written := places.filterMap id
        errors := outcomes.flatMap fun o => o.errors.map ((o.input, ·)) : Summary })
      fun _ => .pure _
    obtain ⟨effects, result, after, issued, course'⟩ := written between
    rw [List.append_nil] at course'
    have calls_eq : calls = inputs.map (.granted <| .read ·) := by
      rw [course.eq_of_completed, List.map_map]
      rfl
    exact ⟨calls ++ effects, result, after, reading.bind issued,
      .inr ⟨outcomes, between, effects, reading.ends, by rw [calls_eq], course'⟩⟩

/-! ## Steady file systems -/

/-- The catalog of an input in a state, if the input can be read and has no errors. -/
def catalogIn? (fs : FileSystem (StateM σ)) (x : Extractor) (state : σ) (input : String) :
    Option String :=
  (fs.found? state input).bind fun bytes => (Outcome.of x input bytes).catalog

theorem perform_readOutcomes_of_missing (steady : fs.Steady)
    (missing : ∃ input ∈ inputs, fs.found? before input = none) :
    ∃ failure, perform (readOutcomes fs x inputs) before = (.error failure, before) := by
  unfold readOutcomes
  induction inputs with
  | nil => simp at missing
  | cons input inputs inductionHypothesis =>
    rw [List.mapM_cons, perform_bind, perform_bind]
    cases found : fs.found? before input with
    | none =>
      obtain ⟨failure, reading⟩ := steady.exists_read_error found
      exact ⟨failure, by rw [reading]⟩
    | some bytes =>
      -- The input that is missing is another one, and it is missing still.
      obtain ⟨failure, reading⟩ := inductionHypothesis (by simpa [found] using missing)
      refine ⟨failure, ?_⟩
      rw [show perform (fs.read input) before = _ from steady.yields_read found]
      change perform (_ >>= _) before = _
      rw [perform_bind, reading]

/-! ## Order -/

/-- Where a catalog is written, and its bytes. -/
def placed (output input : String) (catalog : Option String) : Option (String × ByteArray) :=
  catalog.map fun text => (catalogPath output input, text.toUTF8)

theorem filterMap_written?_plan (output : String) (catalog : String → Option String)
    (inputs : List String) :
    ((plan output catalog inputs).map .granted).filterMap Call.written? =
      inputs.filterMap fun input => placed output input (catalog input) := by
  unfold plan
  induction inputs with
  | nil => rfl
  | cons input inputs inductionHypothesis =>
    rw [List.flatMap_cons, List.map_append, List.filterMap_append, inductionHypothesis,
      List.filterMap_cons]
    cases catalog input <;> rfl

/-- The effects of a run that writes catalogs, with the failure at which it stops. -/
structure Orderly (output : String) (catalog : String → Option String) (inputs : List String)
    (effects : List Call) (ending : Option Failure) : Prop where
  not_isRead : ∀ call ∈ effects, ¬ call.request.isRead
  /-- A file is written into a directory that was made right before. -/
  led : ∀ front path bytes failure back, effects = front ++ ⟨.write path bytes, failure⟩ :: back →
    ∃ made parent, Path.parent? path = some parent ∧ front = made ++ [.granted (.createDirs parent)]
  failed_iff : ending ≠ none ↔ ∃ call ∈ effects, call.failure ≠ none
  completed : ending = none →
    effects = (plan output catalog inputs).map .granted ∧
    effects.filterMap Call.written? =
      inputs.filterMap fun input => placed output input (catalog input)
  /-- Where a run stops, everything was done for the inputs before that one, and nothing is asked for
      behind it. -/
  stopped : ∀ failure, ending = some failure →
    ∃ earlier input later text last, inputs = earlier ++ input :: later ∧
      catalog input = some text ∧
      effects = (plan output catalog earlier).map .granted ++ last ∧
      (last = [.refused (.createDirs (catalogParent output input)) failure] ∨
        last = [.granted (.createDirs (catalogParent output input)),
          .refused (.write (catalogPath output input) text.toUTF8) failure]) ∧
      effects.filterMap Call.written? =
        earlier.filterMap fun input => placed output input (catalog input)

namespace Orderly

variable {effects : List Call} {ending : Option Failure}

theorem exists_last {failure : Failure}
    (course : Course (plan output catalog inputs) effects (some failure)) :
    ∃ earlier input later text last, inputs = earlier ++ input :: later ∧
      catalog input = some text ∧
      effects = (plan output catalog earlier).map .granted ++ last ∧
      (last = [.refused (.createDirs (catalogParent output input)) failure] ∨
        last = [.granted (.createDirs (catalogParent output input)),
          .refused (.write (catalogPath output input) text.toUTF8) failure]) := by
  obtain ⟨asked, request, left, split, rfl⟩ := course.exists_of_failed
  obtain ⟨earlier, input, later, text, rfl, found, ⟨rfl, rfl⟩ | ⟨rfl, rfl⟩⟩ :=
    exists_input_of_flatMap_eq split
  · exact ⟨earlier, input, later, text, _, rfl, found, rfl, .inl rfl⟩
  · refine ⟨earlier, input, later, text, _, rfl, found, ?_, .inr rfl⟩
    rw [List.map_append, List.append_assoc]
    rfl

theorem of_course (course : Course (plan output catalog inputs) effects ending) :
    Orderly output catalog inputs effects ending where
  not_isRead call member := by
    obtain ⟨input, _, request⟩ := List.mem_flatMap.mp (course.request_mem member)
    cases found : catalog input with
    | none => simp [found, writing] at request
    | some text =>
      obtain same | same : _ ∨ _ := by simpa [found, writing] using request
      · simp [same, Request.isRead]
      · simp [same, Request.isRead]
  led front path bytes failure back split := by
    rw [split] at course
    obtain ⟨asked, left, equal, rfl⟩ := course.exists_front
    obtain ⟨earlier, input, _, text, _, _, ⟨_, request⟩ | ⟨rfl, request⟩⟩ :=
      exists_input_of_flatMap_eq equal
    · contradiction
    · obtain ⟨rfl, rfl⟩ := Request.write.inj request
      exact ⟨_, catalogParent output input, parent?_catalogPath output input, List.map_append⟩
  failed_iff := course.ending_ne_none_iff
  completed none := by
    subst none
    rw [course.eq_of_completed]
    exact ⟨rfl, filterMap_written?_plan output catalog inputs⟩
  stopped failure some := by
    subst some
    obtain ⟨earlier, input, later, text, last, split, found, equal, ends⟩ := exists_last course
    refine ⟨earlier, input, later, text, last, split, found, equal, ends, ?_⟩
    -- Neither way to stop has written anything for the input itself.
    have unwritten : last.filterMap Call.written? = [] := by
      obtain rfl | rfl := ends
      · rfl
      · rfl
    rw [equal, List.filterMap_append, filterMap_written?_plan, unwritten, List.append_nil]

end Orderly

/-- If an input cannot be read, a run fails without having asked for anything but reading, and all
    is as before. Otherwise it writes the catalogs of the inputs without errors, in their order and
    up to the first failure. -/
theorem extractFiles_orderly (steady : fs.Steady) (x : Extractor) (inputs : List String)
    (output : String) (before : σ) :
    ∃ calls result after,
      Issues fs (fun _ fs => extractFiles fs x inputs output) before calls result after ∧
      ((∃ input ∈ inputs, fs.found? before input = none) →
        failure? result ≠ none ∧ (∀ call ∈ calls, call.request.isRead) ∧ after = before) ∧
      ((∀ input ∈ inputs, fs.found? before input ≠ none) →
        ∃ effects, calls = inputs.map (.granted <| .read ·) ++ effects ∧
          Orderly output (catalogIn? fs x before) inputs effects (failure? result)) ∧
      ∀ input ∈ inputs, ∀ bytes, fs.found? before input = some bytes →
        (∀ text, catalogIn? fs x before input = some text ↔
          x.transform ⟨input, .buffer bytes⟩ = [.file ⟨input, .buffer text.toUTF8⟩]) ∧
        (catalogIn? fs x before input = none ↔
          ∃ e, .error e ∈ x.transform ⟨input, .buffer bytes⟩) := by
  obtain ⟨calls, result, after, issued, phases⟩ := exists_issues_extractFiles x inputs output before
  refine ⟨calls, result, after, issued, fun missing => ?_, fun readable => ?_, ?_⟩
  · obtain ⟨failure, reading⟩ := perform_readOutcomes_of_missing (x := x) steady missing
    obtain ⟨failure', ended, course, rfl⟩ | ⟨outcomes, between, _, read, _⟩ := phases
    · have same := (Prod.ext_iff.mp (ended.symm.trans reading)).2
      refine ⟨Option.some_ne_none _, fun call member => ?_, same⟩
      obtain ⟨input, _, request⟩ := List.mem_map.mp (course.request_mem member)
      rw [← request]
      rfl
    · have contrary := (Prod.ext_iff.mp (read.symm.trans reading)).1
      contradiction
  · have gives : ∀ input ∈ inputs, ∃ bytes, fs.found? before input = some bytes ∧
        fs.Gives (· = before) input bytes := by
      intro input member
      obtain ⟨bytes, found⟩ := Option.ne_none_iff_exists'.mp (readable input member)
      refine ⟨bytes, found, ?_⟩
      rintro _ rfl
      exact ⟨_, steady.yields_read found, rfl⟩
    obtain ⟨outcomes, _, reading, rfl, found⟩ := exists_yields_readOutcomes (x := x) gives rfl
    obtain ⟨failure, ended, _⟩ | ⟨outcomes', between, effects, read, rfl, course⟩ := phases
    · have contrary := (Prod.ext_iff.mp (ended.symm.trans reading)).1
      contradiction
    · obtain rfl := Except.ok.inj (Prod.ext_iff.mp (read.symm.trans reading)).1
      rw [plan_of_found found] at course
      exact ⟨effects, rfl, .of_course course⟩
  · intro input _ bytes found
    rw [catalogIn?, found, Option.bind_some]
    exact ⟨fun text => Outcome.catalog_eq_some_iff,
      Outcome.catalog_eq_none_iff.trans Outcome.errors_ne_nil_iff⟩

/-- A tree where a file stands in the way of the second catalog's directory. -/
def Tree.blocked : Tree where
  nodes := [(["a.js"], .file "gettext('one')".toUTF8), (["b"], .directory),
    (["b", "c.js"], .file "gettext('two')".toUTF8), (["po"], .directory),
    (["po", "b"], .file "".toUTF8)]

/-- One run that misses an input, and one that stops at the second catalog. -/
theorem extractFiles_orderly_blocked :
    Tree.system.Steady ∧
    (∃ calls result after,
      Issues Tree.system (fun _ fs => extractFiles fs Extractor.ofScripts ["a.js", "d.js"] "po")
        Tree.blocked calls result after ∧
      failure? result ≠ none ∧ (∀ call ∈ calls, call.request.isRead) ∧ after = Tree.blocked) ∧
    ∃ calls result after effects,
      Issues Tree.system (fun _ fs => extractFiles fs Extractor.ofScripts ["a.js", "b/c.js"] "po")
        Tree.blocked calls result after ∧
      calls = ["a.js", "b/c.js"].map (.granted <| .read ·) ++ effects ∧
      Orderly "po" (catalogIn? Tree.system Extractor.ofScripts Tree.blocked) ["a.js", "b/c.js"] effects
        (failure? result) ∧ failure? result ≠ none := by
  refine ⟨Tree.steady, ?_, ?_⟩
  · obtain ⟨calls, result, after, issued, clean, _⟩ :=
      extractFiles_orderly Tree.steady Extractor.ofScripts ["a.js", "d.js"] "po" Tree.blocked
    exact ⟨calls, result, after, issued, clean ⟨"d.js", by simp, by decide +kernel⟩⟩
  · obtain ⟨calls, result, after, issued, _, orderly, _⟩ :=
      extractFiles_orderly Tree.steady Extractor.ofScripts ["a.js", "b/c.js"] "po" Tree.blocked
    obtain ⟨effects, split, orderly⟩ := orderly (by decide +kernel)
    refine ⟨calls, result, after, effects, issued, split, orderly, ?_⟩
    have stops : failure? (perform (extractFiles Tree.system Extractor.ofScripts
        ["a.js", "b/c.js"] "po") Tree.blocked).1 ≠ none := by decide +kernel
    rwa [issued.ends] at stops

end Potfile
