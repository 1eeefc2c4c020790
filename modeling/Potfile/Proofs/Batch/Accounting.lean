import Potfile.Proofs.Batch.Course

/-! # What a run leaves and counts

* `Files.eventsFor`, `Files.errorsIn`: what is passed on for an input with the bytes that are held.
* `Accounted`: the summary of a run, and the files behind it.
* `extractFiles_accounted`: over inputs that can be read, and with targets that can be written, a run
  succeeds and is accounted for.
-/

namespace Potfile

variable {σ κ : Type} [DecidableEq κ] {fs : FileSystem (StateM σ)} {place : String → κ}
variable {held : σ → Files} {x : Extractor} {files : Files} {inputs : List String} {input output : String}
variable {outcomes : List Outcome} {o : Outcome} {bytes : ByteArray}

/-! ## Inputs -/

/-- What is passed on for an input with the bytes that are held for it. -/
def Files.eventsFor (files : Files) (x : Extractor) (input : String) : List Event :=
  match files input with
  | none => []
  | some bytes => x.transform ⟨input, .buffer bytes⟩

def Files.errorsIn (files : Files) (x : Extractor) (input : String) : List ExtractError :=
  (files.eventsFor x input).filterMap Event.error?

theorem Files.errorsIn_of_held (known : files input = some bytes) :
    files.errorsIn x input = (Outcome.of x input bytes).errors := by
  rw [errorsIn, eventsFor, known]
  rfl

/-- The outcome of an input has the errors in it, and a target if there are none. -/
theorem Files.outcome?_eq_some (output : String) (found : files.outcome? x input = some o) :
    o.input = input ∧ o.errors = files.errorsIn x input ∧
      o.target? output =
        if files.errorsIn x input = [] then some (catalogPath output input) else none := by
  obtain ⟨bytes, known, rfl⟩ := Option.map_eq_some_iff.mp found
  rw [errorsIn_of_held known, Outcome.target?]
  refine ⟨rfl, rfl, ?_⟩
  split
  next silent =>
    obtain ⟨text, passed⟩ := Outcome.exists_text_of_errors_eq_nil silent
    rw [Outcome.of_eq_of_passed passed, Option.map_some]
  next loud => rw [Outcome.catalog_of_errors_ne_nil loud, Option.map_none]

/-! ## Summaries -/

/-- The outcomes of inputs, summed up in terms of the inputs. -/
theorem summed_up_of_found (output : String)
    (found : inputs.map (files.outcome? x) = outcomes.map some) :
    outcomes.length = inputs.length ∧
    outcomes.filterMap (·.target? output) =
      (inputs.filter (files.errorsIn x · = [])).map (catalogPath output) ∧
    (outcomes.flatMap fun o => o.errors.map ((o.input, ·))) =
      inputs.flatMap fun input => (files.errorsIn x input).map ((input, ·)) := by
  induction inputs generalizing outcomes with
  | nil =>
    obtain rfl := List.map_eq_nil_iff.mp found.symm
    exact ⟨rfl, rfl, rfl⟩
  | cons input inputs inductionHypothesis =>
    obtain ⟨o, others, rfl, own, others'⟩ := List.map_eq_cons_iff.mp found.symm
    obtain ⟨length, targets, errors⟩ := inductionHypothesis others'.symm
    obtain ⟨rfl, own_errors, own_target⟩ := Files.outcome?_eq_some output own.symm
    refine ⟨?_, ?_, ?_⟩
    · rw [List.length_cons, List.length_cons, length]
    · rw [List.filterMap_cons, own_target, targets, List.filter_cons]
      by_cases silent : files.errorsIn x o.input = []
      · simp [silent]
      · simp [silent]
    · rw [List.flatMap_cons, List.flatMap_cons, own_errors, errors]

theorem mem_tags_iff (member : input ∈ inputs) :
    input ∈ (inputs.flatMap fun input => (files.errorsIn x input).map ((input, ·))).map Prod.fst ↔
      files.errorsIn x input ≠ [] := by
  simp only [List.mem_map, List.mem_flatMap]
  constructor
  · rintro ⟨_, ⟨other, _, e, within, rfl⟩, rfl⟩
    exact List.ne_nil_of_mem within
  · intro loud
    obtain ⟨e, within⟩ := List.exists_mem_of_ne_nil _ loud
    exact ⟨(input, e), ⟨input, member, e, within, rfl⟩, rfl⟩

/-! ## Accounts -/

/-- The summary of a run that finds `files`, and what it leaves. -/
structure Accounted (place : String → κ) (files : Files) (x : Extractor) (inputs : List String)
    (output : String) (summary : Summary) (left : Files) : Prop where
  processed : summary.processed = inputs.length
  written : summary.written = (inputs.filter (files.errorsIn x · = [])).map (catalogPath output)
  errors : summary.errors = inputs.flatMap fun input => (files.errorsIn x input).map ((input, ·))
  /-- Each input is counted in one of the two lists. -/
  once : summary.written.length +
    (inputs.filter (· ∈ summary.errors.map Prod.fst)).length = summary.processed
  /-- Under a path that leads to a target, the catalog of the last input without errors is found. -/
  last : ∀ path input,
    (inputs.filter fun input => files.errorsIn x input = [] ∧
      place (catalogPath output input) = place path).getLast? = some input →
    ∃ content, files.eventsFor x input = [.file ⟨input, .buffer content⟩] ∧ left path = some content
  /-- All other files are as before. -/
  frame : ∀ path,
    (∀ input ∈ inputs, files.errorsIn x input = [] →
      place (catalogPath output input) ≠ place path) →
    left path = files path

variable {before after : σ} {summary : Summary}

theorem accounted_of_yields (lawful : fs.Lawful place held)
    (run : Yields (extractFiles fs x inputs output) before summary after) :
    Accounted place (held before) x inputs output summary (held after) := by
  obtain ⟨outcomes, found, left, rfl⟩ := outcomes_of_extractFiles lawful run
  obtain ⟨length, targets, errors⟩ := summed_up_of_found output found
  refine ⟨length, targets, errors, ?_, ?_, ?_⟩
  · have loud : (inputs.filter fun input => input ∈ (inputs.flatMap fun input =>
        ((held before).errorsIn x input).map ((input, ·))).map Prod.fst) =
          inputs.filter fun input => !decide ((held before).errorsIn x input = []) := by
      refine List.filter_congr fun input member => ?_
      rw [decide_eq_decide.mpr (mem_tags_iff member), decide_not]
    simp only [targets, errors, length, List.length_map, loud]
    exact (List.length_eq_length_filter_add _).symm
  · intro path input last
    -- The input stands in the list, and behind it nothing else is written to its target.
    obtain ⟨front, equal⟩ := List.getLast?_eq_some_iff.mp last
    obtain ⟨first, second, rfl, _, equal⟩ := List.filter_eq_append_iff.mp equal
    obtain ⟨between, later, rfl, _, own, nothing⟩ := List.filter_eq_cons_iff.mp equal
    obtain ⟨silent, target⟩ := of_decide_eq_true own
    have member : input ∈ first ++ (between ++ input :: later) := by simp
    obtain ⟨o, _, outcome⟩ := exists_outcome_of_mem found member
    obtain ⟨bytes, known, _⟩ := Option.map_eq_some_iff.mp outcome
    obtain ⟨text, passed⟩ :=
      Outcome.exists_text_of_errors_eq_nil (Files.errorsIn_of_held known ▸ silent)
    refine ⟨text.toUTF8, by rw [Files.eventsFor, known]; exact passed, ?_⟩
    refine held_target_of_last lawful run (List.append_assoc first between _).symm known passed
      target ?_
    intro other within same content known' silent'
    have excluded := List.filter_eq_nil_iff.mp nothing other within
    rw [← Files.errorsIn_of_held known'] at silent'
    exact excluded (decide_eq_true ⟨silent', same⟩)
  · intro path apart
    rw [left, foldl_receive_of_apart]
    intro o member present
    obtain ⟨input, within, outcome⟩ := exists_input_of_mem found member
    obtain ⟨rfl, errors, _⟩ := Files.outcome?_eq_some output outcome
    refine apart _ within ?_
    by_contra loud
    obtain ⟨bytes, _, equal⟩ := Option.map_eq_some_iff.mp outcome
    rw [← errors, ← equal] at loud
    exact present (equal ▸ Outcome.catalog_of_errors_ne_nil loud)

/-- The files that are written for some outcomes are their targets. -/
theorem map_fst_written (output : String) (outcomes : List Outcome) :
    (((outcomes.flatMap fun o => writing output o.input o.catalog).map .granted).filterMap
        Call.written?).map Prod.fst =
      outcomes.filterMap (·.target? output) := by
  induction outcomes with
  | nil => rfl
  | cons o outcomes inductionHypothesis =>
    rw [List.flatMap_cons, List.map_append, List.filterMap_append, List.map_append,
      inductionHypothesis, List.filterMap_cons, Outcome.target?]
    cases o.catalog <;> rfl

/-- Over inputs that can be read, and with targets that can be written, a run succeeds. It reads all of
    the inputs before it writes anything, and says what it has written. -/
theorem extractFiles_accounted (lawful : fs.Lawful place held) (x : Extractor)
    (inputs : List String) (output : String) (before : σ) {kept : σ → Prop} (start : kept before)
    (readable : ∀ input ∈ inputs, ∃ bytes,
      fs.Gives (fun state => kept state ∧ held state = held before) input bytes)
    (writable : ∀ input ∈ inputs, fs.Takes kept (catalogPath output input)) :
    ∃ summary after effects,
      Issues fs (fun _ fs => extractFiles fs x inputs output) before
        (inputs.map (.granted <| .read ·) ++ effects) (.ok summary) after ∧
      (∀ call ∈ effects, ¬ call.request.isRead) ∧
      (effects.filterMap Call.written?).map Prod.fst = summary.written ∧
      Accounted place (held before) x inputs output summary (held after) := by
  obtain ⟨summary, after, run⟩ := exists_yields_extractFiles lawful x start readable writable
  have accounted := accounted_of_yields lawful run
  -- The calls are those of the same run, which has not failed.
  obtain ⟨calls, result, after', issued, phases⟩ := exists_issues_extractFiles x inputs output before
  have same : (result, after') = (.ok summary, after) := issued.ends.symm.trans run
  obtain ⟨rfl, rfl⟩ := Prod.mk.inj same
  obtain ⟨_, _, _, failed⟩ | ⟨outcomes, _, effects, reading, rfl, course⟩ := phases
  · contradiction
  · have found := (outcomes_of_readOutcomes lawful reading).1
    have orderly : Orderly output _ inputs effects none :=
      .of_course (plan_of_found found ▸ course)
    have targets : (effects.filterMap Call.written?).map Prod.fst = summary.written := by
      rw [course.eq_of_completed, map_fst_written, (summed_up_of_found output found).2.1,
        accounted.written]
    exact ⟨summary, _, effects, issued, orderly.not_isRead, targets, accounted⟩

/-! ## A run over two scripts -/

/-- The two scripts can be reached, and their catalog can be written, once its directory is made. -/
structure Tree.Ready (t : Tree) : Prop where
  scripts : t.node? ["b"] = some .directory
  output : t.node? ["po"] = some .directory
  inside : ∀ bytes, t.node? ["po", "b"] ≠ some (.file bytes)
  target : t.node? ["po", "b", "a.js.pot"] ≠ some .directory

namespace Tree.Ready

variable {t : Tree}

theorem put_directory (ready : t.Ready) : (t.put ["po", "b"] .directory).Ready where
  scripts := by simp [node?_put, ready.scripts]
  output := by simp [node?_put, ready.output]
  inside bytes := by simp [node?_put]
  target := by simp [node?_put, ready.target]

theorem put_file (ready : t.Ready) (bytes : ByteArray) :
    (t.put ["po", "b", "a.js.pot"] (.file bytes)).Ready where
  scripts := by simp [node?_put, ready.scripts]
  output := by simp [node?_put, ready.output]
  inside bytes' := by simp [node?_put, ready.inside bytes']
  target := by simp [node?_put]

theorem gives {input : String} (member : input ∈ ["b/../a.js", "b/a.js"])
    (found : twoScripts.held input = some bytes) :
    system.Gives (fun t => t.Ready ∧ t.held = twoScripts.held) input bytes := by
  refine Tree.gives (fun t kept => ?_) (fun t kept => by rw [kept.2, found])
  rw [List.mem_pair] at member
  obtain rfl | rfl := member
  · rw [resolve_eq_follow (by decide) (by decide)
      (show pieces "b/../a.js" = ["b", "..", "a.js"] by decide)]
    simp only [follow, node?_nil, List.nil_append, kept.1.scripts]
    rfl
  · rw [resolve_eq_follow (by decide) (by decide) (show pieces "b/a.js" = ["b", "a.js"] by decide)]
    simp only [follow, node?_nil, List.nil_append, kept.1.scripts]
    rfl

theorem takes : system.Takes Ready "po/b/a.js.pot" := by
  intro t ready
  have reached : t.resolve "po/b" = .ok ["po", "b"] := by
    rw [resolve_eq_follow (by decide) (by decide) (show pieces "po/b" = ["po", "b"] by decide)]
    simp only [follow, node?_nil, List.nil_append, ready.output]
    rfl
  obtain ⟨made, making, stands⟩ := exists_makeDirectories reached ready.output ready.inside
  obtain ⟨ready', directory⟩ : made.Ready ∧ made.node? ["po", "b"] = some .directory := by
    obtain ⟨rfl, there⟩ | ⟨rfl, _⟩ := stands
    · exact ⟨ready, there⟩
    · exact ⟨ready.put_directory, by rw [node?_put (by simp), if_pos rfl]⟩
  have reached' : made.resolve "po/b/a.js.pot" = .ok ["po", "b", "a.js.pot"] := by
    rw [resolve_eq_follow (by decide) (by decide)
      (show pieces "po/b/a.js.pot" = ["po", "b", "a.js.pot"] by decide)]
    simp only [follow, node?_nil, List.nil_append, List.cons_append, ready'.output, directory]
    rfl
  have parent : makeParent system "po/b/a.js.pot" = system.createDirs "po/b" := by
    rw [makeParent, show Path.parent? "po/b/a.js.pot" = some "po/b" by decide]
  rw [parent]
  refine ⟨made, yields_createDirs_iff.mpr making, fun bytes => ⟨_, ?_, ready'.put_file bytes⟩⟩
  exact yields_write_iff.mpr (writeFile_of_resolve reached' (by decide) directory ready'.target)

end Tree.Ready

/-- Two inputs for one target, one of them twice. -/
theorem extractFiles_accounted_twoScripts :
    Tree.Ready Tree.twoScripts ∧
    (∀ input ∈ ["b/a.js", "b/../a.js", "b/a.js"], ∃ bytes, Tree.system.Gives
      (fun t => t.Ready ∧ t.held = Tree.twoScripts.held) input bytes) ∧
    (∀ input ∈ ["b/a.js", "b/../a.js", "b/a.js"],
      Tree.system.Takes Tree.Ready (catalogPath "po" input)) ∧
    ∃ summary after effects,
      Issues Tree.system
        (fun _ fs => extractFiles fs Extractor.ofScripts ["b/a.js", "b/../a.js", "b/a.js"] "po")
        Tree.twoScripts
        (["b/a.js", "b/../a.js", "b/a.js"].map (.granted <| .read ·) ++ effects) (.ok summary)
        after ∧
      (∀ call ∈ effects, ¬ call.request.isRead) ∧
      (effects.filterMap Call.written?).map Prod.fst = summary.written ∧
      Accounted Tree.place Tree.twoScripts.held Extractor.ofScripts
        ["b/a.js", "b/../a.js", "b/a.js"] "po" summary after.held := by
  have readable : ∀ input ∈ ["b/a.js", "b/../a.js", "b/a.js"], ∃ bytes, Tree.system.Gives
      (fun t => t.Ready ∧ t.held = Tree.twoScripts.held) input bytes := by
    intro input member
    have known : input ∈ ["b/../a.js", "b/a.js"] ∧ (Tree.twoScripts.held input).isSome := by
      revert input
      decide +kernel
    obtain ⟨bytes, found⟩ := Option.isSome_iff_exists.mp known.2
    exact ⟨bytes, Tree.Ready.gives known.1 found⟩
  have writable : ∀ input ∈ ["b/a.js", "b/../a.js", "b/a.js"],
      Tree.system.Takes Tree.Ready (catalogPath "po" input) := by
    intro input member
    have target : catalogPath "po" input = "po/b/a.js.pot" := by
      revert input
      decide +kernel
    rw [target]
    exact Tree.Ready.takes
  have ready : Tree.twoScripts.Ready := ⟨rfl, rfl, fun _ => nofun, nofun⟩
  exact ⟨ready, readable, writable, extractFiles_accounted Tree.lawful Extractor.ofScripts
    ["b/a.js", "b/../a.js", "b/a.js"] "po" Tree.twoScripts ready readable writable⟩

end Potfile
