import Potfile.Extractor
import Potfile.Proofs.Registry.History

/-! # Contradictory plurals

Which conflicts the pass over a file reports. An occurrence is compared with the plural that its
message was given first, so that the list of the conflicts depends on the order of the
occurrences. Whether there is any does not: `failed_iff` speaks about pairs alone.
-/

namespace Potfile

open Text (trim)
open Registry (givenPlural? firstPlural? mentions conflict? conflictsFrom)

/-- Two occurrences give one message two different plurals. -/
def Occurrence.Contradicts (a b : Occurrence) : Prop :=
  trim a.text ≠ "" ∧ trim a.text = trim b.text ∧
    ∃ p q, givenPlural? a = some p ∧ givenPlural? b = some q ∧ p ≠ q

/-! ## First plurals -/

namespace Registry

theorem firstPlural?_append (earlier later : List Occurrence) (message : String) :
    firstPlural? (earlier ++ later) message =
      (firstPlural? earlier message).or (firstPlural? later message) := by
  simp only [firstPlural?, mentions, List.filter_append, List.findSome?_append]

theorem exists_of_firstPlural? {history : List Occurrence} {message plural : String}
    (first : firstPlural? history message = some plural) :
    ∃ o ∈ history, trim o.text = message ∧ givenPlural? o = some plural := by
  obtain ⟨o, member, given⟩ := List.exists_of_findSome?_eq_some first
  rw [mentions, List.mem_filter] at member
  exact ⟨o, member.1, by simpa using member.2, given⟩

variable (locate : String → Option String → String)

theorem conflict?_eq_none_iff {earlier : List Occurrence} {o : Occurrence} :
    conflict? locate earlier o = none ↔
      ∀ p q, trim o.text ≠ "" → givenPlural? o = some p →
        firstPlural? earlier (trim o.text) = some q → p = q := by
  rw [conflict?]
  by_cases blank : trim o.text = ""
  · simp [blank]
  · rw [if_neg blank]
    cases givenPlural? o with
    | none => simp
    | some p =>
      cases firstPlural? earlier (trim o.text) with
      | none => simp
      | some q => simp [blank]

theorem conflictsFrom_eq_nil_iff {history occurrences : List Occurrence} :
    conflictsFrom locate history occurrences = [] ↔
      ∀ earlier o later, occurrences = earlier ++ o :: later →
        conflict? locate (history ++ earlier) o = none := by
  rw [conflictsFrom, List.filterMap_eq_nil_iff]
  constructor
  · intro silent earlier o later equal
    have := silent earlier.length (by simp [equal])
    simpa [equal] using this
  · intro silent i bound
    rw [List.mem_range] at bound
    rw [List.getElem?_eq_getElem bound, Option.bind_some]
    apply silent _ _ (occurrences.drop (i + 1))
    rw [← List.drop_eq_getElem_cons bound, List.take_append_drop]

/-- Without a conflict, whatever plural a message was given is its first one. -/
theorem firstPlural?_of_silent {occurrences : List Occurrence}
    (silent : conflictsFrom locate [] occurrences = []) {o : Occurrence}
    (member : o ∈ occurrences) (some : trim o.text ≠ "") {plural : String}
    (given : givenPlural? o = .some plural) :
    firstPlural? occurrences (trim o.text) = .some plural := by
  obtain ⟨earlier, later, split⟩ := List.append_of_mem member
  have quiet := (conflictsFrom_eq_nil_iff locate).mp silent earlier o later split
  rw [List.nil_append, conflict?_eq_none_iff] at quiet
  have upTo : firstPlural? (earlier ++ [o]) (trim o.text) = .some plural := by
    rw [firstPlural?_concat_self, given]
    cases first : firstPlural? earlier (trim o.text) with
    | none => rfl
    | some before => rw [Option.some_or, quiet plural before some given first]
  have regroup : occurrences = (earlier ++ [o]) ++ later := by simp [split]
  rw [regroup, firstPlural?_append, upTo, Option.some_or]

/-- A run reports a conflict exactly when some two of its occurrences contradict each other. -/
theorem conflictsFrom_ne_nil_iff {occurrences : List Occurrence} :
    conflictsFrom locate [] occurrences ≠ [] ↔
      ∃ a ∈ occurrences, ∃ b ∈ occurrences, a.Contradicts b := by
  constructor
  · intro loud
    rw [ne_eq, conflictsFrom_eq_nil_iff] at loud
    push Not at loud
    obtain ⟨earlier, o, later, split, conflict⟩ := loud
    rw [List.nil_append, ne_eq, conflict?_eq_none_iff] at conflict
    push Not at conflict
    obtain ⟨p, q, some, given, first, different⟩ := conflict
    obtain ⟨a, member, text, givenFirst⟩ := exists_of_firstPlural? first
    exact ⟨o, by simp [split], a, by simp [split, member], some, text.symm, p, q, given,
      givenFirst, different⟩
  · rintro ⟨a, memberA, b, memberB, some, text, p, q, givenA, givenB, different⟩ silent
    have firstA := firstPlural?_of_silent locate silent memberA some givenA
    have firstB := firstPlural?_of_silent locate silent memberB (text ▸ some) givenB
    rw [← text, firstA] at firstB
    exact different (Option.some_inj.mp firstB)

end Registry

/-! ## The pass over a file -/

namespace FilePass

variable (locate : String → Option String → String)

theorem conflicts_eq (occurrences : List Occurrence) :
    (ofOccurrences locate occurrences).conflicts = conflictsFrom locate [] occurrences := by
  rw [ofOccurrences, Registry.registerAll_empty]

theorem failed_iff (occurrences : List Occurrence) :
    (ofOccurrences locate occurrences).failed = true ↔
      ∃ a ∈ occurrences, ∃ b ∈ occurrences, a.Contradicts b := by
  rw [← Registry.conflictsFrom_ne_nil_iff locate, ← conflicts_eq, failed]
  simp

theorem failed_perm {occurrences reordered : List Occurrence}
    (perm : reordered.Perm occurrences) :
    (ofOccurrences locate reordered).failed = (ofOccurrences locate occurrences).failed := by
  rw [Bool.eq_iff_iff, failed_iff, failed_iff]
  simp only [perm.mem_iff]

/-- How many conflicts there are depends on which plural comes first. -/
theorem exists_perm_length_conflicts_ne :
    ∃ occurrences reordered : List Occurrence, reordered.Perm occurrences ∧
      (ofOccurrences locate reordered).conflicts.length ≠
        (ofOccurrences locate occurrences).conflicts.length := by
  let often : List Occurrence := [⟨"Bird", "Birds"⟩, ⟨"Bird", "Birds"⟩, ⟨"Bird", "Birdies"⟩]
  have one : (ofOccurrences locate often).conflicts.length = 1 := by
    rw [conflicts_eq]; rfl
  have two : (ofOccurrences locate often.reverse).conflicts.length = 2 := by
    rw [conflicts_eq]; rfl
  exact ⟨often, often.reverse, List.reverse_perm often, by rw [one, two]; decide⟩

/-- The conflicts of a pass, in the order of the occurrences. Each occurrence that gives its
    message another plural than the first one adds a conflict. -/
theorem conflicts_ofOccurrences (occurrences : List Occurrence) :
    (ofOccurrences locate occurrences).conflicts =
        (List.range occurrences.length).filterMap (fun i =>
          occurrences[i]?.bind (conflict? locate (occurrences.take i))) ∧
      ((ofOccurrences locate occurrences).failed = true ↔
        ∃ a ∈ occurrences, ∃ b ∈ occurrences, a.Contradicts b) ∧
      (∀ reordered : List Occurrence, reordered.Perm occurrences →
        (ofOccurrences locate reordered).failed = (ofOccurrences locate occurrences).failed) ∧
      ∃ first second : List Occurrence, second.Perm first ∧
        (ofOccurrences locate second).conflicts.length ≠
          (ofOccurrences locate first).conflicts.length := by
  refine ⟨?_, failed_iff locate occurrences, ?_, exists_perm_length_conflicts_ne locate⟩
  · rw [conflicts_eq, conflictsFrom]
    simp only [List.nil_append]
  · intro reordered perm
    exact failed_perm locate perm

end FilePass

end Potfile
