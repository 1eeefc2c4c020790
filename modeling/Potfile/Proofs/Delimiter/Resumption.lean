import Potfile.Proofs.Delimiter.Progress

/-! # Scanners that go on in the middle of a text

What a scanner finds does not depend on the text in front of its cursor, unless it looks for
interpolations at the start of a text only.

* `Scanner.behind`: the same scanner, with more text in front.
* `next_behind`, `toList_behind`: such text moves what is found, and changes nothing else.
* `length_toList_le_one`: without delimiters, there is one message at most.
-/

namespace Potfile

namespace Scanner

variable {s : Scanner} {front : String}

/-- The scanner with more text in front of its own. -/
def behind (front : String) (s : Scanner) : Scanner :=
  { s with text := front ++ s.text, cursor := front.utf8ByteSize + s.cursor }

/-- A message and the byte behind its interpolation, with more text in front. -/
def shift (front : String) (found : String × Nat) : String × Nat :=
  (found.1, front.utf8ByteSize + found.2)

/-! ## Candidates -/

namespace Candidate

/-- A candidate stays one when there is more text in front. -/
def behind (front : String) (bounded : s.delimiters.isAnchored = false) (c : s.Candidate) :
    (s.behind front).Candidate where
  toInterpolation := c.toInterpolation
  before := front.toList ++ c.before
  after := c.after
  split := by simp [Scanner.behind, c.split]
  reached := by
    have reached := c.reached
    simp only [Scanner.behind, utf8Size_append, utf8Size_toList]
    omega
  anchored := by simp [Scanner.behind, bounded]

variable {bounded : s.delimiters.isAnchored = false}

theorem start_behind (c : s.Candidate) :
    (c.behind front bounded).start = front.utf8ByteSize + c.start := by
  simp [start, behind, utf8Size_toList]

theorem closed_behind (c : s.Candidate) :
    (c.behind front bounded).closed = front.utf8ByteSize + c.closed := by
  simp [closed, behind, Scanner.behind, utf8Size_toList]

theorem stop_behind (c : s.Candidate) :
    (c.behind front bounded).stop = front.utf8ByteSize + c.stop := by
  simp [stop, behind, Scanner.behind, utf8Size_toList]

theorem precedes_behind_iff {c c' : s.Candidate} :
    (c.behind front bounded).Precedes (c'.behind front bounded) ↔ c.Precedes c' := by
  simp only [Precedes, start_behind, closed_behind, stop_behind]
  omega

/-- Behind the text in front, there are no other candidates than before. -/
theorem exists_behind_eq (bounded : s.delimiters.isAnchored = false)
    (c : (s.behind front).Candidate) : ∃ c' : s.Candidate, c'.behind front bounded = c := by
  obtain ⟨i, before, after, split, reached, anchored⟩ := c
  have cut : front.toList ++ s.text.toList =
      before ++ (i.front s.delimiters ++ (i.message ++ (i.back s.delimiters ++ after))) := by
    simpa [Scanner.behind] using split
  have further : front.utf8ByteSize + s.cursor ≤ utf8Size before := reached
  obtain ⟨between, rfl, rest⟩ :=
    exists_append_of_utf8Size_le cut (by rw [utf8Size_toList]; omega)
  refine ⟨⟨i, between, after, by simp [rest], ?_, by simp [bounded]⟩, rfl⟩
  rw [utf8Size_append, utf8Size_toList] at further
  omega

end Candidate

/-! ## What is found -/

/-- More text in front does not change what is found next. -/
theorem next_behind (bounded : s.delimiters.isAnchored = false) :
    (s.behind front).next = (s.next.1, s.next.2.behind front) := by
  -- What is found is the first candidate, and the candidates are the same ones in the same order.
  by_cases some : Nonempty s.Candidate
  · obtain ⟨c, precedes⟩ := exists_precedes some
    have first : ∀ c', (c.behind front bounded).Precedes c' := by
      intro c'
      obtain ⟨c', rfl⟩ := Candidate.exists_behind_eq bounded c'
      exact Candidate.precedes_behind_iff.mpr (precedes c')
    rw [next_of_precedes first, next_of_precedes precedes, Candidate.stop_behind]
    rfl
  · have absent := not_nonempty_iff.mp some
    have absent' : IsEmpty (s.behind front).Candidate := by
      refine ⟨fun c => ?_⟩
      obtain ⟨c', -⟩ := Candidate.exists_behind_eq bounded c
      exact absent.elim c'
    rw [next_eq_none_iff.mpr absent, next_eq_none_iff.mpr absent']

theorem toList_behind (bounded : s.delimiters.isAnchored = false) :
    (s.behind front).toList = s.toList.map (shift front) := by
  have further : (s.behind front).next = (s.next.1, s.next.2.behind front) := next_behind bounded
  induction s using toList.induct with
  | case1 s s' silent =>
    rw [silent] at further
    rw [toList_of_next_eq_none silent, toList_of_next_eq_none further, List.map_nil]
  | case2 s message s' step inductionHypothesis =>
    have same := s.delimiters_next
    rw [step] at further same
    have bounded' : s'.delimiters.isAnchored = false := by rw [← bounded, ← same]
    rw [toList_of_next_eq_some step, toList_of_next_eq_some further, List.map_cons,
      inductionHypothesis bounded' (next_behind bounded')]
    rfl

/-! ## Scanners that only look at the start -/

theorem toList_eq_nil_of_anchored (anchored : s.delimiters.isAnchored) (further : 0 < s.cursor) :
    s.toList = [] := by
  refine toList_of_next_eq_none (next_eq_none_iff.mpr ⟨fun c => ?_⟩)
  have reached := c.reached
  rw [c.anchored anchored, utf8Size_nil] at reached
  omega

/-- Nothing stands at the start of a text any more, when something was found there. -/
theorem toList_of_anchored {s' : Scanner} {message : String} (anchored : s.delimiters.isAnchored)
    (step : s.next = (some message, s')) : s.toList = [(message, s'.cursor)] := by
  have same := s.delimiters_next
  rw [step] at same
  have further : 0 < s'.cursor := by
    obtain ⟨c, -, -, rfl⟩ := exists_of_next_eq_some step
    exact Nat.zero_lt_of_lt c.start_lt_stop
  rw [toList_of_next_eq_some step, toList_eq_nil_of_anchored (same ▸ anchored) further]

theorem length_toList_le_one (anchored : s.delimiters.isAnchored) : s.toList.length ≤ 1 := by
  cases step : s.next.1 with
  | none => simp [toList_of_next_eq_none (next_eq_of_fst_eq_none step)]
  | some message => simp [toList_of_anchored anchored (Prod.ext step rfl)]

/-! ## Fresh scanners -/

theorem isAnchored_eq_false_iff {d : Delimiters} : d.isAnchored = false ↔ d ≠ .none := by
  obtain ⟨opening, closing⟩ := d
  simp only [Delimiters.isAnchored, Delimiters.none, ne_eq, Delimiters.mk.injEq,
    Bool.and_eq_false_iff, List.isEmpty_eq_false_iff]
  tauto

theorem exists_behind_eq (within : s.Within) :
    ∃ front rest, s.text = front ++ rest ∧ s.cursor = front.utf8ByteSize ∧
      s = (new s.delimiters rest).behind front := by
  obtain ⟨p, ⟨before, split, offset⟩, cursor⟩ := within
  have text : s.text = String.ofList before ++ String.ofList p.rest := by
    rw [← String.toList_inj, split, String.toList_append, String.toList_ofList,
      String.toList_ofList]
  have size : s.cursor = (String.ofList before).utf8ByteSize := by
    rw [← cursor, offset, ← utf8Size_toList, String.toList_ofList]
  refine ⟨_, _, text, size, ?_⟩
  rw [behind, new, Nat.add_zero, ← text, ← size]

/-- From where a scanner stands, it finds what a fresh scanner finds in the rest of the text.
    Without delimiters, it finds at most one message, whatever a fresh scanner would find in the
    rest. -/
theorem toList_after_eq (d : Delimiters) (text : String) :
    (d ≠ .none → ∀ calls, ∃ front rest, text = front ++ rest ∧
      ((new d text).after calls).cursor = front.utf8ByteSize ∧
      ((new d text).after calls).toList = (new d rest).toList.map (shift front)) ∧
    (new .none text).toList.length ≤ 1 ∧
    ∃ front rest, (new .none (front ++ rest)).toList = [("a", front.utf8ByteSize)] ∧
      (new .none rest).toList = [("b", rest.utf8ByteSize)] := by
  refine ⟨fun bounded calls => ?_, length_toList_le_one rfl, ?_⟩
  · obtain ⟨front, rest, split, cursor, same⟩ :=
      exists_behind_eq (within_after (within_new d text) calls)
    rw [after_eq] at split same
    refine ⟨front, rest, split, cursor, ?_⟩
    rw [after_eq, same]
    exact toList_behind (isAnchored_eq_false_iff.mpr bounded)
  · exact ⟨"'a' | translate ", "'b' | translate", by decide +kernel, by decide +kernel⟩

/-- After the first of two messages, the second is found as in the rest alone. -/
theorem toList_after_eq_secondOfTwo :
    (⟨['<'], ['>']⟩ : Delimiters) ≠ .none ∧
    ∃ front rest, "é<'a'|translate>é<'b'|translate>" = front ++ rest ∧
      ((new ⟨['<'], ['>']⟩ "é<'a'|translate>é<'b'|translate>").after 1).cursor =
        front.utf8ByteSize ∧
      ((new ⟨['<'], ['>']⟩ "é<'a'|translate>é<'b'|translate>").after 1).toList =
        (new ⟨['<'], ['>']⟩ rest).toList.map (shift front) := by
  have bounded : (⟨['<'], ['>']⟩ : Delimiters) ≠ .none := by decide
  exact ⟨bounded, (toList_after_eq _ _).1 bounded 1⟩

end Scanner

end Potfile
