import Potfile.Proofs.Delimiter.Scanning

/-! # The way of a scanner through a text

A scanner may be called as often as one likes. Each call makes one search, from a place in the
text, and what it finds takes up some bytes at least. So the messages come in the order of the text
and do not overlap, their number is bounded by the size of the text, and the calls go silent.

* `Scanner.after`: the scanner after a number of calls.
* `Scanner.span?`: the part of the text that the next call gives.
* `Advances`: what holds of one call; `advances_of_within` is the step, and `within_after` leads to
  it from the start of the text.
* `getElem?_toList`: the list of the messages is what the calls give.
-/

namespace Potfile

open Regex (Place Group Match)

/-- The size of the smallest interpolation: two quotes of one byte each, the bar, the name of the
    filter, and the delimiters. -/
def Delimiters.leastSize (d : Delimiters) : Nat := 12 + utf8Size d.opening + utf8Size d.closing

namespace Interpolation

theorem utf8Size_quote_pos (i : Interpolation) : 0 < utf8Size i.quote := by
  obtain quote | quote | quote := i.cases_quote <;> rw [quote] <;> decide

theorem le_utf8Size_front (i : Interpolation) (d : Delimiters) :
    utf8Size d.opening + 1 ≤ utf8Size (i.front d) := by
  have quote := i.utf8Size_quote_pos
  simp only [front, utf8Size_append]
  omega

theorem le_utf8Size_back (i : Interpolation) (d : Delimiters) :
    11 + utf8Size d.closing ≤ utf8Size (i.back d) := by
  have quote := i.utf8Size_quote_pos
  have bar : utf8Size ['|'] = 1 := by decide
  have name : utf8Size Delimiters.filterName = 9 := by decide
  simp only [back, utf8Size_append, bar, name]
  omega

end Interpolation

namespace Scanner

variable {s : Scanner} {m : Match}

/-! ## One call -/

/-- The cursor stands between two characters of the text, or at one of its ends. -/
def Within (s : Scanner) : Prop := ∃ p : Place, p.In s.text ∧ p.offset = s.cursor

theorem Within.cursor_le (within : s.Within) : s.cursor ≤ s.text.utf8ByteSize := by
  obtain ⟨p, inText, offset⟩ := within
  exact offset ▸ inText.offset_le

theorem within_new (d : Delimiters) (text : String) : (new d text).Within :=
  ⟨⟨0, text.toList⟩, ⟨[], rfl, rfl⟩, rfl⟩

/-- The part of the text that the next call gives. -/
def span? (s : Scanner) : Option Group :=
  (s.delimiters.regex.search s.text s.cursor).bind fun m =>
    (List.range' 1 Delimiters.quoteGroups).findSome? m.group?

/-- One group takes part in the match, and it holds a part of the text between the cursor and the
    end of the match. -/
structure Holds (s : Scanner) (m : Match) (g : Group) : Prop where
  only : m.groups = [g]
  number : g.number ∈ List.range' 1 Delimiters.quoteGroups
  inText : g.start.In s.text
  reads : g.start.Reads g.text g.stop
  stop : m.stop.In s.text
  opened : s.cursor + (utf8Size s.delimiters.opening + 1) ≤ g.start.offset
  closed : g.stop.offset + (11 + utf8Size s.delimiters.closing) ≤ m.stop.offset

theorem exists_holds (found : s.delimiters.regex.search s.text s.cursor = some m) :
    ∃ g, s.Holds m g := by
  obtain ⟨inText, reached, first, _⟩ := Regex.search_eq_some found
  obtain ⟨_, i, number, opened, closed, token, front, message, back, groups⟩ :=
    Delimiters.accepts_regex_iff.mp (Regex.accepts_of_mem_results (List.mem_of_head? first))
  -- The group is the message, and the two sides of the interpolation keep it off the ends.
  have text : (Regex.Group.mk number opened closed).text = i.message := by
    simp [Regex.Group.text, message.1]
  have inText' := inText.of_reads front
  refine ⟨⟨number, opened, closed⟩, groups, ?_, inText', text ▸ message,
    (inText'.of_reads message).of_reads back, ?_, ?_⟩
  · have numbers : ∀ entry ∈ Delimiters.tokens,
        entry.1 ∈ List.range' 1 Delimiters.quoteGroups := by decide
    exact numbers _ token
  · have size := i.le_utf8Size_front s.delimiters
    have offset := front.2
    simp only
    omega
  · have size := i.le_utf8Size_back s.delimiters
    have offset := back.2
    simp only
    omega

namespace Holds

variable {g : Group}

theorem start_le_stop (holds : s.Holds m g) : g.start.offset ≤ g.stop.offset :=
  holds.reads.2 ▸ Nat.le_add_right _ _

theorem span?_eq (holds : s.Holds m g)
    (found : s.delimiters.regex.search s.text s.cursor = some m) : s.span? = some g := by
  rw [span?, found, Option.bind_some, findSome?_group?_of_groups holds.only holds.number]

theorem messageOf?_eq (holds : s.Holds m g) : messageOf? m = some (String.ofList g.text) :=
  messageOf?_of_groups holds.only holds.number

end Holds

theorem start_lt_stop_of_search (found : s.delimiters.regex.search s.text s.cursor = some m) :
    m.start.offset < m.stop.offset := by
  obtain ⟨inText, reached, first, _⟩ := Regex.search_eq_some found
  obtain ⟨c, _, _, _, _, start, _, stop⟩ :=
    exists_candidate inText reached (List.mem_of_head? first)
  rw [start, stop]
  exact c.start_lt_stop

/-- Since no match is empty or without a message, one search decides a call. -/
theorem next_eq_elim (s : Scanner) :
    s.next = (s.delimiters.regex.search s.text s.cursor).elim (none, s)
      fun m => (messageOf? m, { s with cursor := m.stop.offset }) := by
  cases found : s.delimiters.regex.search s.text s.cursor with
  | none => exact next_of_search_none found
  | some m =>
    obtain ⟨g, holds⟩ := exists_holds found
    have behind : s.cursorBehind m = m.stop.offset :=
      if_pos (start_lt_stop_of_search found)
    rw [next_of_search_some found holds.messageOf?_eq, behind, Option.elim_some,
      holds.messageOf?_eq]

theorem fst_next_eq (s : Scanner) : s.next.1 = s.span?.map (String.ofList ·.text) := by
  rw [next_eq_elim, span?]
  cases s.delimiters.regex.search s.text s.cursor <;> rfl

/-- What one call of `next` does. -/
structure Advances (s : Scanner) : Prop where
  within : s.Within
  once : s.next = (s.delimiters.regex.search s.text s.cursor).elim (none, s)
    fun m => (messageOf? m, { s with cursor := m.stop.offset })
  filled : ∀ m, s.delimiters.regex.search s.text s.cursor = some m →
    m.start.offset < m.stop.offset
  group : ∀ m, s.delimiters.regex.search s.text s.cursor = some m →
    ∃ g, m.groups = [g] ∧ g.number ∈ List.range' 1 Delimiters.quoteGroups
  given : s.next.1 = s.span?.map (String.ofList ·.text)
  silent : s.next.1 = none → s.next.2 = s
  inside : ∀ g, s.span? = some g → g.start.In s.text ∧ g.start.Reads g.text g.stop ∧
    s.cursor < g.start.offset ∧ g.stop.offset < s.next.2.cursor ∧
    s.cursor + s.delimiters.leastSize ≤ s.next.2.cursor

theorem exists_search_of_span? {g : Group} (given : s.span? = some g) :
    ∃ m, s.delimiters.regex.search s.text s.cursor = some m ∧ s.Holds m g ∧
      s.next.2 = { s with cursor := m.stop.offset } := by
  cases found : s.delimiters.regex.search s.text s.cursor with
  | none => simp [span?, found] at given
  | some m =>
    obtain ⟨g', holds⟩ := exists_holds found
    obtain rfl := Option.some.inj ((holds.span?_eq found).symm.trans given)
    exact ⟨m, rfl, holds, by rw [next_eq_elim, found, Option.elim_some]⟩

theorem advances_of_within (within : s.Within) : s.Advances where
  within := within
  once := s.next_eq_elim
  filled _ := start_lt_stop_of_search
  group m found := by
    obtain ⟨g, holds⟩ := exists_holds found
    exact ⟨g, holds.only, holds.number⟩
  given := s.fst_next_eq
  silent none := by
    rw [fst_next_eq, Option.map_eq_none_iff] at none
    rw [next_eq_elim]
    cases found : s.delimiters.regex.search s.text s.cursor with
    | none => rfl
    | some m =>
      obtain ⟨g, holds⟩ := exists_holds found
      rw [holds.span?_eq found] at none
      contradiction
  inside g given := by
    obtain ⟨m, -, holds, further⟩ := exists_search_of_span? given
    have opened := holds.opened
    have closed := holds.closed
    have ordered := holds.start_le_stop
    rw [further]
    refine ⟨holds.inText, holds.reads, ?_, ?_, ?_⟩
    · omega
    · simp only
      omega
    · simp only [Delimiters.leastSize]
      omega

/-! ## Many calls -/

/-- The scanner after a number of calls, whatever they give. -/
def after (s : Scanner) : (calls : Nat) → Scanner
  | 0 => s
  | calls + 1 => (s.after calls).next.2

theorem snd_next_eq (s : Scanner) : s.next.2 = { s with cursor := s.next.2.cursor } := by
  rw [next_eq_elim]
  cases s.delimiters.regex.search s.text s.cursor <;> rfl

theorem delimiters_next (s : Scanner) : s.next.2.delimiters = s.delimiters := by rw [snd_next_eq]

theorem after_eq (s : Scanner) (calls : Nat) :
    s.after calls = { s with cursor := (s.after calls).cursor } := by
  induction calls with
  | zero => rfl
  | succ calls inductionHypothesis =>
    rw [after, snd_next_eq, inductionHypothesis]

theorem within_next (within : s.Within) : s.next.2.Within := by
  rw [next_eq_elim]
  cases found : s.delimiters.regex.search s.text s.cursor with
  | none => exact within
  | some m =>
    obtain ⟨g, holds⟩ := exists_holds found
    exact ⟨m.stop, holds.stop, rfl⟩

theorem within_after (within : s.Within) (calls : Nat) : (s.after calls).Within := by
  induction calls with
  | zero => exact within
  | succ calls inductionHypothesis => exact within_next inductionHypothesis

theorem cursor_le_next (s : Scanner) : s.cursor ≤ s.next.2.cursor := by
  rw [next_eq_elim]
  cases found : s.delimiters.regex.search s.text s.cursor with
  | none => exact Nat.le_refl _
  | some m => exact (Regex.le_start_of_search found).trans (start_lt_stop_of_search found).le

theorem cursor_le_after (s : Scanner) (calls more : Nat) :
    (s.after calls).cursor ≤ (s.after (calls + more)).cursor := by
  induction more with
  | zero => exact Nat.le_refl _
  | succ more inductionHypothesis => exact inductionHypothesis.trans (cursor_le_next _)

theorem after_of_silent (silent : s.next = (none, s)) (calls : Nat) : s.after calls = s := by
  induction calls with
  | zero => rfl
  | succ calls inductionHypothesis => rw [after, inductionHypothesis, silent]

theorem after_add (s : Scanner) (calls more : Nat) :
    s.after (calls + more) = (s.after calls).after more := by
  induction more with
  | zero => rfl
  | succ more inductionHypothesis => rw [← Nat.add_assoc, after, inductionHypothesis, after]

theorem after_succ (s : Scanner) (calls : Nat) : s.after (calls + 1) = s.next.2.after calls := by
  rw [Nat.add_comm, after_add]
  rfl

theorem next_eq_of_fst_eq_none (silent : s.next.1 = none) : s.next = (none, s) :=
  next_eq_none_iff.mpr (isEmpty_of_next_eq_none (Prod.ext silent rfl))

/-- Call by call, a scanner gives its list of messages. -/
theorem getElem?_toList (s : Scanner) (calls : Nat) :
    s.toList[calls]? = (s.after calls).next.1.map (·, (s.after (calls + 1)).cursor) := by
  induction calls generalizing s with
  | zero =>
    rw [after_succ, after, after]
    cases given : s.next.1 with
    | none => simp [toList_of_next_eq_none (next_eq_of_fst_eq_none given)]
    | some message => simp [toList_of_next_eq_some (Prod.ext given rfl)]
  | succ calls inductionHypothesis =>
    rw [after_succ s (calls + 1), after_succ s calls, ← inductionHypothesis]
    cases given : s.next.1 with
    | none =>
      have silent := next_eq_of_fst_eq_none given
      simp [toList_of_next_eq_none silent, silent]
    | some message =>
      rw [toList_of_next_eq_some (Prod.ext given rfl), List.getElem?_cons_succ]

/-- What a scanner finds takes up the text behind its cursor. -/
theorem length_toList_mul_le (within : s.Within) :
    s.toList.length * s.delimiters.leastSize + s.cursor ≤ s.text.utf8ByteSize := by
  induction s using toList.induct with
  | case1 s s' silent =>
    rw [toList_of_next_eq_none silent]
    simpa using within.cursor_le
  | case2 s message s' step inductionHypothesis =>
    have advances := advances_of_within within
    have given := advances.given
    have same := s.snd_next_eq
    have within' := within_next within
    rw [step] at given same within'
    obtain ⟨g, span, -⟩ := Option.map_eq_some_iff.mp given.symm
    obtain ⟨-, -, -, -, further⟩ := advances.inside g span
    rw [step] at further
    have rest := inductionHypothesis within'
    -- The call used up the bytes of one interpolation, which the bound behind it leaves free.
    rw [toList_of_next_eq_some step, List.length_cons, Nat.add_mul, Nat.one_mul]
    simp only at same further
    rw [same] at rest ⊢
    simp only at rest ⊢
    omega

/-! ## Whole scans -/

/-- What holds of all calls of a scanner that starts in front of a text. -/
structure Progresses (d : Delimiters) (text : String) : Prop where
  /-- Calls move the cursor, and change nothing else. -/
  same : ∀ calls, (new d text).after calls = ⟨d, text, ((new d text).after calls).cursor⟩
  advances : ∀ calls, ((new d text).after calls).Advances
  bounded : ∀ calls, ((new d text).after calls).cursor ≤ text.utf8ByteSize
  forth : ∀ calls more,
    ((new d text).after calls).cursor ≤ ((new d text).after (calls + more)).cursor
  /-- What a later call gives stands behind what an earlier one gave. -/
  apart : ∀ calls more g h, ((new d text).after calls).span? = some g →
    ((new d text).after (calls + 1 + more)).span? = some h → g.stop.offset < h.start.offset
  /-- The messages of the text are what the calls give, one after another. -/
  listed : ∀ calls, (new d text).toList[calls]? = ((new d text).after calls).next.1.map
    (·, ((new d text).after (calls + 1)).cursor)
  few : (new d text).toList.length ≤ text.utf8ByteSize / d.leastSize
  ends : ∀ calls, text.utf8ByteSize / d.leastSize ≤ calls →
    ((new d text).after calls).next.1 = none
  /-- A call that gives nothing is like all that follow it. -/
  silent : ∀ calls more, ((new d text).after calls).next.1 = none →
    ((new d text).after (calls + more)).next = (none, (new d text).after calls)

/-- A scanner goes on from place to place of its text, by the size of an interpolation at least,
    until it finds nothing more. -/
theorem progresses (d : Delimiters) (text : String) : Progresses d text := by
  have within (calls : Nat) : ((new d text).after calls).Within :=
    within_after (within_new d text) calls
  have advances (calls : Nat) := advances_of_within (within calls)
  have same (calls : Nat) :
      (new d text).after calls = ⟨d, text, ((new d text).after calls).cursor⟩ :=
    after_eq (new d text) calls
  have few : (new d text).toList.length ≤ text.utf8ByteSize / d.leastSize := by
    rw [Nat.le_div_iff_mul_le (by simp only [Delimiters.leastSize]; omega)]
    exact length_toList_mul_le (within_new d text)
  refine ⟨same, advances, fun calls => ?_, cursor_le_after _, ?_, getElem?_toList _, few, ?_, ?_⟩
  · have bound := (within calls).cursor_le
    rwa [same] at bound
  · intro calls more g h given given'
    obtain ⟨-, -, -, closed, -⟩ := (advances calls).inside g given
    obtain ⟨-, -, opened, -, -⟩ := (advances _).inside h given'
    exact closed.trans ((cursor_le_after _ (calls + 1) more).trans_lt opened)
  · intro calls enough
    -- There are no messages left for this call, since it is beyond the end of their list.
    have beyond := List.getElem?_eq_none (few.trans enough)
    rw [getElem?_toList] at beyond
    exact Option.map_eq_none_iff.mp beyond
  · intro calls more silent
    have silent' := next_eq_of_fst_eq_none silent
    rw [after_add, after_of_silent silent', silent']

end Scanner

end Potfile
