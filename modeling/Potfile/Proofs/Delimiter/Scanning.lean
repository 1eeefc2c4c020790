import Potfile.Proofs.Delimiter.Grammar

/-! # What a scanner finds next

* `Scanner.Candidate`: an interpolation in the text of a scanner, at or behind its cursor.
* `Candidate.Precedes`: the further left, then the shorter the message, then the longer the whole.
* `next_of_search_some`: a call of `next` searches once, since every match holds a message.
* `next_eq_none_iff`, `next_of_precedes`: the candidate that precedes all others is found.
-/

namespace Potfile

open Regex (Place Group Match)
open Delimiters (tokens)

namespace Scanner

variable {s : Scanner}

/-- An interpolation in the text of a scanner that does not start in front of its cursor. Without
    delimiters, only the start of the text counts. -/
structure Candidate (s : Scanner) extends Interpolation where
  before : List Char
  after : List Char
  split : s.text.toList = before ++ toInterpolation.front s.delimiters ++ message ++
    toInterpolation.back s.delimiters ++ after
  reached : s.cursor ≤ utf8Size before
  anchored : s.delimiters.isAnchored → before = []

namespace Candidate

/-- The byte at which a candidate starts. -/
def start (c : s.Candidate) : Nat := utf8Size c.before

/-- The byte at which the message of a candidate ends. -/
def closed (c : s.Candidate) : Nat :=
  utf8Size (c.before ++ c.front s.delimiters ++ c.message)

/-- The byte at which a candidate ends. -/
def stop (c : s.Candidate) : Nat :=
  utf8Size (c.before ++ c.front s.delimiters ++ c.message ++ c.back s.delimiters)

/-- `c` starts further left; or both start at once, and the message of `c` is shorter; or the
    messages are the same, and `c` does not end earlier. -/
def Precedes (c c' : s.Candidate) : Prop :=
  c.start < c'.start ∨ c.start = c'.start ∧
    (c.closed < c'.closed ∨ c.closed = c'.closed ∧ c'.stop ≤ c.stop)

end Candidate

/-! ## Candidates and matches -/

/-- Every candidate is a result of the expression at its place. -/
theorem Candidate.exists_mem_results (c : s.Candidate) :
    ∃ p q g, p.In s.text ∧ p.offset = c.start ∧ q.offset = c.stop ∧ g.stop.offset = c.closed ∧
      ⟨p, q, [g]⟩ ∈ s.delimiters.regex.results p := by
  obtain ⟨number, token⟩ := c.isToken
  let p : Place := ⟨c.start,
    c.front s.delimiters ++ (c.message ++ (c.back s.delimiters ++ c.after))⟩
  let opened : Place := ⟨c.start + utf8Size (c.front s.delimiters),
    c.message ++ (c.back s.delimiters ++ c.after)⟩
  let closed : Place := ⟨c.closed, c.back s.delimiters ++ c.after⟩
  let q : Place := ⟨c.stop, c.after⟩
  refine ⟨p, q, ⟨number, opened, closed⟩, ?_, rfl, rfl, rfl, ?_⟩
  · exact ⟨c.before, by simp [c.split, p], by simp [p, Candidate.start]⟩
  · refine Regex.mem_results_iff.mpr (Delimiters.accepts_regex_iff.mpr
      ⟨fun bare => ?_, c.toInterpolation, number, opened, closed, token, ⟨rfl, rfl⟩, ⟨rfl, ?_⟩,
        ⟨rfl, ?_⟩, rfl⟩)
    · simp [p, Candidate.start, c.anchored bare]
    · simp [closed, opened, Candidate.start, Candidate.closed, Nat.add_assoc]
    · simp [closed, q, Candidate.closed, Candidate.stop, Nat.add_assoc]

/-- Every match is a candidate. Its one group holds the message. -/
theorem exists_candidate {m : Match} (inText : m.start.In s.text)
    (reached : s.cursor ≤ m.start.offset) (member : m ∈ s.delimiters.regex.results m.start) :
    ∃ (c : s.Candidate) (g : Group), m.groups = [g] ∧
      g.number ∈ List.range' 1 Delimiters.quoteGroups ∧ g.text = c.message ∧
      m.start.offset = c.start ∧ g.stop.offset = c.closed ∧ m.stop.offset = c.stop := by
  obtain ⟨anchored, i, number, opened, closed, token, front, message, back, groups⟩ :=
    Delimiters.accepts_regex_iff.mp (Regex.accepts_of_mem_results member)
  obtain ⟨before, split, start⟩ := inText
  rw [front.1, message.1, back.1] at split
  have bare (isAnchored : s.delimiters.isAnchored) : before = [] :=
    utf8Size_eq_zero_iff.mp (start.symm.trans (anchored isAnchored))
  let c : s.Candidate :=
    { toInterpolation := i, before, after := m.stop.rest, split := by simp [split],
      reached := start ▸ reached, anchored := bare }
  refine ⟨c, ⟨number, opened, closed⟩, groups, ?_, ?_, start, ?_, ?_⟩
  · simp only [tokens, List.mem_cons, Prod.mk.injEq, List.not_mem_nil, or_false] at token
    obtain ⟨rfl, _⟩ | ⟨rfl, _⟩ | ⟨rfl, _⟩ := token <;> simp [Delimiters.quoteGroups]
  · simp [Group.text, message.1, c]
  · simp only [message.2, front.2, start, Candidate.closed, utf8Size_append, c]
  · simp only [back.2, message.2, front.2, start, Candidate.stop, utf8Size_append, c]

/-! ## One search -/

theorem findSome?_group?_of_groups {m : Match} {g : Group} (groups : m.groups = [g])
    (number : g.number ∈ List.range' 1 Delimiters.quoteGroups) :
    (List.range' 1 Delimiters.quoteGroups).findSome? m.group? = some g := by
  simp only [Delimiters.quoteGroups, List.mem_range'_1] at number
  have cases : g.number = 1 ∨ g.number = 2 ∨ g.number = 3 := by omega
  obtain first | second | third := cases <;>
    simp [Delimiters.quoteGroups, List.range', Match.group?, *]

theorem messageOf?_of_groups {m : Match} {g : Group} (groups : m.groups = [g])
    (number : g.number ∈ List.range' 1 Delimiters.quoteGroups) :
    messageOf? m = some (String.ofList g.text) := by
  rw [messageOf?, findSome?_group?_of_groups groups number, Option.map_some]

theorem next_of_search_none (none : s.delimiters.regex.search s.text s.cursor = none) :
    s.next = (.none, s) := by
  rw [next]
  split
  · split
    · rfl
    · next found => rw [none] at found; contradiction
  · rfl

/-- One search is enough, if what it finds holds a message. -/
theorem next_of_search_some {m : Match} {message : String}
    (found : s.delimiters.regex.search s.text s.cursor = some m)
    (held : messageOf? m = some message) :
    s.next = (some message, { s with cursor := s.cursorBehind m }) := by
  obtain ⟨inText, reached, _⟩ := Regex.search_eq_some found
  rw [next, dif_pos (reached.trans inText.offset_le)]
  split
  · next none => rw [none] at found; contradiction
  · next m' found' =>
    obtain rfl : m' = m := Option.some.inj (found'.symm.trans found)
    rw [held]

theorem Candidate.start_lt_stop (c : s.Candidate) : c.start < c.stop := by
  -- The name of the filter takes up bytes, whatever the delimiters are.
  have filled : 0 < utf8Size Delimiters.filterName := by decide
  simp only [start, stop, Interpolation.back, utf8Size_append]
  omega

theorem Candidate.closed_lt_stop (c : s.Candidate) : c.closed < c.stop := by
  have filled : 0 < utf8Size Delimiters.filterName := by decide
  simp only [closed, stop, Interpolation.back, utf8Size_append]
  omega

theorem Candidate.stop_le_utf8ByteSize (c : s.Candidate) : c.stop ≤ s.text.utf8ByteSize := by
  rw [← utf8Size_toList, c.split, stop, utf8Size_append _ c.after]
  omega

/-- What is found is a candidate that precedes all others. -/
theorem exists_precedes_of_search_some {m : Match}
    (found : s.delimiters.regex.search s.text s.cursor = some m) :
    ∃ c : s.Candidate, (∀ c' : s.Candidate, c.Precedes c') ∧
      messageOf? m = some (String.ofList c.message) ∧ s.cursorBehind m = c.stop := by
  obtain ⟨inText, reached, first, earlier⟩ := Regex.search_eq_some found
  obtain ⟨c, g, groups, number, text, start, closed, stop⟩ :=
    exists_candidate inText reached (List.mem_of_head? first)
  refine ⟨c, fun c' => ?_, ?_, ?_⟩
  · obtain ⟨p, q, g', inText', start', stop', closed', member⟩ := c'.exists_mem_results
    rw [Candidate.Precedes, ← start, ← start', ← closed, ← closed', ← stop, ← stop']
    obtain left | here | right := Nat.lt_trichotomy m.start.offset p.offset
    · exact .inl left
    · -- Both start at one place, and the preferred result of that place was found.
      refine .inr ⟨here, ?_⟩
      obtain rfl := inText.eq_of_offset inText' here
      obtain ⟨others, all⟩ := List.head?_eq_some_iff.mp first
      have order := Delimiters.pairwise_regex s.delimiters m.start
      rw [all, List.pairwise_cons] at order
      rw [all, List.mem_cons] at member
      obtain equal | other := member
      · rw [← equal] at groups ⊢
        obtain rfl := List.singleton_inj.mp groups
        exact .inr ⟨rfl, Nat.le_refl _⟩
      · exact order.1 _ other g (by simp [groups]) g' (by simp)
    · -- The search would have found the other candidate first.
      have absent := earlier p inText' (start' ▸ c'.reached) right
      rw [absent] at member
      contradiction
  · rw [messageOf?_of_groups groups number, text]
  · rw [cursorBehind, start, stop, if_pos c.start_lt_stop]

/-! ## The choice among candidates -/

/-- Two candidates that precede each other have one message and one end. -/
theorem Candidate.eq_of_precedes {c c' : s.Candidate} (precedes : c.Precedes c')
    (precedes' : c'.Precedes c) : c.message = c'.message ∧ c.stop = c'.stop := by
  obtain ⟨start, closed, stop⟩ :
      c.start = c'.start ∧ c.closed = c'.closed ∧ c.stop = c'.stop := by
    simp only [Precedes] at precedes precedes'
    omega
  refine ⟨?_, stop⟩
  have texts := c.split.symm.trans c'.split
  simp only [List.append_assoc] at texts
  obtain ⟨before, texts⟩ := append_inj_of_utf8Size texts start
  obtain ⟨front, texts⟩ := Interpolation.front_append_inj texts
  refine (append_inj_of_utf8Size texts ?_).1
  simpa [Candidate.closed, before, front] using closed

theorem search_eq_none_iff :
    s.delimiters.regex.search s.text s.cursor = none ↔ IsEmpty s.Candidate := by
  constructor
  · intro none
    refine ⟨fun c => ?_⟩
    obtain ⟨p, q, g, inText, start, _, _, member⟩ := c.exists_mem_results
    rw [Regex.search_eq_none_iff.mp none p inText (start ▸ c.reached)] at member
    contradiction
  · intro absent
    cases found : s.delimiters.regex.search s.text s.cursor with
    | none => rfl
    | some m =>
      obtain ⟨c, _⟩ := exists_precedes_of_search_some found
      exact absent.elim c

theorem exists_precedes (some : Nonempty s.Candidate) :
    ∃ c : s.Candidate, ∀ c' : s.Candidate, c.Precedes c' := by
  cases found : s.delimiters.regex.search s.text s.cursor with
  | none => exact some.elim (search_eq_none_iff.mp found).elim
  | some m =>
    obtain ⟨c, precedes, _⟩ := exists_precedes_of_search_some found
    exact ⟨c, precedes⟩

theorem next_of_precedes {c : s.Candidate} (precedes : ∀ c' : s.Candidate, c.Precedes c') :
    s.next = (some (String.ofList c.message), { s with cursor := c.stop }) := by
  cases found : s.delimiters.regex.search s.text s.cursor with
  | none => exact (search_eq_none_iff.mp found).elim c
  | some m =>
    obtain ⟨c', precedes', held, further⟩ := exists_precedes_of_search_some found
    obtain ⟨message, stop⟩ := Candidate.eq_of_precedes (precedes c') (precedes' c)
    rw [next_of_search_some found held, further, message, stop]

theorem isEmpty_of_next_eq_none {s' : Scanner} (silent : s.next = (none, s')) :
    IsEmpty s.Candidate := by
  refine ⟨fun c => ?_⟩
  obtain ⟨first, precedes⟩ := exists_precedes ⟨c⟩
  simp [next_of_precedes precedes] at silent

theorem next_eq_none_iff : s.next = (none, s) ↔ IsEmpty s.Candidate :=
  ⟨isEmpty_of_next_eq_none, fun absent => next_of_search_none (search_eq_none_iff.mpr absent)⟩

theorem exists_of_next_eq_some {s' : Scanner} {message : String}
    (step : s.next = (some message, s')) :
    ∃ c : s.Candidate, (∀ c' : s.Candidate, c.Precedes c') ∧
      message = String.ofList c.message ∧ s' = { s with cursor := c.stop } := by
  by_cases some : Nonempty s.Candidate
  · obtain ⟨c, precedes⟩ := exists_precedes some
    rw [next_of_precedes precedes] at step
    obtain ⟨message, rest⟩ := Prod.mk.inj step
    exact ⟨c, precedes, (Option.some.inj message).symm, rest.symm⟩
  · rw [next_eq_none_iff.mpr (not_nonempty_iff.mp some)] at step
    cases (Prod.mk.inj step).1

theorem length_le_of_next_eq_some {s' : Scanner} {message : String}
    (step : s.next = (some message, s')) : message.length ≤ s.text.length := by
  obtain ⟨c, _, rfl, _⟩ := exists_of_next_eq_some step
  rw [← String.length_toList, ← String.length_toList, c.split, String.toList_ofList]
  simp only [List.length_append]
  omega

/-- With whatever delimiters, and wherever it stands, a scanner accepts the grammar of
    interpolations and nothing else. Without a candidate, it finds nothing and stays where it is.
    Otherwise some candidate precedes all others; the scanner gives the message of that one, and
    goes on where it ends. -/
theorem next_spec (s : Scanner) :
    (s.next = (none, s) ↔ IsEmpty s.Candidate) ∧
    (Nonempty s.Candidate → ∃ c : s.Candidate, ∀ c' : s.Candidate, c.Precedes c') ∧
    (∀ c : s.Candidate, (∀ c' : s.Candidate, c.Precedes c') →
      s.next = (some (String.ofList c.message), { s with cursor := c.stop })) :=
  ⟨next_eq_none_iff, exists_precedes, fun _ => next_of_precedes⟩

/-- Two candidates, since the closing delimiter is a blank and two blanks follow the filter. -/
theorem next_spec_blankClosing :
    ∃ c : (new ⟨['<'], [' ']⟩ "<'a'|translate  .").Candidate,
      (∀ c' : (new ⟨['<'], [' ']⟩ "<'a'|translate  .").Candidate, c.Precedes c') ∧
      (new ⟨['<'], [' ']⟩ "<'a'|translate  .").next =
        (some (String.ofList c.message),
          { new ⟨['<'], [' ']⟩ "<'a'|translate  ." with cursor := c.stop }) := by
  have some : Nonempty (new ⟨['<'], [' ']⟩ "<'a'|translate  .").Candidate :=
    ⟨{ quote := ['\''], message := ['a'], first := [], second := [], third := [], fourth := []
       before := [], after := [' ', '.']
       isToken := ⟨1, by simp [tokens, Delimiters.apostrophe]⟩
       oneLine := by simp
       blank := by simp
       split := by simp [new, Interpolation.front, Interpolation.back, Delimiters.filterName_eq]
       reached := Nat.zero_le _
       anchored := fun _ => rfl }⟩
  obtain ⟨c, precedes⟩ := (next_spec _).2.1 some
  exact ⟨c, precedes, (next_spec _).2.2 c precedes⟩

/-! ## All that is found -/

theorem toList_of_next_eq_none {s' : Scanner} (silent : s.next = (none, s')) : s.toList = [] := by
  rw [toList]
  split
  · rfl
  · next step => rw [silent] at step; cases (Prod.mk.inj step).1

theorem toList_of_next_eq_some {s' : Scanner} {message : String}
    (step : s.next = (some message, s')) : s.toList = (message, s'.cursor) :: s'.toList := by
  rw [toList]
  split
  · next silent => rw [step] at silent; cases (Prod.mk.inj silent).1
  · next step' =>
    rw [step] at step'
    obtain ⟨same, rfl⟩ := Prod.mk.inj step'
    rw [Option.some.inj same]

end Scanner

end Potfile
