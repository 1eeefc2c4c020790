import Potfile.Proofs.Delimiter.Scanning

/-! # Interpolations that are read in one way

Where an interpolation starts decides what is found, if its message does not hold its own quote and
the closing delimiter does not start with a blank: every other reading from the same place on has a
longer message.

* `marks`: the characters that tokens start with.
* `back_append_inj`: what stands behind a message is read in one way.
* `Candidate.precedes_of_start`: of all candidates at one place, the one without its quote in the
  message comes first.
-/

namespace Potfile

open Text (isBlank)
open Delimiters (tokens)

/-- A word without a character ends in front of this character. -/
theorem exists_of_append_eq {word rest front back : List Char} {c : Char} (absent : c ∉ word)
    (equal : word ++ rest = front ++ c :: back) :
    ∃ between, front = word ++ between ∧ rest = between ++ c :: back := by
  -- The two readings are compared from the front; the character cannot come up inside the word.
  induction word generalizing front with
  | nil => exact ⟨front, rfl, equal⟩
  | cons w word inductionHypothesis =>
    cases front with
    | nil => simp [(List.cons.inj equal).1] at absent
    | cons f front =>
      obtain ⟨rfl, equal'⟩ := List.cons.inj equal
      obtain ⟨between, rfl, rest⟩ :=
        inductionHypothesis (List.not_mem_of_not_mem_cons absent) equal'
      exact ⟨between, rfl, rest⟩

namespace Interpolation

/-- The characters that tokens start with. -/
def marks : List Char := ['\'', '"', '&']

theorem exists_quote_eq_cons (i : Interpolation) :
    ∃ mark word, i.quote = mark :: word ∧ mark ∈ marks ∧ mark ∉ word := by
  obtain quote | quote | quote := i.cases_quote <;> exact ⟨_, _, quote, by decide, by decide⟩

theorem quote_ne_nil (i : Interpolation) : i.quote ≠ [] := by
  obtain ⟨_, _, quote, _⟩ := i.exists_quote_eq_cons
  simp [quote]

theorem isBlank_of_mem_marks {c : Char} (mark : c ∈ marks) : isBlank c = false := by
  simp only [marks, List.mem_cons, List.not_mem_nil, or_false] at mark
  obtain rfl | rfl | rfl := mark <;> rfl

theorem blanks_append_inj {gap gap' rest rest' : List Char} {c : Char} (solid : isBlank c = false)
    (blank : ∀ c ∈ gap, isBlank c) (blank' : ∀ c ∈ gap', isBlank c)
    (equal : gap ++ c :: rest = gap' ++ c :: rest') : gap = gap' ∧ rest = rest' := by
  obtain ⟨gaps, rests⟩ := append_inj_of_boundary blank blank' (by simpa using solid)
    (by simpa using solid) equal
  exact ⟨gaps, (List.cons.inj rests).2⟩

theorem quote_eq_of_front_eq {i j : Interpolation} {d : Delimiters}
    (equal : i.front d = j.front d) : i.quote = j.quote := by
  have blank (k : Interpolation) : ∀ c ∈ k.first, isBlank c :=
    fun c member => k.blank c (by simp [member])
  have boundary (k : Interpolation) : ∀ c ∈ k.quote.head?, isBlank c = false := by
    simpa using k.quote_boundary []
  simp only [front, List.append_assoc] at equal
  exact (append_inj_of_boundary (blank i) (blank j) (boundary i) (boundary j)
    (List.append_cancel_left equal)).2

/-- The text behind a message is read in one way only, unless blanks could belong to the closing
    delimiter. -/
theorem back_append_inj {d : Delimiters} (solid : ∃ c ∈ d.closing.head?, isBlank c = false)
    {i j : Interpolation} {rest rest' : List Char}
    (equal : i.back d ++ rest = j.back d ++ rest') : i.back d = j.back d := by
  -- Each part ends where the next one starts with something that is no blank.
  have blank := i.blank
  have blank' := j.blank
  simp only [List.forall_mem_append] at blank blank'
  obtain ⟨⟨⟨_, second⟩, third⟩, fourth⟩ := blank
  obtain ⟨⟨⟨_, second'⟩, third'⟩, fourth'⟩ := blank'
  obtain ⟨c, first, solid⟩ := solid
  obtain ⟨word, closing⟩ := List.head?_eq_some_iff.mp first
  simp only [back, closing, Delimiters.filterName_eq, List.append_assoc, List.cons_append,
    List.nil_append] at equal ⊢
  obtain ⟨quote, equal⟩ := quote_append_inj equal
  obtain ⟨gap, equal⟩ := blanks_append_inj (by decide) second second' equal
  obtain ⟨gap', equal⟩ := blanks_append_inj (by decide) third third' equal
  simp only [List.cons.injEq, true_and] at equal
  obtain ⟨gap'', _⟩ := blanks_append_inj solid fourth fourth' equal
  rw [quote, gap, gap', gap'']

/-- A message without its own quote is not cut short. -/
theorem exists_longer_of_append_eq {i j : Interpolation} {d : Delimiters} (same : i.quote = j.quote)
    (unquoted : ¬ i.quote <:+: i.message) {rest rest' : List Char}
    (equal : i.message ++ (i.back d ++ rest) = j.message ++ (j.back d ++ rest')) :
    ∃ longer, j.message = i.message ++ longer ∧
      i.back d ++ rest = longer ++ (j.back d ++ rest') := by
  obtain ⟨longer, message, behind⟩ | ⟨cut, message, behind⟩ := List.append_eq_append_iff.mp equal
  · exact ⟨longer, message, behind⟩
  · cases cut with
    | nil => exact ⟨[], by simpa using message.symm, by simpa using behind.symm⟩
    | cons c cut =>
      -- The quote that ends the shorter message would be complete in front of the one behind it.
      obtain ⟨mark, word, quote, -, once⟩ := i.exists_quote_eq_cons
      simp only [back, ← same, quote, List.append_assoc, List.cons_append] at behind
      obtain ⟨rfl, inner⟩ := List.cons.inj behind
      obtain ⟨between, rfl, -⟩ := exists_of_append_eq once inner
      exact absurd ⟨j.message, between, by simp [message, quote]⟩ unquoted

end Interpolation

namespace Scanner

/-- Of the candidates at one place, the one without its quote in the message comes first. -/
theorem Candidate.precedes_of_start {s : Scanner} {c c' : s.Candidate}
    (solid : ∃ first ∈ s.delimiters.closing.head?, isBlank first = false)
    (unquoted : ¬ c.quote <:+: c.message) (start : c.start = c'.start) : c.Precedes c' := by
  have texts := c.split.symm.trans c'.split
  simp only [List.append_assoc] at texts
  -- Both start in one place, so their texts agree up to the messages, and `c` ends first.
  obtain ⟨before, texts⟩ := append_inj_of_utf8Size texts start
  obtain ⟨front, texts⟩ := Interpolation.front_append_inj texts
  obtain ⟨longer, message, behind⟩ := Interpolation.exists_longer_of_append_eq
    (Interpolation.quote_eq_of_front_eq front) unquoted texts
  have closed : c'.closed = c.closed + utf8Size longer := by
    rw [Candidate.closed, Candidate.closed, message, ← List.append_assoc, utf8Size_append _ longer,
      before, front]
  refine .inr ⟨start, ?_⟩
  cases longer with
  | nil =>
    have back := Interpolation.back_append_inj solid behind
    refine .inr ⟨closed.symm, Nat.le_of_eq ?_⟩
    rw [Candidate.stop, Candidate.stop, message, ← back, before, front, List.append_nil]
  | cons letter longer =>
    have wide := letter.utf8Size_pos
    rw [utf8Size_cons] at closed
    exact .inl (by omega)

end Scanner

end Potfile
