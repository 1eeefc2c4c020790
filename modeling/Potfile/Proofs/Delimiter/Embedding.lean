import Potfile.Proofs.Delimiter.Reading
import Potfile.Proofs.Delimiter.Resumption

/-! # Interpolations that are embedded in a text

A text is put together from interpolations with anything between them that holds no mark of a
quote. Then scanning takes it apart again: it finds the messages, all of them and in their order,
each with the end of its own interpolation.

* `Delimiters.IsSolid`: delimiters without blanks and without marks.
* `Inset`: an interpolation that can be told from its message, and what follows it.
* `Candidate.start_eq_of_start_le`: nothing starts by accident in front of an interpolation.
* `next_embedded`: one step; `toList_embedded`: the whole text.
-/

namespace Potfile

open Text (isBlank)
open Interpolation (marks)

/-- Delimiters that blanks and quotes can be told from. -/
structure Delimiters.IsSolid (d : Delimiters) : Prop where
  opening_ne_nil : d.opening ≠ []
  closing_ne_nil : d.closing ≠ []
  solid : ∀ c ∈ d.opening ++ d.closing, isBlank c = false
  unmarked : (d.opening ++ d.closing).Disjoint marks

namespace Interpolation

/-- An interpolation as it is written. -/
def chars (i : Interpolation) (d : Delimiters) : List Char := i.front d ++ i.message ++ i.back d

end Interpolation

/-- An interpolation whose message does not hold the quote around it, and what stands behind it up
    to the next one. -/
structure Inset extends Interpolation where
  gap : List Char
  unquoted : ¬ quote <:+: message
  unmarked : gap.Disjoint marks

/-- The interpolation and what stands behind it, as they are written. -/
def Inset.written (d : Delimiters) (i : Inset) : List Char := i.chars d ++ i.gap

/-- Blanks at the end of a word are told from the word. -/
theorem append_blanks_inj {word word' gap gap' : List Char}
    (solid : ∀ c ∈ word.getLast?, isBlank c = false)
    (solid' : ∀ c ∈ word'.getLast?, isBlank c = false)
    (blank : ∀ c ∈ gap, isBlank c) (blank' : ∀ c ∈ gap', isBlank c)
    (equal : word ++ gap = word' ++ gap') : word = word' := by
  have turned := congrArg List.reverse equal
  simp only [List.reverse_append] at turned
  have blanks : ∀ c ∈ gap.reverse, isBlank c := by simpa using blank
  have blanks' : ∀ c ∈ gap'.reverse, isBlank c := by simpa using blank'
  obtain ⟨-, words⟩ := append_inj_of_boundary blanks blanks' (by simpa using solid)
    (by simpa using solid') turned
  exact List.reverse_inj.mp words

theorem Interpolation.unmarked_first (i : Interpolation) : i.first.Disjoint marks := by
  intro c first mark
  have blank := i.blank c (by simp [first])
  simp [Interpolation.isBlank_of_mem_marks mark] at blank

namespace Delimiters.IsSolid

variable {d : Delimiters}

theorem exists_head_closing (solid : d.IsSolid) : ∃ c ∈ d.closing.head?, isBlank c = false := by
  obtain ⟨c, word, closing⟩ := List.exists_cons_of_ne_nil solid.closing_ne_nil
  exact ⟨c, by simp [closing], solid.solid c (by simp [closing])⟩

theorem getLast_opening (solid : d.IsSolid) (between : List Char) :
    ∀ c ∈ (between ++ d.opening).getLast?, isBlank c = false := by
  intro c last
  rw [List.getLast?_append_of_ne_nil _ solid.opening_ne_nil] at last
  exact solid.solid c (List.mem_append_left _ (List.mem_of_getLast? last))

/-- What stands in front of an interpolation cannot be a part of it. -/
theorem eq_nil_of_append_front_eq (solid : d.IsSolid) {between : List Char}
    (unmarked : between.Disjoint marks) {i j : Interpolation} {rest rest' : List Char}
    (equal : i.front d ++ rest = between ++ (j.front d ++ rest')) : between = [] := by
  have opening : d.opening.Disjoint marks := (List.disjoint_append_left.mp solid.unmarked).1
  have blank (k : Interpolation) : ∀ c ∈ k.first, isBlank c :=
    fun c member => k.blank c (by simp [member])
  have head (k : Interpolation) (rest : List Char) :
      ∀ c ∈ (k.quote ++ rest).head?, decide (c ∉ marks) = false := by
    obtain ⟨mark, word, quote, isMark, -⟩ := k.exists_quote_eq_cons
    simpa [quote] using isMark
  have apart {word : List Char} (unmarked : word.Disjoint marks) :
      ∀ c ∈ word, decide (c ∉ marks) = true := by
    simpa using fun c member mark => unmarked member mark
  -- Both readings come upon their quote at the first mark, and so upon the same text before it.
  obtain ⟨fronts, -⟩ := append_inj_of_boundary
    (apart (List.disjoint_append_left.mpr ⟨opening, i.unmarked_first⟩))
    (apart (List.disjoint_append_left.mpr
      ⟨List.disjoint_append_left.mpr ⟨unmarked, opening⟩, j.unmarked_first⟩))
    (head i rest) (head j rest') (by simpa [Interpolation.front] using equal)
  have whole := append_blanks_inj (solid.getLast_opening []) (solid.getLast_opening between)
    (blank i) (blank j) fronts
  simpa using whole

end Delimiters.IsSolid

namespace Scanner

variable {s : Scanner} {d : Delimiters} {lead rest : List Char}

/-- No candidate starts in text without marks in front of an interpolation. -/
theorem Candidate.start_eq_of_start_le (solid : s.delimiters.IsSolid)
    (unmarked : lead.Disjoint marks) {i : Interpolation}
    (split : s.text.toList = lead ++ (i.front s.delimiters ++ rest)) {c : s.Candidate}
    (le : c.start ≤ utf8Size lead) : c.start = utf8Size lead := by
  have texts : c.before ++ (c.front s.delimiters ++
      (c.message ++ (c.back s.delimiters ++ c.after))) =
        lead ++ (i.front s.delimiters ++ rest) := by
    rw [← split, c.split]
    simp
  obtain ⟨between, rfl, inner⟩ := exists_append_of_utf8Size_le texts le
  have empty := solid.eq_nil_of_append_front_eq (List.disjoint_append_left.mp unmarked).2 inner
  simp [Candidate.start, empty]

/-- No candidate stands in text without marks. -/
theorem isEmpty_of_unmarked (unmarked : s.text.toList.Disjoint marks) : IsEmpty s.Candidate := by
  refine ⟨fun c => ?_⟩
  obtain ⟨mark, word, quote, isMark, -⟩ := c.exists_quote_eq_cons
  exact unmarked (by simp [c.split, Interpolation.front, quote]) isMark

/-- Behind text without marks, an interpolation is found where it stands and as it is. -/
theorem next_embedded (solid : s.delimiters.IsSolid) (unmarked : lead.Disjoint marks)
    (i : Interpolation) (unquoted : ¬ i.quote <:+: i.message) (fresh : s.cursor = 0)
    (split : s.text.toList = lead ++ i.chars s.delimiters ++ rest) :
    s.next = (some (String.ofList i.message),
      { s with cursor := utf8Size (lead ++ i.chars s.delimiters) }) := by
  let here : s.Candidate :=
    { toInterpolation := i, before := lead, after := rest
      split := by simp [split, Interpolation.chars]
      reached := by simp [fresh]
      anchored := fun bare => by
        simp only [Delimiters.isAnchored, Bool.and_eq_true, List.isEmpty_iff] at bare
        exact absurd bare.1 solid.opening_ne_nil }
  have first : ∀ c, here.Precedes c := by
    intro c
    by_cases left : c.start ≤ here.start
    · have opened : s.text.toList =
          lead ++ (i.front s.delimiters ++ (i.message ++ i.back s.delimiters ++ rest)) := by
        simp [split, Interpolation.chars]
      have start := c.start_eq_of_start_le solid unmarked opened left
      exact here.precedes_of_start solid.exists_head_closing unquoted start.symm
    · exact .inl (by omega)
  have stop : here.stop = utf8Size (lead ++ i.chars s.delimiters) := by
    simp [here, Candidate.stop, Interpolation.chars]
  rw [next_of_precedes first, stop]

/-- Behind an interpolation, a scanner goes on as a fresh one. -/
theorem toList_embedded_cons (solid : d.IsSolid) (unmarked : lead.Disjoint marks)
    (i : Interpolation) (unquoted : ¬ i.quote <:+: i.message) :
    (new d (String.ofList (lead ++ i.chars d ++ rest))).toList =
      (String.ofList i.message, utf8Size (lead ++ i.chars d)) ::
        (new d (String.ofList rest)).toList.map (shift (String.ofList (lead ++ i.chars d))) := by
  have bounded : d.isAnchored = false := by
    simp [Delimiters.isAnchored, solid.opening_ne_nil]
  have step := next_embedded (s := new d (String.ofList (lead ++ i.chars d ++ rest))) solid
    unmarked i unquoted rfl (String.toList_ofList)
  have further : (new d (String.ofList rest)).behind (String.ofList (lead ++ i.chars d)) =
      ⟨d, String.ofList (lead ++ i.chars d ++ rest), utf8Size (lead ++ i.chars d)⟩ := by
    simp only [behind, new, ← String.ofList_append, ← utf8Size_toList, String.toList_ofList,
      Nat.add_zero]
  rw [toList_of_next_eq_some step, ← toList_behind bounded, further]
  rfl

/-- Scanning finds the messages that were embedded in a text, in their order, and goes on each time
    where the interpolation of the message ends. -/
theorem toList_embedded (solid : d.IsSolid) (unmarked : lead.Disjoint marks) (insets : List Inset) :
    (new d (String.ofList (lead ++ insets.flatMap (·.written d)))).toList =
      insets.mapIdx fun k i => (String.ofList i.message,
        utf8Size (lead ++ (insets.take k).flatMap (·.written d) ++ i.chars d)) := by
  induction insets generalizing lead with
  | nil =>
    have absent := isEmpty_of_unmarked (s := new d (String.ofList lead))
      (by simpa [new] using unmarked)
    simp [toList_of_next_eq_none (next_eq_none_iff.mpr absent)]
  | cons i insets inductionHypothesis =>
    have split : lead ++ (i :: insets).flatMap (·.written d) =
        lead ++ i.chars d ++ (i.gap ++ insets.flatMap (·.written d)) := by
      simp [Inset.written]
    rw [split, toList_embedded_cons solid unmarked i.toInterpolation i.unquoted,
      inductionHypothesis i.unmarked, List.mapIdx_cons, List.mapIdx_eq_zipIdx_map,
      List.mapIdx_eq_zipIdx_map, List.map_map]
    -- What stands in front of the later interpolations moves their ends.
    simp [shift, Inset.written, ← utf8Size_toList, Nat.add_assoc, Function.comp_def]

/-- Two messages that hold the other quotes, a bar, the filter and the delimiters, with blanks of
    several kinds around them. -/
theorem toList_embedded_twoQuotes :
    (⟨['[', '*'], ['$', ')']⟩ : Delimiters).IsSolid ∧ "a [*\n".toList.Disjoint marks ∧
    (new ⟨['[', '*'], ['$', ')']⟩ ("a [*\n[*'\"x\" | translate$)' \n|\u2003translate\t$)$) |" ++
      "[*&quot;'b' & [*&quot;|translate$)")).toList =
        [("\"x\" | translate$)", 44), ("'b' & [*", 82)] := by
  have solid : (⟨['[', '*'], ['$', ')']⟩ : Delimiters).IsSolid :=
    ⟨by decide, by decide, by simp [isBlank], by simp [marks]⟩
  have unmarked : "a [*\n".toList.Disjoint marks := by simp [marks]
  let insets : List Inset :=
    [{ quote := ['\''], message := "\"x\" | translate$)".toList
       first := [], second := [' ', '\n'], third := ['\u2003'], fourth := ['\t']
       isToken := ⟨1, .head _⟩, oneLine := by decide, blank := by simp [isBlank]
       gap := "$) |".toList, unquoted := by decide +kernel, unmarked := by simp [marks] },
     { quote := Delimiters.entity, message := "'b' & [*".toList
       first := [], second := [], third := [], fourth := []
       isToken := ⟨3, .tail _ (.tail _ (.head _))⟩, oneLine := by decide, blank := by simp [isBlank]
       gap := [], unquoted := by decide +kernel, unmarked := by simp [marks] }]
  have text : "a [*\n[*'\"x\" | translate$)' \n|\u2003translate\t$)$) |" ++
      "[*&quot;'b' & [*&quot;|translate$)" =
        String.ofList ("a [*\n".toList ++ insets.flatMap (·.written ⟨['[', '*'], ['$', ')']⟩)) := by
    decide +kernel
  refine ⟨solid, unmarked, ?_⟩
  rw [text, toList_embedded solid unmarked insets]
  decide +kernel

end Scanner

end Potfile
