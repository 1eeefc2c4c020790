import Potfile.Delimiter
import Potfile.Proofs.Regex

/-! # The grammar of interpolations

* `Interpolation`: the parts that an interpolation is put together from.
* `accepts_regex_iff`: the expression for interpolations accepts exactly these.
* `pairwise_regex`: of several interpolations at one place, the one with the shortest message is
  preferred, and then the one that ends last.
-/

namespace Potfile

open Text (isBlank)
open Regex (Place Group Match)

namespace Delimiters

/-- The tokens that may enclose a message, with the numbers of their groups. -/
def tokens : List (Nat × List Char) := [(1, apostrophe), (2, quotationMark), (3, entity)]

end Delimiters

open Delimiters (tokens filterName)

/-- The parts of an interpolation, but for the delimiters. -/
structure Interpolation where
  quote : List Char
  message : List Char
  /-- The blanks behind the opening delimiter. -/
  first : List Char
  /-- The blanks behind the message. -/
  second : List Char
  /-- The blanks in front of the name of the filter. -/
  third : List Char
  /-- The blanks in front of the closing delimiter. -/
  fourth : List Char
  isToken : ∃ number, (number, quote) ∈ tokens
  oneLine : '\n' ∉ message
  blank : ∀ c ∈ first ++ second ++ third ++ fourth, isBlank c

namespace Interpolation

/-- What stands in front of the message. -/
def front (i : Interpolation) (d : Delimiters) : List Char := d.opening ++ i.first ++ i.quote

/-- What stands behind the message. -/
def back (i : Interpolation) (d : Delimiters) : List Char :=
  i.quote ++ i.second ++ ['|'] ++ i.third ++ filterName ++ i.fourth ++ d.closing

end Interpolation

/-! ## Uniqueness -/

theorem takeWhile_of_boundary {holds : Char → Bool} {gap rest : List Char}
    (all : ∀ c ∈ gap, holds c) (boundary : ∀ c ∈ rest.head?, holds c = false) :
    (gap ++ rest).takeWhile holds = gap := by
  rw [List.takeWhile_append_of_pos all]
  cases rest with
  | nil => simp
  | cons c rest => simp [boundary c rfl]

theorem append_inj_of_boundary {holds : Char → Bool} {gap gap' rest rest' : List Char}
    (all : ∀ c ∈ gap, holds c) (all' : ∀ c ∈ gap', holds c)
    (boundary : ∀ c ∈ rest.head?, holds c = false) (boundary' : ∀ c ∈ rest'.head?, holds c = false)
    (equal : gap ++ rest = gap' ++ rest') : gap = gap' ∧ rest = rest' := by
  have same := congrArg (List.takeWhile holds) equal
  rw [takeWhile_of_boundary all boundary, takeWhile_of_boundary all' boundary'] at same
  subst same
  exact ⟨rfl, List.append_cancel_left equal⟩

namespace Interpolation

theorem cases_quote (i : Interpolation) :
    i.quote = ['\''] ∨ i.quote = ['"'] ∨ i.quote = ['&', 'q', 'u', 'o', 't', ';'] := by
  obtain ⟨number, token⟩ := i.isToken
  simp only [tokens, List.mem_cons, Prod.mk.injEq, List.not_mem_nil, or_false] at token
  obtain ⟨_, quote⟩ | ⟨_, quote⟩ | ⟨_, quote⟩ := token
  · exact .inl quote
  · exact .inr (.inl quote)
  · exact .inr (.inr quote)

theorem quote_boundary (i : Interpolation) (rest : List Char) :
    ∀ c ∈ (i.quote ++ rest).head?, isBlank c = false := by
  obtain quote | quote | quote := i.cases_quote <;> rw [quote] <;> simp <;> decide

theorem quote_append_inj {i j : Interpolation} {rest rest' : List Char}
    (equal : i.quote ++ rest = j.quote ++ rest') : i.quote = j.quote ∧ rest = rest' := by
  obtain quote | quote | quote := i.cases_quote <;>
    obtain quote' | quote' | quote' := j.cases_quote <;> simp_all

/-- The text up to the message is read in one way only. -/
theorem front_append_inj {i j : Interpolation} {d : Delimiters} {rest rest' : List Char}
    (equal : i.front d ++ rest = j.front d ++ rest') : i.front d = j.front d ∧ rest = rest' := by
  have blank (k : Interpolation) : ∀ c ∈ k.first, isBlank c :=
    fun c member => k.blank c (by simp [member])
  simp only [front, List.append_assoc] at equal ⊢
  have equal := List.append_cancel_left equal
  obtain ⟨first, equal⟩ := append_inj_of_boundary (blank i) (blank j) (i.quote_boundary rest)
    (j.quote_boundary rest') equal
  obtain ⟨quote, equal⟩ := quote_append_inj equal
  rw [first, quote]
  exact ⟨rfl, equal⟩

end Interpolation

namespace Delimiters

/-! ## Acceptance -/

theorem accepts_anchor_iff {d : Delimiters} {p q : Place} {groups : List Group} :
    d.anchor.Accepts p q groups ↔
      (d.isAnchored → p.offset = 0) ∧ p.Reads d.opening q ∧ groups = [] := by
  rw [anchor]
  split
  · next bare =>
    have empty : d.opening = [] := by
      rw [isAnchored, Bool.and_eq_true, List.isEmpty_iff] at bare
      exact bare.1
    simp [Regex.Accepts, bare, empty]
  · next bounded => simp [Regex.Accepts, bounded]

theorem accepts_filter_iff {d : Delimiters} {p q : Place} {groups : List Group} :
    d.filter.Accepts p q groups ↔
      (∃ second third fourth, (∀ c ∈ second ++ third ++ fourth, isBlank c) ∧
        p.Reads (second ++ ['|'] ++ third ++ filterName ++ fourth ++ d.closing) q) ∧
      groups = [] := by
  simp only [filter, blanks, Regex.accepts_greedy_sequence_iff, Regex.accepts_literal_sequence_iff]
  simp only [Regex.Accepts, Place.reads_append, List.forall_mem_append]
  constructor
  · rintro ⟨second, m₁, blank₁, reads₁, m₂, reads₂, third, m₃, blank₂, reads₃, m₄, reads₄,
      fourth, m₅, blank₃, reads₅, reads₆, rfl⟩
    exact ⟨⟨second, third, fourth, ⟨⟨blank₁, blank₂⟩, blank₃⟩,
      m₅, ⟨m₄, ⟨m₃, ⟨m₂, ⟨m₁, reads₁, reads₂⟩, reads₃⟩, reads₄⟩, reads₅⟩, reads₆⟩, rfl⟩
  · rintro ⟨⟨second, third, fourth, ⟨⟨blank₁, blank₂⟩, blank₃⟩,
      m₅, ⟨m₄, ⟨m₃, ⟨m₂, ⟨m₁, reads₁, reads₂⟩, reads₃⟩, reads₄⟩, reads₅⟩, reads₆⟩, rfl⟩
    exact ⟨second, m₁, blank₁, reads₁, m₂, reads₂, third, m₃, blank₂, reads₃, m₄, reads₄,
      fourth, m₅, blank₃, reads₅, reads₆, rfl⟩

theorem accepts_quoted_iff {number : Nat} {quote : List Char} {p q : Place} {groups : List Group} :
    (quoted number quote).Accepts p q groups ↔
      ∃ message opened closed, '\n' ∉ message ∧ p.Reads quote opened ∧
        opened.Reads message closed ∧ closed.Reads quote q ∧ groups = [⟨number, opened, closed⟩] := by
  have oneLine (message : List Char) :
      (∀ c ∈ message, decide (c ≠ '\n') = true) ↔ '\n' ∉ message := by
    simp only [decide_eq_true_eq, ne_eq, List.forall_mem_ne']
  simp only [quoted, Regex.accepts_literal_sequence_iff]
  simp only [Regex.Accepts, oneLine]
  constructor
  · rintro ⟨opened, reads₁, closed, _, _, ⟨_, ⟨⟨message, apart, reads₂⟩, rfl⟩, rfl⟩, ⟨reads₃, rfl⟩, rfl⟩
    exact ⟨message, opened, closed, apart, reads₁, reads₂, reads₃, rfl⟩
  · rintro ⟨message, opened, closed, apart, reads₁, reads₂, reads₃, rfl⟩
    exact ⟨opened, reads₁, closed, _, [], ⟨[], ⟨⟨message, apart, reads₂⟩, rfl⟩, rfl⟩, ⟨reads₃, rfl⟩, rfl⟩

theorem accepts_message_iff {p q : Place} {groups : List Group} :
    message.Accepts p q groups ↔
      ∃ number quote, (number, quote) ∈ tokens ∧ (quoted number quote).Accepts p q groups := by
  simp [message, tokens, Regex.Accepts, or_and_right, exists_or]

/-- The expression for interpolations accepts an interpolation, and nothing else. Its one group
    is the message. -/
theorem accepts_regex_iff {d : Delimiters} {p q : Place} {groups : List Group} :
    d.regex.Accepts p q groups ↔
      (d.isAnchored → p.offset = 0) ∧
      ∃ (i : Interpolation) (number : Nat) (opened closed : Place), (number, i.quote) ∈ tokens ∧
        p.Reads (i.front d) opened ∧ opened.Reads i.message closed ∧ closed.Reads (i.back d) q ∧
        groups = [⟨number, opened, closed⟩] := by
  constructor
  · rintro ⟨m₁, _, _, accepted₁, accepted₂, rfl⟩
    obtain ⟨anchored, reads₁, rfl⟩ := accepts_anchor_iff.mp accepted₁
    obtain ⟨first, m₂, blank₁, reads₂, accepted₃⟩ := Regex.accepts_greedy_sequence_iff.mp accepted₂
    obtain ⟨m₃, _, _, accepted₄, accepted₅, rfl⟩ := accepted₃
    obtain ⟨number, quote, token, accepted₆⟩ := accepts_message_iff.mp accepted₄
    obtain ⟨message, opened, closed, oneLine, reads₃, reads₄, reads₅, rfl⟩ :=
      accepts_quoted_iff.mp accepted₆
    obtain ⟨⟨second, third, fourth, blank₂, reads₆⟩, rfl⟩ := accepts_filter_iff.mp accepted₅
    refine ⟨anchored, ⟨quote, message, first, second, third, fourth, ⟨number, token⟩, oneLine, ?_⟩,
      number, opened, closed, token, ?_, reads₄, ?_, rfl⟩
    · simp only [List.append_assoc, List.forall_mem_append] at blank₂ ⊢
      exact ⟨blank₁, blank₂⟩
    · exact Place.reads_append.mpr ⟨m₂, Place.reads_append.mpr ⟨m₁, reads₁, reads₂⟩, reads₃⟩
    · simpa [Interpolation.back] using Place.reads_append.mpr ⟨m₃, reads₅, reads₆⟩
  · rintro ⟨anchored, ⟨quote, message, first, second, third, fourth, _, oneLine, blank⟩, number,
      opened, closed, token, front, reads₄, back, rfl⟩
    simp only [List.append_assoc, List.forall_mem_append] at blank
    obtain ⟨m₂, both, reads₃⟩ := Place.reads_append.mp front
    obtain ⟨m₁, reads₁, reads₂⟩ := Place.reads_append.mp both
    have whole : closed.Reads
        (quote ++ (second ++ ['|'] ++ third ++ filterName ++ fourth ++ d.closing)) q := by
      simpa [Interpolation.back] using back
    obtain ⟨m₃, reads₅, reads₆⟩ := Place.reads_append.mp whole
    refine ⟨m₁, [], [⟨number, opened, closed⟩], accepts_anchor_iff.mpr ⟨anchored, reads₁, rfl⟩,
      Regex.accepts_greedy_sequence_iff.mpr ⟨first, m₂, blank.1, reads₂, m₃,
        [⟨number, opened, closed⟩], [], ?_, ?_, rfl⟩, rfl⟩
    · exact accepts_message_iff.mpr ⟨number, quote, token, accepts_quoted_iff.mpr
        ⟨message, opened, closed, oneLine, reads₃, reads₄, reads₅, rfl⟩⟩
    · refine accepts_filter_iff.mpr ⟨⟨second, third, fourth, ?_, reads₆⟩, rfl⟩
      simpa only [List.append_assoc, List.forall_mem_append] using blank.2

/-! ## Preference -/

/-- The message of the one match ends earlier, or both end at once and the whole match does not
    end earlier. -/
def Precedes (a b : Match) : Prop :=
  ∀ g ∈ a.groups, ∀ h ∈ b.groups,
    g.stop.offset < h.stop.offset ∨ g.stop.offset = h.stop.offset ∧ b.stop.offset ≤ a.stop.offset

theorem pairwise_closing (word : List Char) (p : Place) :
    ((Regex.sequence blanks (.literal word)).results p).Pairwise
      fun a b => b.stop.offset ≤ a.stop.offset := by
  refine Regex.pairwise_sequence (fun m _ => Regex.pairwise_literal word m.stop _) ?_
  -- The more blanks there are in front of the delimiter, the later it ends.
  rw [blanks, Regex.results, List.pairwise_map, List.pairwise_reverse]
  refine (Place.pairwise_along isBlank p).imp ?_
  rintro q q' ⟨nearer, _⟩ a member b member'
  obtain ⟨⟨_, offset⟩, _⟩ := Regex.accepts_of_mem_results member
  obtain ⟨⟨_, offset'⟩, _⟩ := Regex.accepts_of_mem_results member'
  simp only at *
  omega

theorem filterName_eq : filterName = ['t', 'r', 'a', 'n', 's', 'l', 'a', 't', 'e'] :=
  rfl

theorem entity_eq : entity = ['&', 'q', 'u', 'o', 't', ';'] := rfl

theorem pairwise_filter (d : Delimiters) (p : Place) :
    (d.filter.results p).Pairwise fun a b => b.stop.offset ≤ a.stop.offset := by
  rw [filter, filterName_eq]
  -- Only the last blanks have a choice: what follows the others does not start with a blank.
  apply Regex.pairwise_greedy_sequence ((Regex.avoids_literal (by decide)).sequence _)
  intro q₁
  apply Regex.pairwise_literal_sequence
  intro q₂
  apply Regex.pairwise_greedy_sequence ((Regex.avoids_literal (by decide)).sequence _)
  intro q₃
  apply Regex.pairwise_literal_sequence
  intro q₄
  exact pairwise_closing d.closing q₄

theorem groups_of_mem_filter {d : Delimiters} {p : Place} {m : Match}
    (member : m ∈ d.filter.results p) : m.groups = [] :=
  (accepts_filter_iff.mp (Regex.accepts_of_mem_results member)).2

theorem pairwise_quoted (number : Nat) (quote : List Char) (p : Place) :
    ((quoted number quote).results p).Pairwise
      fun a b => ∀ g ∈ a.groups, ∀ h ∈ b.groups, g.stop.offset < h.stop.offset := by
  apply Regex.pairwise_literal_sequence
  intro opened
  refine Regex.pairwise_sequence (fun m _ => Regex.pairwise_literal quote m.stop _) ?_
  -- The shorter messages come first.
  rw [Regex.results, Regex.results, List.pairwise_map, List.pairwise_map]
  refine (Place.pairwise_along _ opened).imp ?_
  rintro closed closed' ⟨nearer, _⟩ a member b member' g within h within'
  rw [(Regex.accepts_of_mem_results member).2, List.append_nil, List.mem_singleton] at within
  rw [(Regex.accepts_of_mem_results member').2, List.append_nil, List.mem_singleton] at within'
  subst within
  subst within'
  exact nearer

theorem exists_of_mem_quoted {number : Nat} {c : Char} {word : List Char} {p : Place} {m : Match}
    (member : m ∈ (quoted number (c :: word)).results p) : ∃ rest, p.rest = c :: rest := by
  obtain ⟨_, opened, _, _, reads, _⟩ :=
    accepts_quoted_iff.mp (Regex.accepts_of_mem_results member)
  exact ⟨word ++ opened.rest, reads.1⟩

theorem pairwise_message (p : Place) :
    (message.results p).Pairwise
      fun a b => ∀ g ∈ a.groups, ∀ h ∈ b.groups, g.stop.offset < h.stop.offset := by
  rw [message, apostrophe, quotationMark, entity_eq, Regex.results, Regex.results,
    List.pairwise_append, List.pairwise_append]
  -- Which of the tokens there is at `p` is seen from the first character.
  refine ⟨pairwise_quoted _ _ p, ⟨pairwise_quoted _ _ p, pairwise_quoted _ _ p, ?_⟩, ?_⟩
  · intro a member b member'
    obtain ⟨_, front⟩ := exists_of_mem_quoted member
    obtain ⟨_, front'⟩ := exists_of_mem_quoted member'
    simp [front] at front'
  · intro a member b member'
    obtain ⟨_, front⟩ := exists_of_mem_quoted member
    obtain member' | member' := List.mem_append.mp member' <;>
    · obtain ⟨_, front'⟩ := exists_of_mem_quoted member'
      simp [front] at front'

theorem avoids_message : message.Avoids isBlank := by
  rw [message, apostrophe, quotationMark, entity_eq]
  exact .either ((Regex.avoids_literal (by decide)).sequence _)
    (.either ((Regex.avoids_literal (by decide)).sequence _)
      ((Regex.avoids_literal (by decide)).sequence _))

theorem pairwise_message_filter (d : Delimiters) (p : Place) :
    ((Regex.sequence message d.filter).results p).Pairwise Precedes := by
  apply Regex.pairwise_sequence
  · intro m member
    obtain ⟨number, quote, _, accepted⟩ :=
      accepts_message_iff.mp (Regex.accepts_of_mem_results member)
    obtain ⟨_, opened, closed, _, _, _, _, groups⟩ := accepts_quoted_iff.mp accepted
    refine (pairwise_filter d m.stop).imp_of_mem fun member member' later => ?_
    simp [Precedes, groups, groups_of_mem_filter member, groups_of_mem_filter member', later]
  · refine (pairwise_message p).imp fun {m m'} earlier a member b member' g within h within' => ?_
    rw [groups_of_mem_filter member, List.append_nil] at within
    rw [groups_of_mem_filter member', List.append_nil] at within'
    exact .inl (earlier g within h within')

theorem pairwise_anchor (d : Delimiters) (p : Place) (R : Match → Match → Prop) :
    (d.anchor.results p).Pairwise R := by
  rw [anchor]
  split
  · exact Regex.pairwise_start p R
  · exact Regex.pairwise_literal d.opening p R

/-- The interpolations at one place come in the order of `Precedes`. -/
theorem pairwise_regex (d : Delimiters) (p : Place) : (d.regex.results p).Pairwise Precedes := by
  apply Regex.pairwise_sequence_of_unique (pairwise_anchor d p)
  · intro m member
    exact (accepts_anchor_iff.mp (Regex.accepts_of_mem_results member)).2.2
  · intro q
    exact Regex.pairwise_greedy_sequence (avoids_message.sequence _) (pairwise_message_filter d)

end Delimiters

end Potfile
