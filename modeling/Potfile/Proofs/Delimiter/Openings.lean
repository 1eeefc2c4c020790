import Potfile.Config
import Potfile.Proofs.Delimiter.Reading

/-! # Messages that a text leaves open

* `Delimiters.plain`: an interpolation between the default delimiters.
* `Scanner.Opening`: a message that is opened in a text and could end behind this text.
* `Candidate.cases_of_start_lt`: what starts in front of an interpolation ends in front of it, or
  its message was left open there.
-/

namespace Potfile

open Text (isBlank)
open Delimiters (tokens)

namespace Delimiters

def braces : Delimiters := ⟨['{', '{'], ['}', '}']⟩

example : new? ({} : Config).startDelim ({} : Config).endDelim = .ok braces := rfl

/-- A message without anything that an interpolation could be cut off at. -/
def IsPlain (message : String) : Prop :=
  message ≠ "" ∧ ∀ c ∈ message.toList, c ≠ '\'' ∧ c ≠ '"' ∧ c ≠ '&' ∧ c ≠ '\n'

theorem IsPlain.oneLine {message : String} (isPlain : IsPlain message) : '\n' ∉ message.toList :=
  fun member => (isPlain.2 _ member).2.2.2 rfl

/-- An interpolation as it is usually written. -/
def plain (message : String) : String := "\x7b\x7b'" ++ message ++ "' | translate\x7d\x7d"

theorem isBlank_space : isBlank ' ' = true := by decide

def plainParts (message : String) (oneLine : '\n' ∉ message.toList) : Interpolation where
  quote := apostrophe
  message := message.toList
  first := []
  second := [' ']
  third := [' ']
  fourth := []
  isToken := ⟨1, by simp [tokens]⟩
  oneLine := oneLine
  blank := by simpa using isBlank_space

theorem toList_plain {message : String} (oneLine : '\n' ∉ message.toList) :
    (plain message).toList = (plainParts message oneLine).front braces ++
      ((plainParts message oneLine).message ++ (plainParts message oneLine).back braces) := by
  simp [plain, plainParts, Interpolation.front, Interpolation.back, braces, apostrophe,
    filterName_eq]

theorem toList_plain_append {message : String} (post : String) :
    (plain message ++ post).toList =
      '{' :: '{' :: ('\'' :: message.toList ++ "' | translate\x7d\x7d".toList ++ post.toList) := by
  simp [plain]

end Delimiters

open Delimiters (braces IsPlain plain plainParts toList_plain toList_plain_append)

/-! ## Cuts -/

theorem braces_append_inj {before after more : List Char} (last : '{' ∉ more)
    (equal : '{' :: '{' :: more = before ++ '{' :: '{' :: after) : before = [] ∧ more = after := by
  cases before with
  | nil => exact ⟨rfl, by simpa using equal⟩
  | cons _ before =>
    obtain ⟨_, inner⟩ := List.cons.inj equal
    cases before with
    | nil =>
      obtain ⟨_, second⟩ := List.cons.inj inner
      exact absurd (by simp [second]) last
    | cons _ before =>
      obtain ⟨_, second⟩ := List.cons.inj inner
      exact absurd (by simp [second]) last

namespace Interpolation

theorem brace_notMem_quote (i : Interpolation) : '{' ∉ i.quote := by
  obtain quote | quote | quote := i.cases_quote <;> rw [quote] <;> decide

theorem brace_notMem_blanks {gap : List Char} (blank : ∀ c ∈ gap, isBlank c) : '{' ∉ gap :=
  fun member => absurd (blank _ member) (by decide)

theorem brace_notMem_back (i : Interpolation) : '{' ∉ i.back braces := by
  have blank := i.blank
  simp only [List.forall_mem_append] at blank
  obtain ⟨⟨⟨_, second⟩, third⟩, fourth⟩ := blank
  simp [back, braces, Delimiters.filterName_eq, i.brace_notMem_quote,
    brace_notMem_blanks second, brace_notMem_blanks third, brace_notMem_blanks fourth]

/-- The text up to a message ends in front of two braces, if it starts in front of them. -/
theorem exists_of_front_append_eq {i : Interpolation} {rest part more : List Char}
    (equal : i.front braces ++ rest = part ++ '{' :: '{' :: more) (some : part ≠ []) :
    ∃ between, part = i.front braces ++ between ∧ rest = between ++ '{' :: '{' :: more := by
  have absent : '{' ∉ i.first ++ i.quote := by
    have blank := i.blank
    simp only [List.forall_mem_append] at blank
    simp [brace_notMem_blanks blank.1.1.1, i.brace_notMem_quote]
  have equal' : '{' :: '{' :: (i.first ++ i.quote ++ rest) = part ++ '{' :: '{' :: more := by
    simpa [front, braces] using equal
  cases part with
  | nil => contradiction
  | cons _ part =>
    obtain ⟨rfl, inner⟩ := List.cons.inj equal'
    cases part with
    | nil =>
      -- The second brace of the front would be the first one behind it.
      obtain ⟨_, second⟩ := List.cons.inj inner
      obtain ⟨_, nothing, _⟩ :=
        exists_of_append_eq absent (show i.first ++ i.quote ++ rest = [] ++ '{' :: more from second)
      simp [i.quote_ne_nil] at nothing
    | cons _ part =>
      obtain ⟨rfl, second⟩ := List.cons.inj inner
      obtain ⟨between, rfl, rest⟩ := exists_of_append_eq absent second
      exact ⟨between, by simp [front, braces], rest⟩

end Interpolation

/-! ## Messages that are left open -/

namespace Scanner

abbrev walk (text : String) (cursor : Nat) : Scanner := ⟨braces, text, cursor⟩

/-- A message that is opened in the text of a scanner and could end behind this text. -/
structure Opening (s : Scanner) where
  before : List Char
  /-- The blanks behind the opening delimiter. -/
  first : List Char
  quote : List Char
  /-- The message, as far as the text goes. -/
  rest : List Char
  isToken : ∃ number, (number, quote) ∈ tokens
  oneLine : '\n' ∉ rest
  blank : ∀ c ∈ first, isBlank c
  split : s.text.toList = before ++ (s.delimiters.opening ++ first ++ quote) ++ rest
  reached : s.cursor ≤ utf8Size before

variable {s : Scanner} {pre tail : String} {cursor : Nat} {more : List Char}

def Opening.start (o : s.Opening) : Nat := utf8Size o.before

/-- Wherever a message could be left open, an interpolation starts, or it does further left. -/
def Covered (s : Scanner) : Prop := ∀ o : s.Opening, ∃ c : s.Candidate, c.start ≤ o.start

namespace Candidate

def extend (c : (walk pre cursor).Candidate) (tail : String) :
    (walk (pre ++ tail) cursor).Candidate where
  toInterpolation := c.toInterpolation
  before := c.before
  after := c.after ++ tail.toList
  split := by simp [c.split]
  reached := c.reached
  anchored := c.anchored

/-- An interpolation that starts in front of two braces ends in front of them, or its message was
    opened there and runs over them. -/
theorem cases_of_start_lt (braced : tail.toList = '{' :: '{' :: more)
    (c : (walk (pre ++ tail) cursor).Candidate) (left : c.start < pre.utf8ByteSize) :
    (∃ c' : (walk pre cursor).Candidate,
      c'.start = c.start ∧ c'.closed = c.closed ∧ c'.stop = c.stop) ∨
    (∃ o : (walk pre cursor).Opening, o.start = c.start) ∧ '{' ∈ c.message ∧
      pre.utf8ByteSize ≤ c.closed := by
  have split : pre.toList ++ '{' :: '{' :: more =
      c.before ++ (c.front braces ++ (c.message ++ (c.back braces ++ c.after))) := by
    have whole := c.split
    rw [String.toList_append, braced] at whole
    simpa using whole
  obtain ⟨part, before, _⟩ | ⟨part, before, inner⟩ := List.append_eq_append_iff.mp split
  · rw [start, before, utf8Size_append, utf8Size_toList] at left
    omega
  have some : part ≠ [] := by
    rintro rfl
    rw [start, ← utf8Size_toList, before, List.append_nil] at left
    omega
  -- Neither the text up to the message nor the text behind it can hold the braces, but the message
  -- can. So it decides on which side of them the interpolation ends.
  obtain ⟨opened, front, inner⟩ := Interpolation.exists_of_front_append_eq inner some
  have pre' : pre.toList = c.before ++ (c.front braces ++ opened) := by rw [before, front]
  obtain ⟨closed, message, outer⟩ | ⟨closed, message, outer⟩ := List.append_eq_append_iff.mp inner
  · -- The message ends in front of the braces.
    obtain ⟨behind, rest, after⟩ := exists_of_append_eq c.brace_notMem_back outer
    refine .inl ⟨⟨c.toInterpolation, c.before, behind, ?_, c.reached, c.anchored⟩, rfl, rfl, rfl⟩
    simp [pre', message, rest]
  · -- The message takes up the first brace at least.
    refine .inr ⟨⟨⟨c.before, c.first, c.quote, opened, c.isToken, ?_, ?_, ?_, c.reached⟩, rfl⟩,
      ?_, ?_⟩
    · exact fun member => c.oneLine (by simp [message, member])
    · exact fun _ member => c.blank _ (by simp [member])
    · simpa [Interpolation.front] using pre'
    · cases closed with
      | nil =>
        obtain ⟨_, nothing, _⟩ := exists_of_append_eq c.brace_notMem_back
          (show c.back braces ++ c.after = [] ++ '{' :: '{' :: more from outer.symm)
        simp [Interpolation.back] at nothing
      | cons _ closed =>
        obtain ⟨rfl, _⟩ := List.cons.inj outer
        simp [message]
    · rw [Candidate.closed, ← utf8Size_toList, pre', message]
      simp only [utf8Size_append]
      omega

end Candidate

end Scanner

end Potfile
