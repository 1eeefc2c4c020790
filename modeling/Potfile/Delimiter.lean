import Potfile.Regex
import Potfile.Text.Blank

/-! # Interpolations in a text

An interpolation is a quoted message that is passed through the filter `translate` between two
delimiters, such as `\x7b\x7b 'Hello' | translate \x7d\x7d`. Blanks may stand around each part.

* `Delimiters`: the two delimiters. When both are empty, an interpolation is found at the very
  start of a text only, which is how whole attribute values are read.
* `Delimiters.regex`: what an interpolation looks like.
* `Scanner`: walks through a text from interpolation to interpolation.
-/

namespace Potfile

open Text (isBlank)

structure Delimiters where
  opening : List Char
  closing : List Char
deriving DecidableEq, Repr, Inhabited

namespace Delimiters

/-- The delimiters of attribute values: none. -/
def none : Delimiters := ⟨[], []⟩

/-- Without delimiters, only the start of a text counts. -/
def isAnchored (d : Delimiters) : Bool := d.opening.isEmpty && d.closing.isEmpty

/-! ## Expression -/

def apostrophe : List Char := ['\'']

def quotationMark : List Char := ['"']

def entity : List Char := "&quot;".toList

def filterName : List Char := "translate".toList

def blanks : Regex := .greedy isBlank

/-- A message between two equal tokens. It is as short as it can be and does not reach over the
    end of a line. -/
def quoted (number : Nat) (quote : List Char) : Regex :=
  .sequence (.literal quote) (.sequence (.group number (.lazy (· ≠ '\n'))) (.literal quote))

/-- The number of tokens that may enclose a message. Each of them has a group of its own. -/
def quoteGroups : Nat := 3

/-- A message, closed by the token that opened it. -/
def message : Regex :=
  .either (quoted 1 apostrophe) (.either (quoted 2 quotationMark) (quoted 3 entity))

/-- What an interpolation starts with. -/
def anchor (d : Delimiters) : Regex := if d.isAnchored then .start else .literal d.opening

/-- The filter, and the closing delimiter. -/
def filter (d : Delimiters) : Regex :=
  .sequence blanks <| .sequence (.literal ['|']) <| .sequence blanks <|
    .sequence (.literal filterName) <| .sequence blanks <| .literal d.closing

def regex (d : Delimiters) : Regex :=
  .sequence d.anchor <| .sequence blanks <| .sequence message d.filter

/-! ## Size limit -/

/-- The greatest size of a compiled pattern. -/
def sizeLimit : Nat := 10485760

/-- The size of the compiled pattern: 32 for each byte of a delimiter. -/
def compiledSize (opening closing : String) : Nat :=
  32 * (opening.utf8ByteSize + closing.utf8ByteSize)

/-- The delimiters, unless their compiled pattern would be too large; the error is the reason. -/
def new? (opening closing : String) : Except String Delimiters :=
  if compiledSize opening closing ≤ sizeLimit then .ok ⟨opening.toList, closing.toList⟩
  else .error s!"Compiled regex exceeds size limit of {sizeLimit} bytes."

end Delimiters

/-! ## Scanner -/

/-- A walk through one text. -/
structure Scanner where
  delimiters : Delimiters
  text : String
  /-- The byte at which the next search starts. -/
  cursor : Nat
deriving DecidableEq, Repr

namespace Scanner

/-- The walk that starts at the beginning of `text`. -/
def new (d : Delimiters) (text : String) : Scanner := ⟨d, text, 0⟩

/-- Where the walk goes on after a match. No match should be empty, but if one were, the walk
    would be over. -/
def cursorBehind (s : Scanner) (m : Regex.Match) : Nat :=
  if m.start.offset < m.stop.offset then m.stop.offset else s.text.utf8ByteSize + 1

theorem lt_cursorBehind {s : Scanner} {m : Regex.Match} (inside : s.cursor ≤ s.text.utf8ByteSize)
    (found : s.delimiters.regex.search s.text s.cursor = some m) : s.cursor < s.cursorBehind m := by
  have reached := Regex.le_start_of_search found
  simp only [cursorBehind]
  split <;> omega

/-- The message that a match holds. -/
def messageOf? (m : Regex.Match) : Option String :=
  ((List.range' 1 Delimiters.quoteGroups).findSome? m.group?).map (String.ofList ·.text)

/-- The next message, if there is one, and the walk behind its interpolation. -/
def next (s : Scanner) : Option String × Scanner :=
  if _inside : s.cursor ≤ s.text.utf8ByteSize then
    match _found : s.delimiters.regex.search s.text s.cursor with
    | none => (none, s)
    | some m =>
      match messageOf? m with
      | some message => (some message, { s with cursor := s.cursorBehind m })
      | none => next { s with cursor := s.cursorBehind m }
  else (none, s)
termination_by s.text.utf8ByteSize + 1 - s.cursor
decreasing_by
  have advanced := lt_cursorBehind _inside _found
  omega

theorem cursor_lt_of_next {s s' : Scanner} {message : String} (step : s.next = (some message, s')) :
    s'.text = s.text ∧ s.cursor < s'.cursor ∧ s.cursor ≤ s.text.utf8ByteSize := by
  fun_induction next s with
  | case1 s inside found => simp at step
  | case2 s inside m found message' held =>
    obtain ⟨_, rfl⟩ := Prod.mk.inj step
    exact ⟨rfl, lt_cursorBehind inside found, inside⟩
  | case3 s inside m found held inductionHypothesis =>
    obtain ⟨sameText, further, _⟩ := inductionHypothesis step
    exact ⟨sameText, Nat.lt_trans (lt_cursorBehind inside found) further, inside⟩
  | case4 s outside => simp at step

/-- The next message and the walk behind its interpolation, if there is one. -/
def next? (s : Scanner) : Option (String × Scanner) :=
  match s.next with
  | (some message, s') => some (message, s')
  | (none, _) => none

/-- All messages that follow, each with the cursor behind its interpolation. -/
def toList (s : Scanner) : List (String × Nat) :=
  match _step : s.next with
  | (none, _) => []
  | (some message, s') => (message, s'.cursor) :: toList s'
termination_by s.text.utf8ByteSize + 1 - s.cursor
decreasing_by
  obtain ⟨sameText, further, inside⟩ := cursor_lt_of_next _step
  rw [sameText]
  omega

end Scanner

namespace Delimiters

def messages (d : Delimiters) (text : String) : List String :=
  (Scanner.new d text).toList.map (·.1)

def first? (d : Delimiters) (text : String) : Option String :=
  (Scanner.new d text).next.1

end Delimiters

end Potfile
