import Potfile.Script.Token.Number
import Potfile.Text.Blank

/-! # Cutting a script into tokens

* `skip`: what stands between tokens, which is blanks and comments.
* `Token.next`: the next token.
-/

namespace Potfile.Script

inductive Gap where
  | blanks
  | line
  | block
deriving DecidableEq, Repr

/-- The blanks of scripts, among which is the mark of byte order. -/
def isGap (c : Char) : Bool := Text.isBlank c || c == '\uFEFF'

/-- The text behind blanks and comments, and whether a line ended before it. A comment may also
    begin like one of markup, and at the beginning of a line with the end of such a one. -/
def skip : Gap → (lineEnded : Bool) → List Char → Bool × List Char
  | _, e, [] => (e, [])
  | .line, e, c :: cs => if isLineEnd c then skip .blanks true cs else skip .line e cs
  | .block, e, '*' :: '/' :: cs => skip .blanks e cs
  | .block, e, c :: cs => skip .block (e || isLineEnd c) cs
  | .blanks, e, '/' :: '/' :: cs => skip .line e cs
  | .blanks, e, '/' :: '*' :: cs => skip .block e cs
  | .blanks, e, '<' :: '!' :: '-' :: '-' :: cs => skip .line e cs
  | .blanks, true, '-' :: '-' :: '>' :: cs => skip .line true cs
  | .blanks, e, c :: cs =>
    if isLineEnd c then skip .blanks true cs
    else if isGap c then skip .blanks e cs
    else (e, c :: cs)

/-- The mark at the beginning of a text. An optional chain does not go on with a digit. -/
def readMark (cs : List Char) : Token × List Char :=
  match marks.find? (fun m => m.toList.isPrefixOf cs) with
  | none => (.invalid, cs.drop 1)
  | some m =>
    let m := if m == "?." && (cs.drop 2).head?.any Char.isDigit then "?" else m
    (.mark m, cs.drop m.length)

/-- A name or a keyword. A keyword must be spelled out. -/
def readName (cs : List Char) : Token × List Char :=
  match readWord isNameStart cs with
  | none => (.invalid, cs.drop 1)
  | some (word, escaped, rest) =>
    let text := String.ofList word
    if escaped && reserved.contains text then (.invalid, rest) else (.word text, rest)

/-- The token at the beginning of a text, and the text behind it. -/
def Token.next : List Char → Token × List Char
  | [] => (.endOfFile, [])
  | c :: cs =>
    if isNameStart c || c == '\\' then readName (c :: cs)
    else if c.isDigit || (c == '.' && cs.head?.any Char.isDigit) then readNumber (c :: cs)
    else if c == '\'' || c == '"' then
      match readString c cs with
      | none => (.invalid, cs)
      | some (codes, escaped, rest) => (.string (ofCodes? codes) escaped, rest)
    else if c == '#' then
      match readWord isNameStart cs with
      | some (word@(_ :: _), _, rest) => (.privateName (String.ofList word), rest)
      | _ => (.invalid, cs)
    else readMark (c :: cs)

end Potfile.Script
