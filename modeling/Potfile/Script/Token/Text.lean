import Potfile.Text.Digits
import Potfile.Script.Token.Letters

/-! # Strings, templates, regular expressions and names

* `escape?`: what an escape means.
* `ofCodes?`: the text of a list of codes, in which surrogates have to come in pairs.
* `readString`, `readTemplate`, `readRegex`, `readWord`: the readers of texts up to their ends.
-/

namespace Potfile.Script

open Text (digitIn?)

def isLineEnd (c : Char) : Bool := c == '\n' || c == '\r' || c == '\u2028' || c == '\u2029'

/-! ## Codes -/

/-- The codes of the first halves of pairs. -/
def isLeading (n : Nat) : Bool := 0xD800 ≤ n && n ≤ 0xDBFF

/-- The codes of the second halves of pairs. -/
def isTrailing (n : Nat) : Bool := 0xDC00 ≤ n && n ≤ 0xDFFF

/-- The text of a list of codes. A half that stands alone is no text. -/
def ofCodes? (codes : List Nat) : Option String := (go none codes).map String.ofList
where
  go : Option Nat → List Nat → Option (List Char)
    | none, [] => some []
    | some _, [] => none
    | none, n :: rest =>
      if isLeading n then go (some n) rest
      else if isTrailing n then none
      else (go none rest).map (Char.ofNat n :: ·)
    | some high, n :: rest =>
      if isTrailing n then
        let code := 0x10000 + (high - 0xD800) * 0x400 + (n - 0xDC00)
        (go none rest).map (Char.ofNat code :: ·)
      else none

/-! ## Escapes -/

def valueIn (base : Nat) (cs : List Char) : Nat :=
  cs.foldl (fun n c => base * n + (digitIn? base c).getD 0) 0

/-- The number of exactly `count` hexadecimal digits. -/
def fixedHex? (count : Nat) (cs : List Char) : Option Nat :=
  let digits := cs.take count
  if digits.length = count ∧ digits.all fun c => (digitIn? 16 c).isSome then
    some (valueIn 16 digits)
  else none

/-- A code and how many characters spell it, behind `\u`. -/
def unicodeEscape? : List Char → Option (Nat × Nat)
  | '\x7b' :: cs =>
    let digits := cs.takeWhile fun c => (digitIn? 16 c).isSome
    let code := valueIn 16 digits
    if digits.isEmpty ∨ 0x10FFFF < code ∨ (cs.drop digits.length).head? ≠ some '\x7d' then none
    else some (code, digits.length + 2)
  | cs => (fixedHex? 4 cs).map (·, 4)

/-- The digits of an octal escape: at most three, of a number below 256. -/
def octalDigits (cs : List Char) : List Char :=
  let digits := (cs.take 3).takeWhile fun c => (digitIn? 8 c).isSome
  if valueIn 8 digits < 256 then digits else digits.take 2

/-- What the escape behind a backslash means, and how many characters spell it; `none` if it is
    broken. Templates have no octal escapes but that of the null character. -/
def escape? (inTemplate : Bool) : List Char → Option (List Nat × Nat)
  | [] => none
  | c :: cs =>
    match c with
    | 'n' => some ([0x0A], 1)
    | 't' => some ([0x09], 1)
    | 'b' => some ([0x08], 1)
    | 'v' => some ([0x0B], 1)
    | 'f' => some ([0x0C], 1)
    | 'r' => some ([0x0D], 1)
    | '\r' => some ([], if cs.head? = some '\n' then 2 else 1)
    | 'x' => (fixedHex? 2 cs).map fun n => ([n], 3)
    | 'u' =>
      match unicodeEscape? cs with
      | none => none
      | some (code, n) =>
        -- The half of a pair in the short form asks for a second half in the short form.
        if n = 4 ∧ isLeading code ∧ (cs.drop 4).take 2 = ['\\', 'u'] then
          (fixedHex? 4 (cs.drop 6)).map fun _ => ([code], n + 1)
        else some ([code], n + 1)
    | _ =>
      if isLineEnd c then some ([], 1)
      else
        let digits := octalDigits (c :: cs)
        if digits.isEmpty then some ([c.toNat], 1)
        else if inTemplate ∧ digits ≠ ['0'] then none
        else some ([valueIn 8 digits], digits.length)

/-! ## Texts -/

/-- A string up to its closing quote: its codes, whether it holds escapes, and the text behind
    it; `none` if an escape is broken. The end of the line closes a string too. -/
def readString (quote : Char) : List Char → Option (List Nat × Bool × List Char)
  | [] => some ([], false, [])
  | c :: cs =>
    if c = quote then some ([], false, cs)
    else if c = '\n' ∨ c = '\r' then some ([], false, c :: cs)
    else if c = '\\' then
      match escape? false cs with
      | none => none
      | some (codes, n) =>
        (readString quote (cs.drop n)).map fun (more, _, rest) => (codes ++ more, true, rest)
    else
      (readString quote cs).map fun (more, escaped, rest) => (c.toNat :: more, escaped, rest)
termination_by cs => cs.length
decreasing_by all_goals (simp only [List.length_drop, List.length_cons]; omega)

/-- A template up to the next expression in it or up to its end: whether an expression follows,
    and the text behind; `none` without an end. Broken escapes are allowed in a template that a
    function is going to read. -/
def readTemplate (isTagged : Bool) : List Char → Option (Bool × List Char)
  | [] => none
  | '\x60' :: cs => some (false, cs)
  | '$' :: '\x7b' :: cs => some (true, cs)
  | '\\' :: cs =>
    match escape? true cs with
    | some (_, n) => readTemplate isTagged (cs.drop n)
    | none => if isTagged then readTemplate isTagged (cs.drop 1) else none
  | _ :: cs => readTemplate isTagged cs
termination_by cs => cs.length
decreasing_by all_goals (simp only [List.length_drop, List.length_cons]; omega)

/-- The pattern of a regular expression, and the text behind the slash that closes it. A slash
    in brackets does not. -/
def readPattern (inBrackets : Bool) : List Char → Option (List Char × List Char)
  | [] => none
  | c :: cs =>
    if isLineEnd c then none
    else if c = '/' ∧ !inBrackets then some ([], cs)
    else if c = '\\' then
      match cs with
      | [] => none
      | d :: ds =>
        if isLineEnd d then none
        else (readPattern inBrackets ds).map fun (more, rest) => (c :: d :: more, rest)
    else
      let inBrackets := if c = '[' then true else if c = ']' then false else inBrackets
      (readPattern inBrackets cs).map fun (more, rest) => (c :: more, rest)

/-- The pattern and the flags of a regular expression behind its first slash, and the text
    behind it. -/
def readRegex (cs : List Char) : Option (String × String × List Char) := do
  let (pattern, rest) ← readPattern false cs
  let flags := if rest.head?.any isNameStart then rest.takeWhile isNamePart else []
  return (String.ofList pattern, String.ofList flags, rest.drop flags.length)

/-! ## Names -/

/-- A word up to its end, whether it holds escapes, and the text behind it; `none` if an escape
    is broken or means a character that may not stand in a name. -/
def readWord (isPart : Char → Bool) : List Char → Option (List Char × Bool × List Char)
  | [] => some ([], false, [])
  | '\\' :: cs =>
    match cs with
    | 'u' :: ds =>
      match unicodeEscape? ds with
      | none => none
      | some (code, n) =>
        let c := Char.ofNat code
        if isPart c then
          (readWord isNamePart (ds.drop n)).map fun (more, _, rest) => (c :: more, true, rest)
        else none
    | _ => none
  | c :: cs =>
    if isPart c then
      (readWord isNamePart cs).map fun (more, escaped, rest) => (c :: more, escaped, rest)
    else some ([], false, c :: cs)
termination_by cs => cs.length
decreasing_by all_goals (simp only [List.length_drop, List.length_cons]; omega)

end Potfile.Script
