import Potfile.Script.Token
import Potfile.Script.Token.Text

/-! # Numbers

* `readNumber`: a number in decimal, hexadecimal, octal or binary, with or without a fraction.
  Underscores between its digits mean nothing.
-/

namespace Potfile.Script

open Text (digitIn?)

/-- The digits at the beginning of a text, with the underscores among them. -/
def digitRun (base : Nat) (cs : List Char) : List Char :=
  cs.takeWhile fun c => (digitIn? base c).isSome || c == '_'

def withoutUnderscores (cs : List Char) : List Char := cs.filter (· != '_')

/-- One more digit behind an integer, rounded. -/
def addDigit (base : Nat) (value : Binary64) (digit : Nat) : Binary64 :=
  match value with
  | .infinite => .infinite
  | .finite m e =>
    let (num, den) := Binary64.ratio m e
    Binary64.ofRatio (num * base + digit * den) den

/-- The integer of some digits in another base than ten. Digits are added one after another, and
    each sum is rounded. -/
def integerIn (base : Nat) (digits : List Char) : Binary64 :=
  digits.foldl (fun value c => addDigit base value ((digitIn? base c).getD 0)) (Binary64.ofNat 0)

/-- No name may follow a number without a blank. -/
def closed (token : Token) (rest : List Char) : Token × List Char :=
  if rest.head?.any isNameStart then (.invalid, rest) else (token, rest)

/-- A number in another base than ten, behind the letter of the base. -/
def readRadix (base : Nat) (cs : List Char) : Token × List Char :=
  let run := digitRun base cs
  let digits := withoutUnderscores run
  let rest := cs.drop run.length
  if digits.isEmpty then (.invalid, rest)
  else match rest with
    | 'n' :: rest => (.bigint (valueIn base digits), rest)
    | rest => closed (.number (integerIn base digits)) rest

/-- An exponent at the beginning of a text, and the text behind it; `none` if it lacks digits. -/
def readExponent : List Char → Option (Int × List Char)
  | [] => some (0, [])
  | c :: cs =>
    if c = 'e' ∨ c = 'E' then
      let isNegative := cs.head? == some '-'
      let cs := if isNegative || cs.head? == some '+' then cs.drop 1 else cs
      let run := digitRun 10 cs
      let digits := withoutUnderscores run
      if digits.isEmpty then none
      else
        let value : Int := valueIn 10 digits
        some (if isNegative then -value else value, cs.drop run.length)
    else some (0, c :: cs)

/-- A decimal number whose integral digits were read. -/
def readFraction (integral : List Char) (cs : List Char) : Token × List Char :=
  let run := if cs.head? == some '.' then digitRun 10 (cs.drop 1) else []
  let rest := if cs.head? == some '.' then (cs.drop 1).drop run.length else cs
  let fraction := withoutUnderscores run
  match readExponent rest with
  | none => (.invalid, rest)
  | some (exponent, rest) =>
    let value := Binary64.ofDecimal (valueIn 10 (integral ++ fraction))
      (exponent - fraction.length)
    closed (.number value) rest

/-- A number that begins with a digit or with a point. More digits behind a zero are octal, unless
    one of them is not. -/
def readNumber (cs : List Char) : Token × List Char :=
  match cs with
  | '0' :: 'x' :: cs | '0' :: 'X' :: cs => readRadix 16 cs
  | '0' :: 'o' :: cs | '0' :: 'O' :: cs => readRadix 8 cs
  | '0' :: 'b' :: cs | '0' :: 'B' :: cs => readRadix 2 cs
  | cs =>
    let run := digitRun 10 cs
    let digits := withoutUnderscores run
    let rest := cs.drop run.length
    let isPadded := run.head? == some '0' && 1 < run.length
    if !isPadded && !run.isEmpty && rest.head? == some 'n' then
      (.bigint (valueIn 10 digits), rest.drop 1)
    else if isPadded && digits.all (fun c => (digitIn? 8 c).isSome) then
      closed (.number (integerIn 8 digits)) rest
    else readFraction digits rest

end Potfile.Script
