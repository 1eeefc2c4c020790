import Potfile.Markup.EntityTable
import Potfile.Text.Digits

/-! # Character references

Behind an ampersand, a character may be given by its name or by its number.

* `reference?`: the characters that a reference means, and how long it is. In the value of an
  attribute, a name without its semicolon is no reference where a letter, a digit or an equals
  sign follows.
-/

namespace Potfile.Markup

open Text (digitIn?)

/-- The character that stands for what is none. -/
def replacementChar : Char := '\uFFFD'

/-- The characters that numbers from 128 to 159 mean: those of an old code page. -/
def legacyNumbers : List Nat :=
  [0x20AC, 0x81, 0x201A, 0x0192, 0x201E, 0x2026, 0x2020, 0x2021, 0x02C6, 0x2030, 0x0160, 0x2039,
   0x0152, 0x8D, 0x017D, 0x8F, 0x90, 0x2018, 0x2019, 0x201C, 0x201D, 0x2022, 0x2013, 0x2014,
   0x02DC, 0x2122, 0x0161, 0x203A, 0x0153, 0x9D, 0x017E, 0x0178]

def charOfNumber (n : Nat) : Char :=
  if n = 0 ∨ 0x10FFFF < n ∨ (0xD800 ≤ n ∧ n ≤ 0xDFFF) then replacementChar
  else if 0x80 ≤ n ∧ n ≤ 0x9F then Char.ofNat (legacyNumbers.getD (n - 0x80) n)
  else Char.ofNat n

/-- The number in front of `cs`, in the given base; `none` without a digit. `start` is the
    number of characters in front of the digits. -/
def numeric? (base start : Nat) (cs : List Char) : Option (List Char × Nat) :=
  let digits := cs.takeWhile fun c => (digitIn? base c).isSome
  if digits.isEmpty then none
  else
    let n := digits.foldl (fun n c => min (base * n + (digitIn? base c).getD 0) 0x110000) 0
    let length := start + digits.length
    let closed := (cs.drop digits.length).head? = some ';'
    some ([charOfNumber n], if closed then length + 1 else length)

/-- The longest name in front of `cs` that needs no semicolon, of at most the given length. -/
def lenientName? (cs : List Char) : Nat → Option (Entity × Nat)
  | 0 => none
  | n + 1 =>
    match Entity.find? (cs.take (n + 1)) with
    | some e => if e.isLenient then some (e, n + 1) else lenientName? cs n
    | none => lenientName? cs n

/-- The named character in front of `cs`. -/
def named? (inAttribute : Bool) (cs : List Char) : Option (List Char × Nat) :=
  let run := cs.takeWhile Char.isAlphanum
  let closed := (cs.drop run.length).head? = some ';'
  match if closed then Entity.find? run else none with
  | some e => some (e.meaning, run.length + 1)
  | none =>
    match lenientName? run (min run.length 32) with
    | none => none
    | some (e, n) =>
      let bars (c : Char) : Bool := c == '=' || c.isAlphanum
      if inAttribute && (cs.drop n).head?.any bars then none else some (e.meaning, n)

/-- The characters that the reference in front of `cs` means, and its length; the ampersand has
    been read already. -/
def reference? (inAttribute : Bool) (cs : List Char) : Option (List Char × Nat) :=
  match cs with
  | '#' :: 'x' :: rest => numeric? 16 2 rest
  | '#' :: 'X' :: rest => numeric? 16 2 rest
  | '#' :: rest => numeric? 10 1 rest
  | _ => named? inAttribute cs

end Potfile.Markup
