/-! # Digits

* `digitIn?`: the value of a digit in a base of at most sixteen.
* `numeral`: a natural number in decimal.
-/

namespace Potfile.Text

/-- The value of a digit in the given base, for letters of either case. -/
def digitIn? (base : Nat) (c : Char) : Option Nat :=
  let n := if c.isDigit then c.toNat - '0'.toNat
    else if 'a' ≤ c ∧ c ≤ 'f' then c.toNat - 'a'.toNat + 10
    else if 'A' ≤ c ∧ c ≤ 'F' then c.toNat - 'A'.toNat + 10
    else base
  if n < base then some n else none

/-- A natural number in decimal, without leading zeros. -/
def numeral (n : Nat) : String := String.ofList (Nat.toDigits 10 n)

end Potfile.Text
