/-! # Binary floating-point magnitudes

Non-negative numbers of the binary format with 53 significant bits, as exact integers: a finite
magnitude is `mantissa * 2 ^ exponent`.

* `Binary64.ofRatio`: the magnitude nearest to a quotient of two natural numbers; a tie goes to
  the even mantissa.
* `Binary64.ofDecimal`: the magnitude nearest to a decimal number.
* `mul`, `div`: products and quotients of finite magnitudes, rounded once.
-/

namespace Potfile

/-- A non-negative number of the binary format with 53 significant bits. -/
inductive Binary64 where
  | finite (mantissa : Nat) (exponent : Int)
  | infinite
deriving DecidableEq, Repr, Inhabited

namespace Binary64

/-- The exponent of the least positive magnitude. -/
def minExponent : Int := -1074

/-- The exponent of the greatest magnitudes. -/
def maxExponent : Int := 971

def precision : Nat := 53

/-- The quotient `num * 2 ^ k / den` as a pair of natural numbers. -/
def scale (num den : Nat) (k : Int) : Nat × Nat :=
  if 0 ≤ k then (num * Nat.pow 2 k.toNat, den)
  else (num, den * Nat.pow 2 (-k).toNat)

/-- The natural number nearest to `num / den`; a half goes to the even neighbour. -/
def roundHalfEven (num den : Nat) : Nat :=
  let q := num / den
  let r := 2 * (num % den)
  if r < den then q else if den < r then q + 1 else q + q % 2

/-- The greatest `e` with `2 ^ e ≤ num / den`, for positive `num` and `den`. -/
def log2Ratio (num den : Nat) : Int :=
  let guess : Int := (num.log2 : Int) - den.log2
  let (n, d) := scale num den (-guess)
  if d ≤ n then guess else guess - 1

/-- The magnitude nearest to `num / den`, for positive `den`. -/
def ofRatio (num den : Nat) : Binary64 :=
  if num = 0 then .finite 0 minExponent
  else
    let e := max (log2Ratio num den - (precision - 1 : Nat)) minExponent
    let (n, d) := scale num den (-e)
    let m := roundHalfEven n d
    let (m, e) := if m = Nat.pow 2 precision then (Nat.pow 2 (precision - 1), e + 1) else (m, e)
    if maxExponent < e then .infinite else .finite m e

def ofNat (n : Nat) : Binary64 := ofRatio n 1

/-- The magnitude nearest to `digits * 10 ^ exponent`. Far outside the format's range the
    answer does not depend on the digits, and no power is computed. -/
def ofDecimal (digits : Nat) (exponent : Int) : Binary64 :=
  if digits = 0 then .finite 0 minExponent
  else
    let size : Int := (Nat.toDigits 10 digits).length + exponent
    if 400 < size then .infinite
    else if size < -400 then .finite 0 minExponent
    else if 0 ≤ exponent then ofRatio (digits * Nat.pow 10 exponent.toNat) 1
    else ofRatio digits (Nat.pow 10 (-exponent).toNat)

def ratio (mantissa : Nat) (exponent : Int) : Nat × Nat := scale mantissa 1 exponent

def mul : Binary64 → Binary64 → Binary64
  | .finite m e, .finite m' e' =>
    let (n, d) := ratio (m * m') (e + e')
    ofRatio n d
  | _, _ => .infinite

/-- The quotient by a positive magnitude. -/
def div : Binary64 → Binary64 → Binary64
  | .finite m e, .finite m' e' =>
    let (n, d) := scale m m' (e - e')
    ofRatio n d
  | _, _ => .infinite

def isZero : Binary64 → Bool
  | .finite m _ => m == 0
  | .infinite => false

end Binary64

end Potfile
