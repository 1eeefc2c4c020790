import Potfile.Decimal.Binary64

/-! # The shortest decimal that reads back

Among the decimals that round to a magnitude, those with the fewest digits are taken, and of
these the nearest to the magnitude; of two equally near ones the greater.

* `Binary64.shortest`: its digits and its exponent.
* `Binary64.positional`: the decimal written out without an exponent.
* `Binary64.scientific`: the decimal with a decimal point or an exponent, in any case marked as
  no integer.
-/

namespace Potfile.Binary64

/-- A decimal number `digits * 10 ^ exponent`. -/
structure Decimal where
  digits : Nat
  exponent : Int
deriving DecidableEq, Repr

/-- The decimals between which everything rounds to `m * 2 ^ e`, all over the denominator
    `4 * d`: the magnitude itself, the lower and the upper end. Below a power of two the
    neighbour is only half as far. -/
structure Interval where
  value : Nat
  low : Nat
  high : Nat
  den : Nat
  /-- The ends round to the magnitude too. -/
  closed : Bool

def interval (m : Nat) (e : Int) : Interval :=
  let (n, d) := scale 1 1 e
  let below := if m = Nat.pow 2 (precision - 1) ∧ minExponent < e then 1 else 2
  { value := 4 * m * n, low := (4 * m - below) * n, high := (4 * m + 2) * n, den := 4 * d,
    closed := m % 2 == 0 }

/-- The number `x / den` is in the interval; `x` is over `den * scale`. -/
def Interval.holds (i : Interval) (x scale : Nat) : Bool :=
  if i.closed then i.low * scale ≤ x && x ≤ i.high * scale
  else i.low * scale < x && x < i.high * scale

/-- The point of the grid of step `10 ^ k` that stands for the magnitude, if one lies in its
    interval: the nearer of the two around the magnitude. -/
def Interval.onGrid? (i : Interval) (k : Int) : Option Nat :=
  -- A grid point `q` has the numerator `q * step` over `den * scale`.
  let step := if 0 ≤ k then i.den * Nat.pow 10 k.toNat else i.den
  let scale := if 0 ≤ k then 1 else Nat.pow 10 (-k).toNat
  let v := i.value * scale
  let q := v / step
  let down := i.holds (q * step) scale
  let up := i.holds ((q + 1) * step) scale
  if up && (!down || (q + 1) * step - v ≤ v - q * step) then some (q + 1)
  else if down then some q
  else none

/-- The least `p` with `value < 10 ^ p`, searched upwards from `p`. -/
def digitsBefore (value den : Nat) : (fuel : Nat) → Int → Int
  | 0, p => p
  | fuel + 1, p =>
    let below := if 0 ≤ p then value < den * Nat.pow 10 p.toNat
      else value * Nat.pow 10 (-p).toNat < den
    if below then p else digitsBefore value den fuel (p + 1)

/-- The first grid, from the coarsest on, that holds a decimal for the magnitude. Seventeen
    digits are always enough. -/
def search (i : Interval) (p : Int) : (fuel digits : Nat) → Decimal
  | 0, _ => ⟨0, 0⟩
  | fuel + 1, digits =>
    let k := p - digits
    match i.onGrid? k with
    | some q => ⟨q, k⟩
    | none => search i p fuel (digits + 1)

/-- The shortest decimal that reads back as `m * 2 ^ e`. -/
def shortest (m : Nat) (e : Int) : Decimal :=
  if m = 0 then ⟨0, 0⟩
  else
    let i := interval m e
    -- The difference of the binary lengths is off by less than one, and 30103 / 100000 is
    -- the decimal logarithm of two.
    let start := ((i.value.log2 : Int) - i.den.log2 - 1) * 30103 / 100000
    search i (digitsBefore i.value i.den 5 start) 18 1

/-- The digits without the zeros at their end, which raise the exponent. -/
def Decimal.normalize (d : Decimal) : List Char × Int :=
  let ds := (Nat.toDigits 10 d.digits).reverse
  let zeros := ds.takeWhile (· == '0')
  if d.digits = 0 then (['0'], 0)
  else ((ds.drop zeros.length).reverse, d.exponent + zeros.length)

/-- The decimal written out: all digits of the integer part, and behind a point those of the
    fraction, if there is one. -/
def positional : Binary64 → List Char
  | .infinite => ['i', 'n', 'f']
  | .finite m e =>
    let (ds, k) := (shortest m e).normalize
    if 0 ≤ k then ds ++ List.replicate k.toNat '0'
    else
      let places := (-k).toNat
      if places < ds.length then
        ds.take (ds.length - places) ++ '.' :: ds.drop (ds.length - places)
      else '0' :: '.' :: (List.replicate (places - ds.length) '0' ++ ds)

/-- The decimal as a floating-point literal: written out where its point stands among or near
    its digits, and else with one digit before the point and an exponent. -/
def scientific : Binary64 → List Char
  | .infinite => ['i', 'n', 'f']
  | .finite m e =>
    let (ds, k) := (shortest m e).normalize
    let point : Int := ds.length + k
    if m = 0 then ['0', '.', '0']
    else if 0 ≤ k ∧ point ≤ 16 then ds ++ List.replicate k.toNat '0' ++ ['.', '0']
    else if 0 < point ∧ point ≤ 16 then ds.take point.toNat ++ '.' :: ds.drop point.toNat
    else if -5 < point ∧ point ≤ 0 then
      '0' :: '.' :: (List.replicate (-point).toNat '0' ++ ds)
    else
      let exponent := 'e' :: (toString (point - 1)).toList
      match ds with
      | [d] => d :: exponent
      | d :: rest => d :: '.' :: rest ++ exponent
      | [] => exponent

end Potfile.Binary64
