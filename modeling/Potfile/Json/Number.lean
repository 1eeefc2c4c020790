import Potfile.Json.Error
import Potfile.Decimal.Shortest

/-! # Numbers of a JSON text

* `Number`: an integer, as long as it fits into 64 bits, or else a floating-point number.
* `readNumber`: the value of a number.
* `skipNumber`: checks the form of a number that is not needed.
-/

namespace Potfile.Json

/-- A number as it is reported: an integer of 64 bits, or a floating-point number. -/
inductive Number where
  | integer (value : Int)
  | float (negative : Bool) (magnitude : Binary64)
deriving Repr

/-- What the number is called when another type was expected. -/
def Number.describe : Number → String
  | .integer v => "integer \x60" ++ toString v ++ "\x60"
  | .float negative m =>
    "floating point \x60" ++ (if negative then "-" else "") ++ String.ofList m.scientific ++ "\x60"

def wordMax : Nat := Nat.pow 2 64 - 1

def isDigit (c : Option Char) : Bool := c.any Char.isDigit

def isExponentMark (c : Option Char) : Bool := c == some 'e' || c == some 'E'

/-! ## The value of a number -/

/-- The magnitude `significand * 10 ^ exponent`, computed from the rounded significand by
    multiplications and divisions with powers of ten, each rounded. -/
def magnitude (c : Cursor) (significand : Nat) (exponent : Int) : Except Error Binary64 :=
  go 6 (Binary64.ofNat significand) exponent
where
  go : Nat → Binary64 → Int → Except Error Binary64
    | 0, f, _ => .ok f
    | fuel + 1, f, e =>
      if 308 < e then if f.isZero then .ok f else failAt c .numberOutOfRange
      else if 0 ≤ e then
        let product := f.mul (Binary64.ofDecimal 1 e)
        if product = .infinite then failAt c .numberOutOfRange else .ok product
      else if -308 ≤ e then .ok (f.div (Binary64.ofDecimal 1 (-e)))
      else if f.isZero then .ok f
      else go fuel (f.div (Binary64.ofDecimal 1 308)) (e + 308)

/-- The rest of a number from its exponent mark on. -/
def readExponent (negative : Bool) (significand : Nat) (shift : Int) (c : Cursor) :
    Except Error (Number × Cursor) :=
  let c := c.advance
  let down := c.peek? == some '-'
  let c := if c.peek? == some '+' || down then c.advance else c
  if c.rest.isEmpty then failAt c .endInValue
  else if !isDigit c.peek? then failAt c.advance .invalidNumber
  else
    let (e, behind) := c.skipDigits 0
    if e ≤ 2147483647 then do
      let f ← magnitude behind significand (shift + if down then -(e : Int) else e)
      return (.float negative f, behind)
    else if significand ≠ 0 ∧ !down then failAt (tooLong c.rest.length 0 c) .numberOutOfRange
    else .ok (.float negative (.finite 0 Binary64.minExponent), behind)
where
  /-- The cursor behind the first digit that makes the exponent too large. -/
  tooLong : Nat → Nat → Cursor → Cursor
    | 0, _, c => c
    | fuel + 1, e, c =>
      let (digit, _) := (Cursor.mk (c.rest.take 1) c.place).skipDigits 0
      if 2147483647 < 10 * e + digit then c.advance else tooLong fuel (10 * e + digit) c.advance

/-- The rest of a number behind its digits: an exponent, or nothing. -/
def readMark (negative : Bool) (significand : Nat) (shift : Int) (c : Cursor) :
    Except Error (Number × Cursor) :=
  if isExponentMark c.peek? then readExponent negative significand shift c
  else do
    let f ← magnitude c significand shift
    return (.float negative f, c)

/-- Takes digits into the significand as long as it fits into a word, and counts them. Later
    digits are only skipped: the flag says that there were some. -/
def takeDigits (significand : Nat) (c : Cursor) : Nat × Nat × Bool × Cursor :=
  go c.rest.length significand 0 c
where
  go : Nat → Nat → Nat → Cursor → Nat × Nat × Bool × Cursor
    | 0, s, n, c => (s, n, false, c)
    | fuel + 1, s, n, c =>
      if isDigit c.peek? then
        let (digit, _) := (Cursor.mk (c.rest.take 1) c.place).skipDigits 0
        if 10 * s + digit ≤ wordMax then go fuel (10 * s + digit) (n + 1) c.advance
        else (s, n, true, c)
      else (s, n, false, c)

/-- The rest of a number from its point on. -/
def readFraction (negative : Bool) (significand : Nat) (shift : Int) (c : Cursor) :
    Except Error (Number × Cursor) :=
  let (s, count, cut, behind) := takeDigits significand c.advance
  if cut then readMark negative s (shift - count) (behind.skipDigits 0).2
  else if count = 0 then
    if behind.rest.isEmpty then failNext behind .endInValue else failNext behind .invalidNumber
  else readMark negative s (shift - count) behind

/-- The rest of a number behind an integer part that fits into a word. -/
def readTail (negative : Bool) (significand : Nat) (c : Cursor) :
    Except Error (Number × Cursor) :=
  if c.peek? == some '.' then readFraction negative significand 0 c
  else if isExponentMark c.peek? then readExponent negative significand 0 c
  else if !negative then .ok (.integer significand, c)
  else if significand = 0 ∨ Nat.pow 2 63 < significand then
    .ok (.float true (Binary64.ofNat significand), c)
  else .ok (.integer (-(significand : Int)), c)

/-- The value of a number, from behind its sign on. -/
def readNumber (negative : Bool) : Reader Number := fun c =>
  if c.rest.isEmpty then failAt c .endInValue
  else if c.peek? == some '0' then
    if isDigit c.advance.peek? then failNext c.advance .invalidNumber
    else readTail negative 0 c.advance
  else if isDigit c.peek? then
    let (s, _, cut, behind) := takeDigits 0 c
    if !cut then readTail negative s behind
    else
      let last := (behind.skipDigits 0).2
      let shift : Int := behind.size - last.size
      if last.peek? == some '.' then readFraction negative s shift last
      else readMark negative s shift last
  else failAt c.advance .invalidNumber

/-! ## Numbers that are skipped -/

def skipExponent (c : Cursor) : Except Error Cursor :=
  let c := c.advance
  let c := if c.peek? == some '+' || c.peek? == some '-' then c.advance else c
  if isDigit c.peek? then .ok (c.skipDigits 0).2 else failAt c.advance .invalidNumber

def skipFraction (c : Cursor) : Except Error Cursor :=
  let c := c.advance
  if !isDigit c.peek? then failNext c .invalidNumber
  else
    let c := (c.skipDigits 0).2
    if isExponentMark c.peek? then skipExponent c else .ok c

/-- The cursor behind a number, from behind its sign on. -/
def skipNumber (c : Cursor) : Except Error Cursor := do
  let behind ←
    if c.peek? == some '0' then
      if isDigit c.advance.peek? then failNext c.advance .invalidNumber else pure c.advance
    else if isDigit c.peek? then pure (c.skipDigits 0).2
    else failAt c.advance .invalidNumber
  if behind.peek? == some '.' then skipFraction behind
  else if isExponentMark behind.peek? then skipExponent behind
  else return behind

end Potfile.Json
