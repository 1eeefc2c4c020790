/-! # Sets of characters

A set of characters is kept as the list of its ranges, in ascending order. Tables write the
ranges as numbers in base 36: in turn how many characters lie outside before the next range,
and how many more than one lie in it.

* `Ranges.ofTable`: the ranges of such a table.
* `Ranges.holds`: whether a character is in the set.
* `RangeMap.find?`: the value of a code point, where ranges have values.
-/

namespace Potfile.Text

def digit36 (c : Char) : Nat :=
  if c.isDigit then c.toNat - '0'.toNat else c.toNat - 'a'.toNat + 10

/-- The numbers of a text, written in base 36 with blanks between them. -/
def numbers36 (cs : List Char) : List Nat :=
  let (found, pending) := cs.foldl step ([], none)
  (pending.toList ++ found).reverse
where
  /-- The numbers read so far, the last one first, and the number that is being read. -/
  step : List Nat × Option Nat → Char → List Nat × Option Nat
    | (found, pending), c =>
      if c = ' ' ∨ c = '\n' then (pending.toList ++ found, none)
      else (found, some (36 * pending.getD 0 + digit36 c))

/-- What lies a given step away from `base`. Even numbers lead forward, odd ones back. -/
def shift (base step : Nat) : Nat :=
  if step % 2 = 0 then base + step / 2 else base - (step + 1) / 2

/-- Ranges of code points, both ends included. -/
structure Ranges where
  toList : List (Nat × Nat)

namespace Ranges

/-- The ranges of a table whose numbers count from `next` on. -/
def ofNumbers (next : Nat) : List Nat → List (Nat × Nat)
  | gap :: more :: rest =>
    (next + gap, next + gap + more) :: ofNumbers (next + gap + more + 1) rest
  | _ => []

/-- The ranges of a table that counts from the code point `start` on. -/
def ofTable (start : Nat) (table : String) : Ranges := ⟨ofNumbers start (numbers36 table.toList)⟩

def holds (r : Ranges) (c : Char) : Bool :=
  go c.toNat r.toList
where
  go (n : Nat) : List (Nat × Nat) → Bool
    | [] => false
    | (low, high) :: rest => if n < low then false else if n ≤ high then true else go n rest

end Ranges

/-! ## Ranges with values -/

/-- Ranges of code points, in ascending order and apart from each other, with their values. -/
structure RangeMap (α : Type) where
  /-- The first and the last code point of each range, and its value. -/
  entries : Array (Nat × Nat × α)

namespace RangeMap

variable {α : Type}

/-- The ranges in ascending order. -/
def ofList (entries : List (Nat × Nat × α)) : RangeMap α :=
  ⟨(entries.mergeSort fun a b => a.1 ≤ b.1).toArray⟩

/-- The value of the range that holds a code point, with how far into the range it lies. -/
def find? (m : RangeMap α) (n : Nat) : Option (Nat × α) := search 0 m.entries.size
where
  /-- Looks from the place `low` on, in front of the place `high`. -/
  search (low high : Nat) : Option (Nat × α) :=
    if low < high then
      match m.entries[(low + high) / 2]? with
      | none => none
      | some (first, last, value) =>
        if n < first then search low ((low + high) / 2)
        else if n ≤ last then some (n - first, value)
        else search ((low + high) / 2 + 1) high
    else none
  termination_by high - low

end RangeMap

end Potfile.Text
