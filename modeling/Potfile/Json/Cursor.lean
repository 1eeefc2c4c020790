/-! # A place in a text of bytes

Errors in a configuration name the line and the column where they were noticed. A cursor
holds the bytes that are left, and the place that has been reached.

* `Place`: a line, and the number of bytes in front of the cursor on that line.
* `Cursor.nextPlace`: the place behind the next byte.
-/

namespace Potfile.Json

/-- A line, and a number of bytes on it. -/
structure Place where
  line : Nat
  column : Nat
deriving DecidableEq, Repr, Inhabited

/-- The place behind one more byte: a line feed ends its line. -/
def Place.after (p : Place) (b : UInt8) : Place :=
  if b.toNat = 0x0A then ⟨p.line + 1, 0⟩ else ⟨p.line, p.column + 1⟩

/-- The bytes that are left, and the place reached. -/
structure Cursor where
  rest : List UInt8
  place : Place
deriving Repr, Inhabited

namespace Cursor

def start (text : String) : Cursor := ⟨text.toUTF8.toList, ⟨1, 0⟩⟩

/-- The next byte, as the character of that code; nothing in the syntax lies beyond ASCII. -/
def peek? (c : Cursor) : Option Char := c.rest.head?.map fun b => Char.ofNat b.toNat

/-- The cursor behind the next byte; at the end, where it is. -/
def advance (c : Cursor) : Cursor :=
  match c.rest with
  | [] => c
  | b :: rest => ⟨rest, c.place.after b⟩

/-- The cursor behind the next `n` bytes. -/
def advanceBy (c : Cursor) : Nat → Cursor
  | 0 => c
  | n + 1 => c.advance.advanceBy n

def nextPlace (c : Cursor) : Place := c.advance.place

def size (c : Cursor) : Nat := c.rest.length

/-- The cursor behind the blanks that the syntax allows between its parts. -/
def skipBlanks (c : Cursor) : Cursor := go c.rest c.place
where
  go : List UInt8 → Place → Cursor
    | [], p => ⟨[], p⟩
    | b :: rest, p =>
      if b.toNat = 0x20 ∨ b.toNat = 0x09 ∨ b.toNat = 0x0A ∨ b.toNat = 0x0D then
        go rest (p.after b)
      else ⟨b :: rest, p⟩

/-- The cursor behind the decimal digits that come next, and their value in front of which
    `value` already stood. -/
def skipDigits (c : Cursor) (value : Nat) : Nat × Cursor := go c.rest c.place value
where
  go : List UInt8 → Place → Nat → Nat × Cursor
    | [], p, v => (v, ⟨[], p⟩)
    | b :: rest, p, v =>
      if 0x30 ≤ b.toNat ∧ b.toNat ≤ 0x39 then go rest (p.after b) (10 * v + (b.toNat - 0x30))
      else (v, ⟨b :: rest, p⟩)

end Cursor

end Potfile.Json
