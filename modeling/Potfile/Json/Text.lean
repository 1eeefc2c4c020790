import Potfile.Json.Error
import Potfile.Text.Utf8

/-! # Strings of a JSON text

* `readText`: the value of a string, from behind its opening quote on.
* `skipText`: checks the form of a string that is not needed.
-/

namespace Potfile.Json

def hexDigit? (b : UInt8) : Option Nat :=
  let n := b.toNat
  if 0x30 ≤ n ∧ n ≤ 0x39 then some (n - 0x30)
  else if 0x41 ≤ n ∧ n ≤ 0x46 then some (n - 0x37)
  else if 0x61 ≤ n ∧ n ≤ 0x66 then some (n - 0x57)
  else none

def readHex : Reader Nat := fun c =>
  let four := c.rest.take 4
  let behind := c.advanceBy 4
  if four.length < 4 then failAt behind .endInString
  else match four.mapM hexDigit? with
    | some digits => .ok (digits.foldl (16 * · + ·) 0, behind)
    | none => failAt behind .invalidEscape

/-- The character of an escape letter. -/
def escapeLetter? : Char → Option Char
  | '"' => some '"'
  | '\\' => some '\\'
  | '/' => some '/'
  | 'b' => some '\x08'
  | 'f' => some '\x0c'
  | 'n' => some '\n'
  | 'r' => some '\r'
  | 't' => some '\t'
  | _ => none

/-- The character of an escape in hexadecimal digits. One beyond the basic plane is written
    as two escapes, a leading and a trailing surrogate. -/
def readCodePoint : Reader Char := fun c => do
  let (n, c) ← readHex c
  if 0xDC00 ≤ n ∧ n ≤ 0xDFFF then failAt c .loneSurrogate
  else if n < 0xD800 ∨ 0xDBFF < n then return (Char.ofNat n, c)
  else if c.rest.isEmpty then failAt c .endInString
  else if c.peek? != some '\\' then failAt c.advance .unpairedSurrogate
  else
    let c := c.advance
    if c.rest.isEmpty then failAt c .endInString
    else if c.peek? != some 'u' then failAt c.advance .unpairedSurrogate
    else
      let (n2, c) ← readHex c.advance
      if n2 < 0xDC00 ∨ 0xDFFF < n2 then failAt c .loneSurrogate
      else return (Char.ofNat (0x10000 + (n - 0xD800) * 0x400 + (n2 - 0xDC00)), c)

/-- The value of a string, from behind its opening quote on; `done` holds the bytes read so
    far, the last one first. -/
def readTextFrom (done : List UInt8) : (fuel : Nat) → Reader String
  | 0, c => failAt c .endInString
  | fuel + 1, c =>
    match c.peek? with
    | none => failAt c .endInString
    | some '"' => .ok (String.ofList (Text.Utf8.decode done.reverse), c.advance)
    | some '\\' =>
      let c := c.advance
      match c.peek? with
      | none => failAt c .endInString
      | some 'u' => do
        let (ch, c) ← readCodePoint c.advance
        readTextFrom ((String.utf8EncodeChar ch).reverse ++ done) fuel c
      | some letter =>
        match escapeLetter? letter with
        | some ch => readTextFrom (ch.toNat.toUInt8 :: done) fuel c.advance
        | none => failAt c.advance .invalidEscape
    | some ch =>
      if ch.toNat < 0x20 then failAt c.advance .controlCharacter
      else readTextFrom (ch.toNat.toUInt8 :: done) fuel c.advance

/-- The value of a string, from behind its opening quote on. -/
def readText : Reader String := fun c => readTextFrom [] (c.size + 1) c

/-- The cursor behind a string, from behind its opening quote on. Surrogates need not be in
    pairs here. -/
def skipTextFrom : (fuel : Nat) → Cursor → Except Error Cursor
  | 0, c => failAt c .endInString
  | fuel + 1, c =>
    match c.peek? with
    | none => failAt c .endInString
    | some '"' => .ok c.advance
    | some '\\' =>
      let c := c.advance
      match c.peek? with
      | none => failAt c .endInString
      | some 'u' => do
        let (_, c) ← readHex c.advance
        skipTextFrom fuel c
      | some letter =>
        if (escapeLetter? letter).isSome then skipTextFrom fuel c.advance
        else failAt c.advance .invalidEscape
    | some ch =>
      if ch.toNat < 0x20 then failAt c .controlCharacter else skipTextFrom fuel c.advance

def skipText (c : Cursor) : Except Error Cursor := skipTextFrom (c.size + 1) c

end Potfile.Json
