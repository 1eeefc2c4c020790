import Potfile.Json.Cursor

/-! # Errors in a JSON text

* `Problem`: what is wrong, and `Problem.message`, its wording.
* `Error`: a problem at a place.
-/

namespace Potfile.Json

/-- What is wrong with a JSON text, or with the type of one of its values. -/
inductive Problem where
  | endInList
  | endInObject
  | endInString
  | endInValue
  | expectedColon
  | expectedListEnd
  | expectedObjectEnd
  | expectedWord
  | expectedValue
  | invalidEscape
  | invalidNumber
  | numberOutOfRange
  | controlCharacter
  | keyNotString
  | loneSurrogate
  | unpairedSurrogate
  | trailingComma
  | trailingCharacters
  | invalidType (found expected : String)
  | duplicateField (name : String)
deriving DecidableEq, Repr, Inhabited

def Problem.message : Problem → String
  | endInList => "EOF while parsing a list"
  | endInObject => "EOF while parsing an object"
  | endInString => "EOF while parsing a string"
  | endInValue => "EOF while parsing a value"
  | expectedColon => "expected \x60:\x60"
  | expectedListEnd => "expected \x60,\x60 or \x60]\x60"
  | expectedObjectEnd => "expected \x60,\x60 or \x60\x7d\x60"
  | expectedWord => "expected ident"
  | expectedValue => "expected value"
  | invalidEscape => "invalid escape"
  | invalidNumber => "invalid number"
  | numberOutOfRange => "number out of range"
  | controlCharacter => "control character (\\u0000-\\u001F) found while parsing a string"
  | keyNotString => "key must be a string"
  | loneSurrogate => "lone leading surrogate in hex escape"
  | unpairedSurrogate => "unexpected end of hex escape"
  | trailingComma => "trailing comma"
  | trailingCharacters => "trailing characters"
  | invalidType found expected => "invalid type: " ++ found ++ ", expected " ++ expected
  | duplicateField name => "duplicate field \x60" ++ name ++ "\x60"

structure Error where
  problem : Problem
  place : Place
deriving DecidableEq, Repr, Inhabited

/-- The wording of an error, with its place behind it. -/
def Error.message (e : Error) : String :=
  e.problem.message ++ " at line " ++ toString e.place.line ++ " column " ++
    toString e.place.column

/-- Reading from a cursor: a value and the cursor behind it, or an error. -/
abbrev Reader (α : Type) := Cursor → Except Error (α × Cursor)

/-- Fails where the cursor stands. -/
def failAt (c : Cursor) (p : Problem) : Except Error α := .error ⟨p, c.place⟩

/-- Fails behind the next byte, which is the one that does not fit. -/
def failNext (c : Cursor) (p : Problem) : Except Error α := .error ⟨p, c.nextPlace⟩

end Potfile.Json
