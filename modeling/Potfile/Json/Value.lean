import Potfile.Json.Number
import Potfile.Json.Text
import Potfile.Text.Literal

/-! # Values of a JSON text

* `expectText`, `expectList`, `expectObject`: a value of a given type. Any other value is an
  error that names both types.
* `skipValue`: checks the form of a value that is not needed.
-/

namespace Potfile.Json

/-- The letters of a word that has begun. -/
def skipWord : List Char → Cursor → Except Error Cursor
  | [], c => .ok c
  | ch :: rest, c =>
    if c.rest.isEmpty then failAt c .endInValue
    else if c.peek? == some ch then skipWord rest c.advance
    else failAt c.advance .expectedWord

/-! ## Values of a wrong type -/

/-- Fails because a value of another type stands here. A list or an object is not read for
    this; of any other value the error stands behind it. -/
def failType (expected : String) (c : Cursor) : Except Error α := do
  let wrong (found : String) (behind : Cursor) : Except Error α :=
    failAt behind (.invalidType found expected)
  match c.peek? with
  | some 'n' => wrong "null" (← skipWord "ull".toList c.advance)
  | some 't' => wrong "boolean \x60true\x60" (← skipWord "rue".toList c.advance)
  | some 'f' => wrong "boolean \x60false\x60" (← skipWord "alse".toList c.advance)
  | some '-' =>
    let (n, behind) ← readNumber true c.advance
    wrong n.describe behind
  | some '"' =>
    let (s, behind) ← readText c.advance
    wrong ("string " ++ Text.literal s) behind
  | some '[' => wrong "sequence" c
  | some '\x7b' => wrong "map" c
  | some ch =>
    if ch.isDigit then
      let (n, behind) ← readNumber false c
      wrong n.describe behind
    else failNext c .expectedValue
  | none => failNext c .expectedValue

/-- Skips blanks and fails if nothing follows; else gives the next character. -/
def expectValue (c : Cursor) : Except Error (Char × Cursor) :=
  let c := c.skipBlanks
  match c.peek? with
  | some ch => .ok (ch, c)
  | none => failNext c .endInValue

def expectText : Reader String := fun c => do
  let (ch, c) ← expectValue c
  if ch = '"' then readText c.advance else failType "a string" c

/-! ## Lists -/

/-- What stands in front of the next element of a list: nothing, if the list ends. -/
def nextElement (isFirst : Bool) (c : Cursor) : Except Error (Bool × Cursor) :=
  let c := c.skipBlanks
  match c.peek? with
  | none => failNext c .endInList
  | some ']' => .ok (false, c)
  | some ch =>
    if isFirst then .ok (true, c)
    else if ch = ',' then
      let c := c.advance.skipBlanks
      match c.peek? with
      | none => failNext c .endInValue
      | some ']' => failNext c .trailingComma
      | some _ => .ok (true, c)
    else failNext c .expectedListEnd

def endList (c : Cursor) : Except Error Cursor :=
  let c := c.skipBlanks
  match c.peek? with
  | none => failNext c .endInList
  | some ']' => .ok c.advance
  | some ',' =>
    let c := c.advance.skipBlanks
    failNext c (if c.peek? == some ']' then .trailingComma else .trailingCharacters)
  | some _ => failNext c .trailingCharacters

/-- The elements of a list, from behind its bracket on. -/
def readElements (element : Reader α) (isFirst : Bool) : (fuel : Nat) → Reader (List α)
  | 0, c => .ok ([], c)
  | fuel + 1, c => do
    let (more, c) ← nextElement isFirst c
    if more then
      let (x, c) ← element c
      let (xs, c) ← readElements element false fuel c
      return (x :: xs, c)
    else return ([], c)

/-- A list of elements of one type. -/
def expectList (element : Reader α) : Reader (List α) := fun c => do
  let (ch, c) ← expectValue c
  if ch = '[' then
    let (xs, c) ← readElements element true (c.size + 1) c.advance
    return (xs, ← endList c)
  else failType "a sequence" c

/-! ## Objects -/

/-- What stands in front of the next key of an object: nothing, if the object ends. -/
def nextKey (isFirst : Bool) (c : Cursor) : Except Error (Bool × Cursor) :=
  let c := c.skipBlanks
  match c.peek? with
  | none => failNext c .endInObject
  | some '\x7d' => .ok (false, c)
  | some ch =>
    if isFirst then
      if ch = '"' then .ok (true, c) else failNext c .keyNotString
    else if ch = ',' then
      let c := c.advance.skipBlanks
      match c.peek? with
      | none => failNext c .endInValue
      | some '"' => .ok (true, c)
      | some '\x7d' => failNext c .trailingComma
      | some _ => failNext c .keyNotString
    else failNext c .expectedObjectEnd

def colon (c : Cursor) : Except Error Cursor :=
  let c := c.skipBlanks
  match c.peek? with
  | none => failNext c .endInObject
  | some ':' => .ok c.advance
  | some _ => failNext c .expectedColon

def endObject (c : Cursor) : Except Error Cursor :=
  let c := c.skipBlanks
  match c.peek? with
  | none => failNext c .endInObject
  | some '\x7d' => .ok c.advance
  | some ',' => failNext c .trailingComma
  | some _ => failNext c .trailingCharacters

/-- The keys and values of an object, from behind its brace on. A state is carried along:
    `member` is given a key and reads the value of it. -/
def readMembers (member : String → σ → Reader σ) (isFirst : Bool) :
    (fuel : Nat) → σ → Reader σ
  | 0, s, c => .ok (s, c)
  | fuel + 1, s, c => do
    let (more, c) ← nextKey isFirst c
    if more then
      let (key, c) ← readText c.advance
      let (s, c) ← member key s c
      readMembers member false fuel s c
    else return (s, c)

/-- An object whose members are folded into a state. -/
def expectObject (expected : String) (member : String → σ → Reader σ) (s : σ) : Reader σ :=
  fun c => do
    let (ch, c) ← expectValue c
    if ch = '\x7b' then
      let (s, c) ← readMembers member true (c.size + 1) s c.advance
      return (s, ← endObject c)
    else failType expected c

/-! ## Values that are skipped -/

/-- What encloses the value that is skipped. -/
inductive Enclosure where
  | list
  | object
deriving DecidableEq, Repr

/-- How far the skipping of a value has come: what is still open, the innermost first, and
    whether a value has just ended, so that a comma or an end may follow. -/
structure Skipping where
  around : List Enclosure
  ended : Bool
  cursor : Cursor

/-- Skips a value; of a list or an object only the bracket. -/
def skipOne (around : List Enclosure) (c : Cursor) : Except Error Skipping := do
  let (ch, c) ← expectValue c
  match ch with
  | 'n' => return ⟨around, true, ← skipWord "ull".toList c.advance⟩
  | 't' => return ⟨around, true, ← skipWord "rue".toList c.advance⟩
  | 'f' => return ⟨around, true, ← skipWord "alse".toList c.advance⟩
  | '-' => return ⟨around, true, ← skipNumber c.advance⟩
  | '"' => return ⟨around, true, ← skipText c.advance⟩
  | '[' => return ⟨.list :: around, false, c.advance⟩
  | '\x7b' => return ⟨.object :: around, false, c.advance⟩
  | ch =>
    if ch.isDigit then return ⟨around, true, ← skipNumber c⟩ else failNext c .expectedValue

/-- Skips a key, its colon and the value behind it. -/
def skipMember (around : List Enclosure) (c : Cursor) : Except Error Skipping := do
  let c := c.skipBlanks
  match c.peek? with
  | none => failNext c .endInObject
  | some '"' => skipOne around (← colon (← skipText c.advance))
  | some _ => failNext c .keyNotString

/-- Skips the next part inside the innermost enclosure: an element or a member with the comma
    in front of it, or the end. -/
def skipNext (inner : Enclosure) (outer : List Enclosure) (ended : Bool) (c : Cursor) :
    Except Error Skipping :=
  let c := c.skipBlanks
  match inner, c.peek? with
  | .list, none => failNext c .endInList
  | .object, none => failNext c .endInObject
  | .list, some ']' => .ok ⟨outer, true, c.advance⟩
  | .object, some '\x7d' => .ok ⟨outer, true, c.advance⟩
  | .list, some ch =>
    if !ended then skipOne (.list :: outer) c
    else if ch = ',' then skipOne (.list :: outer) c.advance
    else failNext c .expectedListEnd
  | .object, some ch =>
    if !ended then skipMember (.object :: outer) c
    else if ch = ',' then skipMember (.object :: outer) c.advance
    else failNext c .expectedObjectEnd

/-- Skips until nothing is open any more. Every step takes a byte at least. -/
def skipRest : (fuel : Nat) → Skipping → Except Error Cursor
  | 0, s => .ok s.cursor
  | fuel + 1, s =>
    match s.around with
    | [] => .ok s.cursor
    | inner :: outer => do skipRest fuel (← skipNext inner outer s.ended s.cursor)

/-- The cursor behind a value of any type. -/
def skipValue (c : Cursor) : Except Error Cursor := do
  skipRest (c.size + 1) (← skipOne [] c)

/-- A whole text that is one value. -/
def readAll (value : Reader α) (text : String) : Except Error α := do
  let (x, c) ← value (Cursor.start text)
  let c := c.skipBlanks
  if c.rest.isEmpty then return x else failNext c .trailingCharacters

end Potfile.Json
