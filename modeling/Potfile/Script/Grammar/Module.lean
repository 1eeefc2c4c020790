import Potfile.Script.Grammar.Statement

/-! # Imports and exports

* `Grammar.item`: a statement of a whole script, or an import or export.
-/

namespace Potfile.Script.Grammar

open Parse

def stringLiteral : Parse Unit := do
  match ← current with
  | .string .. => advance
  | _ => refuse

/-- The attributes of an imported module, and the end of the statement, which may be missing. -/
def attributes (r : Rules) : Parse (List Tree) := do
  let isGiven := !(← lineEnded) && ((← atWord "with") || (← atWord "assert"))
  let found ← if isGiven then do
      advance
      let o ← object r
      pure [o]
    else pure []
  let _ ← eatStatementEnd
  return found

/-- The module that something comes from. -/
def fromClause (r : Rules) : Parse (List Tree) := do
  expectWord "from"
  stringLiteral
  attributes r

/-- What is imported or exported under a name: a word or a string. -/
def exportedName : Parse Unit := do
  match ← current with
  | .word _ | .string .. => advance
  | _ => refuse

/-- One of the names in braces, which may be changed to another one. -/
def specifier : Parse Tree := do
  exportedName
  if ← eatWord "as" then exportedName
  return .compound .emptyStatement []

/-- The name of everything that a module exports by default. A word in front of it may ask for a
    phase of the import. -/
def defaultImport : Parse Unit := do
  let w ← anyWord
  if w == "source" || w == "defer" then
    let next ← peek
    match ← current with
    | .word x => if x != "from" || next.token == .word "from" then advance
    | _ => pure ()
  if !(← atWord "from") && !(← at? "*") then expect ","

def importing (r : Rules) : Parse Tree := do
  match ← current with
  | .string .. =>
    advance
    return .compound .importing (← attributes r)
  | token =>
    match token with
    | .word w => if !(isReserved (← read) w) then defaultImport
    | _ => pure ()
    if ← eat "*" then
      expectWord "as"
      let _ ← bindingName
    else if ← eat "\x7b" then
      let _ ← listUntil "\x7d" specifier
    return .compound .importing (← fromClause r)

def defaultExport (r : Rules) : Parse Tree := do
  let next ← peek
  if ← eatWord "class" then classRest r false
  else if ← eatWord "function" then functionRest r false false
  else if (← atWord "async") && next.token == .word "function" && !next.lineEnded then
    advance
    advance
    functionRest r true false
  else
    let e ← allowIn r.assignment
    expectStatementEnd
    return e

def exportedDeclaration? (r : Rules) : Parse (Option Tree) := do
  let next ← peek
  if ← eatWord "class" then return some (← classRest r true)
  if ← eatWord "function" then return some (← functionRest r false true)
  if (← atWord "async") && next.token == .word "function" && !next.lineEnded then
    advance
    advance
    return some (← functionRest r true true)
  if (← atWord "var") || (← atWord "const") || ((← atWord "let") && followsLet next.token) then
    return some (← variableList r false)
  return none

def exporting (r : Rules) : Parse Tree := do
  if ← eat "*" then
    if ← eatWord "as" then exportedName
    return .compound .exporting (← fromClause r)
  if ← eatWord "default" then return .compound .exporting [← defaultExport r]
  match ← exportedDeclaration? r with
  | some d => return .compound .exporting [d]
  | none =>
    expect "\x7b"
    let _ ← listUntil "\x7d" specifier
    if ← atWord "from" then return .compound .exporting (← fromClause r)
    let _ ← eatStatementEnd
    return .compound .exporting []

/-- A statement of a whole script, or an import or export. -/
def item (r : Rules) : Parse Tree := do
  if ← atWord "import" then
    let next ← peek
    if next.token == .mark "(" || next.token == .mark "." then importExpression r
    else
      advance
      importing r
  else if ← eatWord "export" then exporting r
  else r.statement true

def items (r : Rules) : Parse (List Tree) := do
  let isStrict := (← current).isStrictDirective
  strictIf isStrict <| collect do
    if ← atEnd then return none
    return some [← item r]

end Potfile.Script.Grammar
