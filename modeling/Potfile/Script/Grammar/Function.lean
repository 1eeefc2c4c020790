import Potfile.Script.Grammar.Pattern

/-! # Functions, objects and classes

* `Grammar.block`: statements in braces.
* `Grammar.signature`: the parameters of a function and its body.
* `Grammar.object`, `Grammar.classRest`: objects and classes, whose members may be
  functions.
-/

namespace Potfile.Script.Grammar

open Parse

/-! ## Functions -/

/-- Statements up to a closing brace, which may be missing at the end of the script. The first of
    them may ask for the strict rules if `directs`. -/
def statements (r : Rules) (directs : Bool) : Parse (List Tree) := do
  let isStrict := directs && (← current).isStrictDirective
  let items ← strictIf isStrict <| collect do
    if (← at? "\x7d") || (← atEnd) then return none
    return some [← r.statement true]
  let _ ← eat "\x7d"
  return items

def block (r : Rules) (directs : Bool) : Parse (List Tree) := do
  expect "\x7b"
  statements r directs

/-- The parameters of a function, in parentheses. -/
def parameters (r : Rules) : Parse (List Tree) := do
  expect "("
  listUntil ")" do
    if ← eat "..." then restElement r else element r

/-- The parameters of a function and the statements of its body. -/
def signature (r : Rules) (isAsync isGenerator : Bool) : Parse (List Tree) :=
  inFunction isAsync isGenerator do
    return (← parameters r) ++ (← block r true)

/-- A function behind the word `function`. Only in an expression may the name be missing. -/
def functionRest (r : Rules) (isAsync needsName : Bool) : Parse Tree := do
  let isGenerator ← eat "*"
  if needsName || (← current).isWord then
    let _ ← bindingName
  return .compound .function (← withSuper false (signature r isAsync isGenerator))

/-- The body of an arrow function: statements in braces, or an expression. -/
def arrowBody (r : Rules) (isAsync : Bool) : Parse (List Tree) := do
  if ← at? "\x7b" then inFunction isAsync false (block r true)
  else
    let body ← withReader (fun c => { c with isAsync, isGenerator := false }) r.assignment
    return [body]

/-! ## Objects -/

def method (r : Rules) (key : PropertyKey) (isAsync isGenerator : Bool) : Parse Tree := do
  return .compound .method
    (key.parts ++ (← withSuper true (signature r isAsync isGenerator)))

def property (r : Rules) : Parse Tree := do
  if ← eat "..." then return .compound .spread [← allowIn r.assignment]
  if ← eat "*" then return ← method r (← propertyKey r false) false true
  let key ← propertyKey r false
  if ← eat ":" then return .compound .property (key.parts ++ [← allowIn r.assignment])
  if ← at? "(" then return ← method r key false false
  match key.word? with
  | none => refuse
  | some w =>
    if ← eat "=" then return .compound .defaulted [.name w, ← allowIn r.assignment]
    if ← atAny [",", "\x7d"] then return .compound .shorthand [.name w]
    if w == "async" then
      let isGenerator ← eat "*"
      method r (← propertyKey r false) true isGenerator
    else if w == "get" || w == "set" then method r (← propertyKey r false) false false
    else refuse

def object (r : Rules) : Parse Tree := do
  expect "\x7b"
  return .compound .object (← listUntil "\x7d" (property r))

/-! ## Classes -/

/-- The token ends a name of a property without a method. The end of a line does so too, unless
    the name might be the beginning of something else. -/
def atPropertyEnd (lineEnds : Bool) : Parse Bool := do
  if ← atAny ["=", ";", "\x7d"] then return true
  if lineEnds then atStatementEnd else return false

/-- The value of a property of a class, behind its name. -/
def field (r : Rules) (key : PropertyKey) : Parse Tree := do
  let value ← if ← eat "=" then
      let value ← withSuper true <| inFunction false false r.assignment
      pure [value]
    else pure []
  let _ ← eatStatementEnd
  return .compound .property (key.parts ++ value)

/-- A member of a class, behind the word `static`. -/
def member (r : Rules) : Parse Tree := do
  if ← eat "*" then return ← method r (← propertyKey r true) false true
  let key ← propertyKey r true
  if ← at? "(" then return ← method r key false false
  let isNextLine := (← lineEnded) && (← at? "*")
  let isAccessor := (key.word? == some "get" || key.word? == some "set")
    && !(← atPropertyEnd false) && !isNextLine
  if !isAccessor && (← atPropertyEnd true) then return ← field r key
  if key.word? == some "async" then
    let isGenerator ← eat "*"
    method r (← propertyKey r true) true isGenerator
  else if isAccessor then method r (← propertyKey r true) false false
  else refuse

/-- A member of a class, or nothing but a semicolon. -/
def memberOrNone (r : Rules) : Parse (List Tree) := do
  if ← eat ";" then return []
  if ← eatWord "static" then
    if ← at? "(" then return [← method r {} false false]
    if ← atPropertyEnd false then return [← field r {}]
    if ← at? "\x7b" then
      return [.compound .block (← withSuper true <| inFunction false false (block r false))]
  return [← member r]

/-- A class behind the word `class`. Only in an expression may the name be missing. Classes follow
    the strict rules. -/
def classRest (r : Rules) (needsName : Bool) : Parse Tree := strictIf true do
  let isNamed ← match ← current with
    | .word w => pure !(reserved.contains w)
    | _ => pure false
  if needsName || isNamed then
    let _ ← bindingName
  let parents ← if ← eatWord "extends" then
      let parent ← r.leftHandSide
      pure [parent]
    else pure []
  expect "\x7b"
  let members ← collect do
    if (← at? "\x7d") || (← atEnd) then return none
    return some (← memberOrNone r)
  expect "\x7d"
  return .compound .classDefinition (members ++ parents)

end Potfile.Script.Grammar
