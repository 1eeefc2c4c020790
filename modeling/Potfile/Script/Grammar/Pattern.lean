import Potfile.Script.Grammar.State

/-! # Patterns

* `Tree.asPattern?`: an expression read as the pattern that it is written like.
* `Grammar.pattern`: the pattern of a declaration.
* `Grammar.propertyKey`: the name of a property.
-/

namespace Potfile.Script

/-! ## Expressions as patterns -/

/-- The expression may be an element of a pattern that values are assigned to. Whether it can
    hold a value does not matter for what is in it. -/
def Tree.mayBeElement : Tree → Bool
  | name _ | literal _ | paren _ | call .. => true
  | compound c _ => [Construct.member, .superMember, .creation, .bareCreation, .function,
      .classDefinition, .template].contains c
  | sum .. => false

mutual

/-- An expression as the pattern that it is written like, in a declaration or in an assignment.
    What is no pattern is dropped; `none` if a method stands where a property should. -/
def Tree.asPattern? (isBinding : Bool) : Tree → Option Tree
  | .name n => some (.name n)
  | .compound .assignment parts => some (.compound .assignment parts)
  | .compound .array elements => (asElements? isBinding elements).map (.compound .array ·)
  | .compound .object properties => (asProperties? isBinding properties).map (.compound .object ·)
  | tree => some (if !isBinding && tree.mayBeElement then tree else .invalid)

/-- The elements of an array as patterns. The rest of the elements can only be asked for at the
    end. -/
def Tree.asElements? (isBinding : Bool) : List Tree → Option (List Tree)
  | [] => some []
  | .compound .hole parts :: rest =>
    (asElements? isBinding rest).map (.compound .hole parts :: ·)
  | .compound .spread [e] :: rest =>
    if rest.isEmpty then (Tree.asPattern? isBinding e).map ([.compound .spread [·]])
    else asElements? isBinding rest
  | e :: rest =>
    match Tree.asPattern? isBinding e, asElements? isBinding rest with
    | some p, some ps => some (p :: ps)
    | _, _ => none

/-- The properties of an object as patterns. -/
def Tree.asProperties? (isBinding : Bool) : List Tree → Option (List Tree)
  | [] => some []
  | .compound .property [value] :: rest =>
    match Tree.asPattern? isBinding value, asProperties? isBinding rest with
    | some p, some ps => some (.compound .property [p] :: ps)
    | _, _ => none
  | .compound .property [key, value] :: rest =>
    match Tree.asPattern? isBinding value, asProperties? isBinding rest with
    | some p, some ps => some (.compound .property [key, p] :: ps)
    | _, _ => none
  | .compound .spread [e] :: rest =>
    match Tree.asPattern? isBinding e, asProperties? isBinding rest with
    | some p, some ps =>
      let p := if isBinding && (match e with | .name _ => false | _ => true) then .invalid else p
      some (.compound .spread [p] :: ps)
    | _, _ => none
  | .compound .shorthand parts :: rest =>
    (asProperties? isBinding rest).map (.compound .shorthand parts :: ·)
  | .compound .defaulted parts :: rest =>
    (asProperties? isBinding rest).map (.compound .defaulted parts :: ·)
  | _ :: _ => none

end

/-- The parameters that expressions in parentheses are written like. -/
def asParameters? : List Tree → Option (List Tree)
  | [] => some []
  | .compound .spread [e] :: rest =>
    if rest.isEmpty then (e.asPattern? true).map ([.compound .spread [·]]) else asParameters? rest
  | e :: rest =>
    match e.asPattern? true, asParameters? rest with
    | some p, some ps => some (p :: ps)
    | _, _ => none

/-- The target of a plain assignment; `none` if nothing can be assigned to it. -/
def Tree.asTarget? : Tree → Option Tree
  | .compound .array parts => Tree.asPattern? false (.compound .array parts)
  | .compound .object parts => Tree.asPattern? false (.compound .object parts)
  | .name n => some (.name n)
  | .paren e => some (.paren e)
  | .compound c parts =>
    if [Construct.member, .superMember, .optionalChain, .invalid].contains c then
      some (.compound c parts)
    else none
  | _ => none

namespace Grammar

open Parse

/-! ## Names of properties -/

structure PropertyKey where
  /-- The expression that computes the name, if there is one. -/
  parts : List Tree := []
  /-- The name, if it is a word. -/
  word? : Option String := none

/-- The name of a property; private names are allowed in classes. -/
def propertyKey (r : Rules) (allowsPrivate : Bool) : Parse PropertyKey := do
  match ← current with
  | .word w => advance; return { word? := some w }
  | .string .. | .number _ | .bigint _ => advance; return {}
  | .privateName _ => if allowsPrivate then advance; return {} else refuse
  | .mark "[" =>
    advance
    let e ← allowIn r.assignment
    expect "]"
    return { parts := [e] }
  | _ => refuse

/-! ## Patterns of declarations -/

/-- A pattern with or without a value for the case that there is none. -/
def element (r : Rules) : Parse Tree := do
  let p ← r.pattern
  if ← eat "=" then return .compound .assignment [p, ← allowIn r.assignment] else return p

/-- The pattern for the rest of the elements or parameters, behind its dots. -/
def restElement (r : Rules) : Parse Tree := do return .compound .spread [← element r]

def arrayPattern (r : Rules) : Parse Tree := do
  let elements ← collect do
    if (← at? "]") || (← atEnd) then return none
    if ← eat "," then return some [.compound .hole []]
    let e ← if ← eat "..." then restElement r else element r
    if !(← at? "]") then expect ","
    return some [e]
  expect "]"
  return .compound .array elements

def propertyPattern (r : Rules) : Parse Tree := do
  if ← eat "..." then return .compound .spread [← r.pattern]
  let key ← propertyKey r false
  if ← eat ":" then return .compound .property (key.parts ++ [← element r])
  match key.word? with
  | none => refuse
  | some w =>
    if ← eat "=" then return .compound .defaulted [.name w, ← allowIn r.assignment]
    else return .compound .shorthand [.name w]

def pattern (r : Rules) : Parse Tree := do
  if ← eat "[" then arrayPattern r
  else if ← eat "\x7b" then
    return .compound .object (← listUntil "\x7d" (propertyPattern r))
  else bindingName

end Grammar

end Potfile.Script
