import Potfile.Script.Token.Reader
import Potfile.Script.Tree

/-! # The state of reading a script

* `Place`: the token that is looked at, and the texts around it.
* `Context`: what the constructs around a place allow in it.
* `Parse`: steps of reading. A step that fails leaves the place where it was noticed, so that
  reading can go on from there.
-/

namespace Potfile.Script

structure Place where
  /-- The token that is looked at. -/
  token : Token
  /-- A line ended in front of the token. -/
  lineEnded : Bool
  here : List Char
  rest : List Char
deriving Inhabited

/-- The place of the next token of a text. -/
def Place.next (lineEnded : Bool) (cs : List Char) : Place :=
  let (lineEnded, here) := skip .blanks lineEnded cs
  let (token, rest) := Token.next here
  { token, lineEnded, here, rest }

/-- What the constructs around a place allow in it. -/
structure Context where
  /-- The length of the script, which bounds the length of every list in it. -/
  limit : Nat
  isStrict : Bool := false
  isAsync : Bool := false
  isGenerator : Bool := false
  /-- Properties of the superclass can be named. -/
  allowsSuper : Bool := false
  /-- The word `in` is an operator. -/
  acceptsIn : Bool := true

abbrev Parse := ReaderT Context (EStateM Unit Place)

namespace Parse

/-! ## Tokens -/

def refuse : Parse α := throw ()

def current : Parse Token := return (← get).token

def at? (m : String) : Parse Bool := return (← get).token == .mark m

def atAny (ms : List String) : Parse Bool := do
  match (← get).token with
  | .mark m => return ms.contains m
  | _ => return false

def atWord (w : String) : Parse Bool := return (← get).token == .word w

def atEnd : Parse Bool := return (← get).token == .endOfFile

def lineEnded : Parse Bool := return (← get).lineEnded

/-- Goes on to the first token of a text. -/
def restart (cs : List Char) : Parse Unit := set (Place.next false cs)

def advance : Parse Unit := do restart (← get).rest

/-- The place behind the token that is looked at. -/
def peek : Parse Place := return Place.next false (← get).rest

/-- Takes the given mark, if it is there. -/
def eat (m : String) : Parse Bool := do
  if ← at? m then
    advance
    return true
  else return false

def eatWord (w : String) : Parse Bool := do
  if ← atWord w then
    advance
    return true
  else return false

def expect (m : String) : Parse Unit := do
  if !(← eat m) then refuse

def expectWord (w : String) : Parse Unit := do
  if !(← eatWord w) then refuse

/-! ## Ends of statements -/

/-- A statement may end in front of the token. -/
def atStatementEnd : Parse Bool := do
  return (← atAny [";", "\x7d"]) || (← atEnd) || (← lineEnded)

def eatStatementEnd : Parse Bool := do
  if ← eat ";" then return true else atStatementEnd

def expectStatementEnd : Parse Unit := do
  if !(← eatStatementEnd) then refuse

/-! ## Words -/

/-- The word is no name here. -/
def isReserved (c : Context) (w : String) : Bool :=
  reserved.contains w || (c.isStrict && reservedStrictly.contains w) ||
    (c.isAsync && w == "await") || (c.isGenerator && w == "yield")

/-- A name that is being declared. Words that are names elsewhere are let through. -/
def bindingName : Parse Tree := do
  match ← current with
  | .word w =>
    if reserved.contains w then refuse
    advance
    return .name w
  | _ => refuse

def anyWord : Parse String := do
  match ← current with
  | .word w =>
    advance
    return w
  | _ => refuse

/-! ## Lists -/

def loop (step : α → Parse (Option α)) : (rounds : Nat) → α → Parse α
  | 0, a => return a
  | rounds + 1, a => do
    match ← step a with
    | none => return a
    | some a => loop step rounds a

/-- Repeats a step until it gives nothing. Every round takes a character at least. -/
def repeatStep (step : α → Parse (Option α)) (a : α) : Parse α := do
  loop step ((← read).limit + 1) a

/-- Collects what a step gives until it gives nothing. -/
def collect (step : Parse (Option (List Tree))) : Parse (List Tree) := do
  let reversed ← repeatStep (fun found => do
    match ← step with
    | none => return none
    | some more => return some (more.reverse ++ found)) []
  return reversed.reverse

/-- The elements up to a closing mark, with commas between them. -/
def listUntil (closing : String) (element : Parse Tree) : Parse (List Tree) := do
  let elements ← collect do
    if (← at? closing) || (← atEnd) then return none
    let e ← element
    if !(← at? closing) then expect ","
    return some [e]
  expect closing
  return elements

/-! ## Contexts -/

def allowIn (p : Parse α) : Parse α := withReader (fun c => { c with acceptsIn := true }) p

/-- Reads under the strict rules, if asked to. -/
def strictIf (b : Bool) (p : Parse α) : Parse α :=
  withReader (fun c => { c with isStrict := c.isStrict || b }) p

/-- Reads a part of a function of the given kind. -/
def inFunction (isAsync isGenerator : Bool) (p : Parse α) : Parse α :=
  withReader (fun c => { c with isAsync, isGenerator, acceptsIn := true }) p

/-- Reads with or without the properties of the superclass. -/
def withSuper (allowsSuper : Bool) (p : Parse α) : Parse α :=
  withReader (fun c => { c with allowsSuper }) p

end Parse

/-- The rules that are used before they are complete, each for one kind of construct. -/
structure Rules where
  /-- An expression, which may be a sequence. -/
  expression : Parse Tree
  /-- An expression that is no sequence. -/
  assignment : Parse Tree
  /-- An operand with the operators in front of it. -/
  unary : Parse Tree
  /-- The operators behind an operand that bind closer than the given precedence. -/
  operators : (precedence : Nat) → Tree → Parse Tree
  leftHandSide : Parse Tree
  creatable : Parse Tree
  pattern : Parse Tree
  /-- A statement, where declarations may stand or not. -/
  statement : (declares : Bool) → Parse Tree

def Rules.none : Rules where
  expression := Parse.refuse
  assignment := Parse.refuse
  unary := Parse.refuse
  operators _ _ := Parse.refuse
  leftHandSide := Parse.refuse
  creatable := Parse.refuse
  pattern := Parse.refuse
  statement _ := Parse.refuse

end Potfile.Script
