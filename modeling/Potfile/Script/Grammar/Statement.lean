import Potfile.Script.Grammar.Expression

/-! # Statements

* `Grammar.statement`: a statement or a declaration.
* `Grammar.variableList`: declarations of variables.
-/

namespace Potfile.Script.Grammar

open Parse

/-- An expression where the word `in` is an operator. -/
def anyExpression (r : Rules) : Parse Tree := allowIn r.expression

/-- An expression in parentheses that belong to a statement. -/
def condition (r : Rules) : Parse Tree := do
  expect "("
  let e ← anyExpression r
  expect ")"
  return e

/-! ## Declarations -/

/-- The word `let` begins a declaration in front of the token. -/
def followsLet : Token → Bool
  | .mark m => m == "\x7b" || m == "["
  | .word w => !(reserved.contains w)
  | _ => false

/-- A variable with its value. A pattern needs a value, except at the head of a loop that gives
    it one. -/
def declarator (r : Rules) (isHead mayLackValue : Bool) : Parse (List Tree) := do
  let p ← r.pattern
  if isHead && ((← atWord "in") || (← atWord "of")) then return [p]
  if ← eat "=" then
    return [p, ← withReader (fun c => { c with acceptsIn := !isHead }) r.assignment]
  match p with
  | .name _ => return [p]
  | _ => if mayLackValue then return [p] else refuse

/-- Variables with commas between them. A comma at the end of the statement is passed over. -/
def declarators (r : Rules) (isHead mayLackValue : Bool) : Parse Tree := do
  let first ← declarator r isHead mayLackValue
  let more ← collect do
    if ← eat "," then
      if ← at? ";" then return none
      return some (← declarator r isHead mayLackValue)
    else return none
  return .compound .declaration (first ++ more)

/-- Passes over everything up to the end of the statement. -/
def passOver : Parse Unit := do
  let _ ← repeatStep (fun () => do
    if ← eatStatementEnd then return none
    advance
    if (← current) == .invalid then return none
    return some ()) ()

/-- Declarations of variables, at whose first word the place is. What follows them on the same
    line is passed over. -/
def variableList (r : Rules) (isHead : Bool) : Parse Tree := do
  let isConstant ← atWord "const"
  advance
  let mayLackValue := isConstant && (← read).isStrict
  let d ← if ← at? ";" then pure (.compound .declaration [])
    else declarators r isHead mayLackValue
  if isHead then return d
  if !(← eatStatementEnd) then
    let _ ← try r.expression catch _ => pure .invalid
    passOver
  return d

def atUsing : Parse Bool := do
  if !(← atWord "using") then return false
  let next ← peek
  match next.token with
  | .word w => return !next.lineEnded && !isReserved (← read) w
  | _ => return false

/-- Declarations of variables that are disposed of, at whose word `using` the place is. The end of
    the statement is left alone. -/
def disposables (r : Rules) : Parse Tree := do
  advance
  declarators r false true

/-! ## Loops -/

/-- The head of a loop behind its first part: a condition and a step. -/
def countingHead (r : Rules) (first : List Tree) : Parse (List Tree) := do
  let test ← if ← eat ";" then pure [] else do
    let e ← anyExpression r
    expect ";"
    pure [e]
  let update ← if ← at? ")" then pure [] else do
    let e ← anyExpression r
    pure [e]
  return first ++ test ++ update

def source (r : Rules) : Parse Tree := do
  if ← eatWord "of" then allowIn r.assignment
  else
    expectWord "in"
    anyExpression r

/-- The head of a loop, in its parentheses. Gives also whether it goes through the values of
    something. -/
def loopHead (r : Rules) : Parse (List Tree × Bool) := do
  let next ← peek
  let isDeclaration := (← atWord "var") || (← atWord "const")
    || ((← atWord "let") && followsLet next.token)
  if isDeclaration then
    let d ← variableList r true
    let isOf ← atWord "of"
    if isOf || (← atWord "in") then return ([d, ← source r], isOf)
    expect ";"
    return (← countingHead r [d], false)
  else if (← atUsing) && next.token != .word "of" then
    let d ← disposables r
    let isOf ← atWord "of"
    if isOf || (← atWord "in") then return ([d, ← source r], isOf)
    expect ";"
    return (← countingHead r [d], false)
  else if ← eat ";" then return (← countingHead r [], false)
  else
    let e ← withReader (fun c => { c with acceptsIn := false }) r.expression
    let isOf ← atWord "of"
    if isOf || (← atWord "in") then
      let target? := if e.isA .array || e.isA .object then e.asTarget? else some e
      match target? with
      | none => refuse
      | some target => return ([target, ← source r], isOf)
    expect ";"
    return (← countingHead r [e], false)

def forLoop (r : Rules) : Parse Tree := do
  let isAsync ← eatWord "await"
  expect "("
  let (head, isOf) ← loopHead r
  if isAsync && !isOf then refuse
  expect ")"
  return .compound .loop (head ++ [← r.statement false])

def doLoop (r : Rules) : Parse Tree := do
  let body ← r.statement false
  expectWord "while"
  let test ← condition r
  let _ ← eatStatementEnd
  return .compound .loop [test, body]

/-! ## Choices and handlers -/

def branch (r : Rules) : Parse Tree := do
  let test ← condition r
  let yes ← r.statement false
  if ← eatWord "else" then return .compound .branch [test, yes, ← r.statement false]
  else return .compound .branch [test, yes]

/-- A case of a selection: its value and its statements. -/
def selectionCase (r : Rules) : Parse (Option (List Tree)) := do
  let value ← if ← eatWord "case" then do
      let e ← anyExpression r
      pure [e]
    else if ← eatWord "default" then pure []
    else return none
  expect ":"
  let items ← collect do
    if (← at? "\x7d") || (← atEnd) || (← atWord "case") || (← atWord "default") then return none
    return some [← r.statement true]
  return some (value ++ items)

def selection (r : Rules) : Parse Tree := do
  let e ← condition r
  expect "\x7b"
  let cases ← collect (selectionCase r)
  expect "\x7d"
  return .compound .selection (e :: cases)

/-- The parts of a handler that begin at the word `catch`, if it is there. -/
def catchClause (r : Rules) : Parse (List Tree) := do
  if ← eatWord "catch" then
    let parameter ← if ← eat "(" then do
        let p ← r.pattern
        expect ")"
        pure [p]
      else pure []
    return parameter ++ (← block r false)
  else return []

def finallyClause (r : Rules) : Parse (List Tree) := do
  if ← eatWord "finally" then block r false else return []

def handler (r : Rules) : Parse Tree := do
  let body ← block r false
  let caught ← catchClause r
  return .compound .handler (body ++ caught ++ (← finallyClause r))

/-- The parts of a handler without its beginning are passed over. -/
def strayHandler (r : Rules) : Parse Tree := do
  let _ ← try catchClause r catch _ => pure []
  let _ ← try finallyClause r catch _ => pure []
  return .compound .expressionStatement [.invalid]

/-! ## Jumps -/

def jump : Parse Tree := do
  if !(← eatStatementEnd) then
    let _ ← anyWord
    expectStatementEnd
  return .compound .jump []

/-- The end of a function with its value. -/
def returning (r : Rules) : Parse Tree := do
  let value ← if ← atStatementEnd then pure [] else do
    let e ← anyExpression r
    pure [e]
  expectStatementEnd
  return .compound .jump value

/-- An error that is raised. Its value begins on the same line. -/
def throwing (r : Rules) : Parse Tree := do
  if ← lineEnded then refuse
  let e ← anyExpression r
  expectStatementEnd
  return .compound .jump [e]

/-! ## Statements -/

/-- A statement that is an expression, or that has a label. -/
def expressionOrLabelled (r : Rules) : Parse Tree := do
  let e ← anyExpression r
  let isLabel ← match e with
    | .name _ => eat ":"
    | _ => pure false
  if isLabel then return .compound .labelled [← r.statement false]
  expectStatementEnd
  return .compound .expressionStatement [e]

/-- A statement that begins with a word that only statements begin with. -/
def keywordStatement? (r : Rules) (w : String) : Option (Parse Tree) :=
  match w with
  | "break" | "continue" => some (do advance; jump)
  | "debugger" => some do
    advance
    expectStatementEnd
    return .compound .emptyStatement []
  | "do" => some (do advance; doLoop r)
  | "for" => some (do advance; forLoop r)
  | "function" => some (do advance; functionRest r false true)
  | "class" => some (do advance; classRest r true)
  | "if" => some (do advance; branch r)
  | "return" => some (do advance; returning r)
  | "switch" => some (do advance; selection r)
  | "throw" => some (do advance; throwing r)
  | "catch" | "finally" => some (strayHandler r)
  | "try" => some (do advance; handler r)
  | "with" => some do
    advance
    let e ← condition r
    return .compound .block [e, ← r.statement false]
  | "while" => some do
    advance
    let e ← condition r
    return .compound .loop [e, ← r.statement false]
  | "var" => some (variableList r false)
  | _ => none

/-- A declaration that begins with a word that may have other meanings; `none` if it has. -/
def wordDeclaration? (r : Rules) (w : String) (next : Place) : Parse (Option Tree) := do
  match w with
  | "const" => return some (← variableList r false)
  | "let" => if followsLet next.token then return some (← variableList r false) else return none
  | "using" => if ← atUsing then return some (← disposables r) else return none
  | "await" =>
    if next.token == .word "using" then
      let place ← get
      advance
      if ← atUsing then return some (← disposables r)
      set place
    return none
  | _ => return none

/-- An expression that begins with the word `import`, as a statement. -/
def importExpression (r : Rules) : Parse Tree := do
  let e ← r.expression
  let _ ← eatStatementEnd
  return .compound .expressionStatement [e]

/-- A statement, or a declaration where one may stand. -/
def statement (r : Rules) (declares : Bool) : Parse Tree := do
  match ← current with
  | .mark "\x7b" => return .compound .block (← block r false)
  | .mark ";" => do advance; return .compound .emptyStatement []
  | .word w =>
    match keywordStatement? r w with
    | some p => p
    | none =>
      let next ← peek
      if w == "import" then
        if next.token == .mark "(" || next.token == .mark "." then importExpression r else refuse
      else if w == "export" then refuse
      else if w == "async" && next.token == .word "function" && !next.lineEnded then
        advance
        advance
        functionRest r true true
      else
        let declared ← if declares then wordDeclaration? r w next else pure none
        match declared with
        | some d => return d
        | none => expressionOrLabelled r
  | _ => expressionOrLabelled r

end Potfile.Script.Grammar
