import Potfile.Script.Grammar.Function

/-! # Expressions

* `Grammar.primary`: names, literals and what stands in brackets of any kind.
* `Grammar.creatable`, `Grammar.leftHandSide`: these with the members and arguments behind them.
* `Grammar.unary`, `Grammar.operators`, `Grammar.conditional`: operators.
* `Grammar.assignment`, `Grammar.expression`: whole expressions.

An operand that cannot be read is passed over where an operator stands in front of it or comes
right after it.
-/

namespace Potfile.Script.Grammar

open Parse

/-! ## Lists of expressions -/

/-- An expression, or a spread one behind dots. -/
def argument (r : Rules) : Parse Tree := do
  if ← eat "..." then return .compound .spread [← allowIn r.assignment]
  allowIn r.assignment

def arguments (r : Rules) : Parse (List Tree) := do
  expect "("
  listUntil ")" (argument r)

/-- The elements of an array, behind its opening bracket. -/
def array (r : Rules) : Parse Tree := do
  let elements ← collect do
    if (← at? "]") || (← atEnd) then return none
    if ← eat "," then return some [.compound .hole []]
    let e ← argument r
    if !(← at? "]") then expect ","
    return some [e]
  expect "]"
  return .compound .array elements

/-! ## Templates and regular expressions -/

/-- The text of a template behind the token that is looked at, up to the next expression in it.
    Gives whether there is one. -/
def templateText (isTagged : Bool) : Parse Bool := do
  match readTemplate isTagged (← get).rest with
  | none => refuse
  | some (follows, rest) =>
    restart rest
    return follows

/-- The expressions in a template, at whose opening mark the place is. -/
def template (r : Rules) (isTagged : Bool) : Parse (List Tree) := do
  let follows ← templateText isTagged
  let (_, found) ← repeatStep (fun (follows, found) => do
    if !follows then return none
    let e ← allowIn r.expression
    if !(← at? "\x7d") then refuse
    return some (← templateText isTagged, e :: found)) (follows, [])
  return found.reverse

/-- A regular expression, at whose first slash the place is. One without an end is no token. -/
def regex : Parse Tree := do
  match readRegex ((← get).here.drop 1) with
  | none =>
    modify fun place => { place with token := .invalid }
    refuse
  | some (pattern, flags, rest) =>
    restart rest
    return .literal (.regex pattern flags)

/-! ## Parentheses and arrow functions -/

/-- An arrow function, at whose arrow the place is. -/
def arrow (r : Rules) (isAsync : Bool) (parameters : List Tree) : Parse Tree := do
  advance
  return .compound .arrow (parameters ++ (← arrowBody r isAsync))

/-- What begins with a parenthesis: the parameters of an arrow function, or an expression, or,
    behind the word `async`, the arguments of a call. -/
def parenthesized (r : Rules) (mayBeArrow isAsync : Bool) : Parse Tree := do
  let items ← arguments r
  if ← at? "=>" then
    if (← lineEnded) || !mayBeArrow then refuse
    match asParameters? items with
    | some parameters => arrow r isAsync parameters
    | none => refuse
  else if isAsync then return .call (.name "async") items
  else if items.any (·.isA .spread) then refuse
  else match items with
    | [] => refuse
    | [e] => return .paren e
    | es => return .paren (.compound .sequence es)

/-- The name that a word is, or an arrow function with that name as its parameter. -/
def name (mayBeArrow : Bool) (r : Rules) (w : String) : Parse Tree := do
  if isReserved (← read) w then refuse
  advance
  if mayBeArrow && (← at? "=>") && !(← lineEnded) then arrow r false [.name w]
  else return .name w

def async (r : Rules) (mayBeArrow : Bool) : Parse Tree := do
  let next ← peek
  if next.token == .word "function" && !next.lineEnded then
    advance
    advance
    functionRest r true false
  else if mayBeArrow && next.token == .mark "(" then
    advance
    parenthesized r true true
  else
    let isParameter := match next.token with
      | .word w => !(reserved.contains w)
      | _ => false
    if mayBeArrow && isParameter && !next.lineEnded then
      advance
      let parameter ← bindingName
      if !(← at? "=>") then refuse
      arrow r true [parameter]
    else name mayBeArrow r "async"

/-! ## Primary expressions -/

def literal? : Token → Option Literal
  | .string text _ => some (.string text)
  | .number value => some (.number value)
  | .bigint value => some (.bigint value)
  | .word "null" => some .null
  | .word "true" => some (.boolean true)
  | .word "false" => some (.boolean false)
  | _ => none

/-- A name, a literal, or what stands in brackets of any kind. An arrow function may stand only
    where a whole expression begins. -/
def primary (r : Rules) (mayBeArrow : Bool) : Parse Tree := do
  let token ← current
  match literal? token with
  | some l =>
    advance
    return .literal l
  | none =>
    match token with
    | .mark "(" => parenthesized r mayBeArrow false
    | .mark "[" => do advance; array r
    | .mark "\x7b" => object r
    | .mark "/" | .mark "/=" => regex
    | .mark "\x60" => return .compound .template (← template r false)
    | .privateName _ => do advance; return .compound .privateName []
    | .word "this" => do advance; return .compound .this []
    | .word "function" => do advance; functionRest r false false
    | .word "class" => do advance; classRest r false
    | .word "async" => async r mayBeArrow
    | .word w => name mayBeArrow r w
    | .invalid => do advance; refuse
    | _ => refuse

/-! ## Members and arguments -/

def memberName : Parse Unit := do
  match ← current with
  | .word _ | .privateName _ => advance
  | _ => refuse

/-- A member, a call or a template behind an expression. Calls are left alone if `stopsAtCall`,
    unless they are optional. -/
def subscript (r : Rules) (stopsAtCall : Bool) (e : Tree) : Parse (Option Tree) := do
  let isOptional ← eat "?."
  let construct : Construct := if isOptional then .optionalChain else .member
  if ← eat "[" then
    let key ← allowIn r.expression
    expect "]"
    return some (.compound construct [e, key])
  else if (← at? "(") && (isOptional || !stopsAtCall) then
    let found ← arguments r
    return some (if isOptional then .compound .optionalChain (e :: found) else .call e found)
  else if isOptional then
    memberName
    return some (.compound construct [e])
  else if ← eat "." then
    memberName
    let construct : Construct := if e.isA .optionalChain then .optionalChain else .member
    return some (.compound construct [e])
  else if ← at? "\x60" then return some (.compound .taggedTemplate (e :: (← template r true)))
  else return none

/-- All members, calls and templates behind an expression. -/
def subscripts (r : Rules) (stopsAtCall : Bool) (e : Tree) : Parse Tree :=
  repeatStep (subscript r stopsAtCall) e

/-- What stands behind the word `super`: the arguments for the superclass, or a member of it. -/
def superclass (r : Rules) (stopsAtCall : Bool) : Parse Tree := do
  let e : Tree := .compound .super []
  if ← at? "(" then
    if stopsAtCall then refuse
    subscripts r false (.call e (← arguments r))
  else if !(← read).allowsSuper then refuse
  else if ← eat "[" then
    let key ← allowIn r.expression
    expect "]"
    subscripts r stopsAtCall (.compound .superMember [key])
  else if ← eat "." then
    memberName
    subscripts r stopsAtCall (.compound .superMember [])
  else refuse

/-- What stands behind the word `import` in an expression. -/
def imported (r : Rules) (stopsAtCall : Bool) : Parse Tree := do
  let isMeta ← if ← eat "." then
      match ← anyWord with
      | "meta" => pure true
      | "defer" | "source" => pure false
      | _ => refuse
    else pure false
  if isMeta then subscripts r stopsAtCall (.compound .metaProperty [])
  else if (← at? "(") && !stopsAtCall then
    subscripts r stopsAtCall (.call (.compound .dynamicImport []) (← arguments r))
  else refuse

/-- What can be created: an expression with its members, but without calls. -/
def creatable (r : Rules) (mayBeArrow : Bool) : Parse Tree := do
  if ← eatWord "new" then
    if ← eat "." then
      expectWord "target"
      subscripts r true (.compound .metaProperty [])
    else
      let callee ← r.creatable
      if callee.isA .optionalChain then refuse
      if ← at? "(" then
        subscripts r true (.compound .creation (callee :: (← arguments r)))
      else return .compound .bareCreation [callee]
  else if ← eatWord "super" then superclass r true
  else if ← eatWord "import" then imported r true
  else
    let e ← primary r mayBeArrow
    if e.isA .arrow then return e
    subscripts r true e

/-- What can be assigned to or called: an expression with its members and calls. -/
def leftHandSide (r : Rules) (mayBeArrow : Bool) : Parse Tree := do
  if ← eatWord "super" then superclass r false
  else if ← eatWord "import" then imported r false
  else
    let e ← creatable r mayBeArrow
    if e.isA .arrow || e.isA .bareCreation then return e
    if ← at? "(" then subscripts r false (.call e (← arguments r))
    else return e

/-! ## Operators -/

/-- What the word `await` and its operand are. Outside of a function that waits it may also be a
    name. -/
def awaiting (r : Rules) : Parse Tree := do
  if !(← read).isAsync && ((← atStatementEnd) || (← atAny [")", "]", ","])) then
    return .name "await"
  return .compound .awaiting [← r.unary]

/-- An operand with the operators in front of it and behind it. -/
def unary (r : Rules) (mayBeArrow : Bool) : Parse Tree := do
  let token ← current
  let isOperator := match token with
    | .mark m => ["+", "-", "~", "!"].contains m
    | .word w => ["delete", "void", "typeof"].contains w
    | _ => false
  if isOperator then
    advance
    let operand ← try r.unary catch _ => pure .invalid
    return .compound .unary [operand]
  else if ← atAny ["++", "--"] then
    advance
    return .compound .update [← r.unary]
  else if ← eatWord "await" then awaiting r
  else
    let e ← leftHandSide r mayBeArrow
    if e.isA .arrow then return e
    if !(← lineEnded) && (← atAny ["++", "--"]) then
      advance
      return .compound .update [e]
    else return e

/-- The operators between two operands, by their precedence. -/
def precedences : List (String × Nat) :=
  [("??", 1), ("||", 2), ("&&", 3), ("|", 4), ("^", 5), ("&", 6), ("==", 7), ("!=", 7),
   ("===", 7), ("!==", 7), ("<", 8), ("<=", 8), (">", 8), (">=", 8), ("in", 8),
   ("instanceof", 8), ("<<", 9), (">>", 9), (">>>", 9), ("+", 10), ("-", 10), ("*", 11),
   ("/", 11), ("%", 11), ("**", 12)]

/-- The operator between two operands that is looked at, and its precedence. -/
def operator? : Parse (Option (String × Nat)) := do
  match ← current with
  | .mark m => return (precedences.lookup m).map (m, ·)
  | .word "in" => return if (← read).acceptsIn then some ("in", 8) else none
  | .word "instanceof" => return some ("instanceof", 8)
  | _ => return none

/-- An operator that binds closer than the given precedence, and its second operand. Powers are
    grouped from the right, all else from the left. The first operand of a power has no operator
    in front of it. -/
def operation (r : Rules) (precedence : Nat) (left : Tree) : Parse (Option Tree) := do
  match ← operator? with
  | none => return none
  | some (m, p) =>
    if p ≤ precedence then return none
    if m == "**" && (left.isA .unary || left.isA .awaiting) then refuse
    advance
    let operand ← r.unary
    let right ← r.operators (if m == "**" then p - 1 else p) operand
    return some (if m == "+" then .sum left right else .compound .binary [left, right])

/-- All operators behind an operand that bind closer than the given precedence. -/
def operators (r : Rules) (precedence : Nat) (left : Tree) : Parse Tree :=
  repeatStep (operation r precedence) left

def binary (r : Rules) : Parse Tree := do
  let left ← try unary r true catch e => do
    match ← operator? with
    | some _ => pure .invalid
    | none => throw e
  if left.isA .arrow then return left
  operators r 0 left

/-- A choice between two expressions, or a single one. -/
def conditional (r : Rules) : Parse Tree := do
  let e ← binary r
  if e.isA .arrow then return e
  if ← eat "?" then
    let yes ← allowIn r.assignment
    expect ":"
    return .compound .conditional [e, yes, ← r.assignment]
  else return e

/-! ## Whole expressions -/

/-- The operators that assign a value computed from the old one. -/
def compoundAssignments : List String :=
  ["+=", "-=", "*=", "/=", "%=", "**=", "<<=", ">>=", ">>>=", "&=", "|=", "^=", "&&=", "||=",
   "??="]

/-- An expression may begin with the token. -/
def begins : Token → Bool
  | .word w => !(reserved.contains w) ||
      ["null", "true", "false", "function", "new", "this", "super", "class", "import", "typeof",
        "void", "delete"].contains w
  | .mark m =>
    ["(", "[", "\x7b", "\x60", "/", "/=", "+", "-", "~", "!", "++", "--", "<", "@"].contains m
  | .endOfFile | .invalid => false
  | _ => true

def yielding (r : Rules) : Parse Tree := do
  if (← lineEnded) || (!(← at? "*") && !begins (← current)) then return .compound .yielding []
  let _ ← eat "*"
  return .compound .yielding [← r.assignment]

/-- The expression has an operator between its parts, or in front of its only part, so that
    nothing can be assigned to it. -/
def isOperation : Tree → Bool
  | .sum .. => true
  | .compound c _ => [Construct.conditional, .binary, .unary, .update].contains c
  | _ => false

/-- An expression that is no sequence. -/
def assignment (r : Rules) : Parse Tree := do
  if (← read).isGenerator then
    if ← eatWord "yield" then return ← yielding r
  let e ← conditional r
  if isOperation e then return e
  if ← at? "=" then
    match e.asTarget? with
    | none => refuse
    | some target =>
      advance
      return .compound .assignment [target, ← r.assignment]
  else if ← atAny compoundAssignments then
    if e.isA .array || e.isA .object || e.asTarget?.isNone then refuse
    advance
    return .compound .compoundAssignment [e, ← r.assignment]
  else return e

/-- An expression, or a sequence of them. -/
def expression (r : Rules) : Parse Tree := do
  let first ← r.assignment
  let more ← collect do
    if ← eat "," then return some [← r.assignment] else return none
  return if more.isEmpty then first else .compound .sequence (first :: more)

end Potfile.Script.Grammar
