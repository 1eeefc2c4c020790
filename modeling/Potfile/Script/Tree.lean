import Potfile.Decimal.Shortest
import Potfile.Text.Digits

/-! # Trees of scripts

A tree keeps apart what decides about messages: names, literals, sums, parentheses and calls.
All else is a compound of its parts, marked by the construct that it is.

* `Literal.text`: a literal as part of a message.
* `Tree.fold`: the text that a sum of literals amounts to.
* `Program.folds`: the folds of the statements that are mere expressions.
-/

namespace Potfile.Script

/-! ## Literals -/

inductive Literal where
  /-- A string; `none` if it holds half of a surrogate pair and so is no text. -/
  | string (text : Option String)
  | number (value : Binary64)
  | bigint (value : Nat)
  | boolean (value : Bool)
  | null
  | regex (pattern flags : String)
deriving DecidableEq, Repr, Inhabited

/-- A literal as part of a message. A string that is no text contributes nothing. -/
def Literal.text : Literal → String
  | string text => text.getD ""
  | number value => String.ofList value.positional
  | bigint value => Text.numeral value
  | boolean value => if value then "true" else "false"
  | null => "null"
  | regex pattern flags => "/" ++ pattern ++ "/" ++ flags

/-! ## Trees -/

/-- The constructs whose meaning plays no part in messages. -/
inductive Construct where
  -- Expressions, and the patterns that are written like them
  | this
  | super
  | array
  /-- An element that was left out of an array. -/
  | hole
  | spread
  | object
  | property
  /-- A property that is named like the variable it holds. -/
  | shorthand
  /-- A shorthand with a value for the case that there is none. -/
  | defaulted
  | method
  | function
  | arrow
  | classDefinition
  | template
  | taggedTemplate
  | member
  | superMember
  | optionalChain
  | creation
  /-- The creation of an object without a list of arguments. -/
  | bareCreation
  | dynamicImport
  | metaProperty
  | privateName
  | unary
  | update
  | binary
  | conditional
  | assignment
  | compoundAssignment
  | sequence
  | yielding
  | awaiting
  /-- What takes the place of an operand or a pattern that could not be read. -/
  | invalid
  -- Statements and parts of them
  | expressionStatement
  | emptyStatement
  | block
  | declaration
  | branch
  | selection
  | loop
  | jump
  | handler
  | labelled
  | importing
  | exporting
deriving DecidableEq, Repr, Inhabited

/-- A tree. Parts stand in the order of the source, with two exceptions: the members of a class
    stand in front of what it extends, and the condition of a loop stands in front of its body.
    -/
inductive Tree where
  | name (text : String)
  | literal (value : Literal)
  | sum (left right : Tree)
  | paren (inner : Tree)
  | call (callee : Tree) (arguments : List Tree)
  | compound (construct : Construct) (parts : List Tree)
deriving Repr, Inhabited

namespace Tree

/-- The text that a sum of literals amounts to. Parentheses make no difference, and what is no
    literal contributes nothing. -/
def fold : Tree → String
  | literal value => value.text
  | sum left right => left.fold ++ right.fold
  | paren inner => inner.fold
  | _ => ""

/-- Inside its parentheses, the tree is a literal or a sum. -/
def isFoldable : Tree → Bool
  | literal _ => true
  | sum _ _ => true
  | paren inner => inner.isFoldable
  | _ => false

def isA (c : Construct) : Tree → Bool
  | compound construct _ => construct == c
  | _ => false

/-- What stands in place of a part that could not be read. -/
def invalid : Tree := compound .invalid []

end Tree

structure Program where
  items : List Tree
deriving Repr, Inhabited

/-- The folds of the statements that are mere expressions, in order. -/
def Program.folds (p : Program) : List String :=
  p.items.filterMap fun
    | .compound .expressionStatement [e] => some e.fold
    | _ => none

end Potfile.Script
