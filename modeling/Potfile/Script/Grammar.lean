import Potfile.Script.Grammar.Module
import Potfile.Script.Messages

/-! # Reading scripts

* `parse?`: the program that a script is, unless it breaks the rules so badly that nothing can be
  made of it.
* `messages`: the messages in a script.
-/

namespace Potfile.Script

/-- The rules for constructs that are nested in each other at most so many times. -/
def rules : (depth : Nat) → Rules
  | 0 => .none
  | depth + 1 => {
      expression := fun c => Grammar.expression (rules depth) c
      assignment := fun c => Grammar.assignment (rules depth) c
      unary := fun c => Grammar.unary (rules depth) false c
      operators := fun precedence left c => Grammar.operators (rules depth) precedence left c
      leftHandSide := fun c => Grammar.leftHandSide (rules depth) false c
      creatable := fun c => Grammar.creatable (rules depth) false c
      pattern := fun c => Grammar.pattern (rules depth) c
      statement := fun declares c => Grammar.statement (rules depth) declares c }

/-- The text behind the first line, if that line names an interpreter. -/
def skipInterpreter : List Char → List Char
  | '#' :: '!' :: cs => cs.dropWhile (!isLineEnd ·)
  | cs => cs

/-- The program that a script is; `none` if nothing can be made of it. Between two constructs that
    are nested in each other there is at least a character, and few rules. -/
def parse? (source : String) : Option Program :=
  let cs := skipInterpreter source.toList
  let context : Context := { limit := cs.length }
  match Grammar.items (rules (4 * cs.length + 16)) context (Place.next true cs) with
  | .ok items _ => some ⟨items⟩
  | .error _ _ => none

/-- The messages in a script. One of which nothing can be made has none. -/
def messages (source : String) : List String :=
  match parse? source with
  | some program => program.findings.messages
  | none => []

end Potfile.Script
