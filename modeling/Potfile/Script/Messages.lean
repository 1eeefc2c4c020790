import Potfile.Script.Tree

/-! # The messages of a tree

Messages are the first arguments of calls of `gettext`.

* `Findings`: the messages found, and how many arguments could not be read.
* `Tree.visit`: adds the findings of a whole tree, each call in front of the calls inside it.
-/

namespace Potfile.Script

def marker : String := "gettext"

structure Findings where
  messages : List String := []
  /-- How many calls have a first argument that is no literal and no sum. -/
  skipped : Nat := 0
deriving DecidableEq, Repr, Inhabited

namespace Findings

/-- The findings with the first argument of one more call of `gettext`. -/
def noteArgument (f : Findings) : List Tree → Findings
  | [] => f
  | argument :: _ =>
    if argument.isFoldable then
      let message := argument.fold
      if message.isEmpty then f else { f with messages := f.messages ++ [message] }
    else { f with skipped := f.skipped + 1 }

/-- The findings with one more call. -/
def noteCall (f : Findings) (callee : Tree) (arguments : List Tree) : Findings :=
  match callee with
  | .name text => if text = marker then f.noteArgument arguments else f
  | _ => f

end Findings

mutual

/-- The findings with those of a tree: of the calls in it, each in front of those inside it. -/
def Tree.visit (f : Findings) : Tree → Findings
  | .name _ => f
  | .literal _ => f
  | .sum left right => Tree.visit (Tree.visit f left) right
  | .paren inner => Tree.visit f inner
  | .call callee arguments =>
    Tree.visitAll (Tree.visit (f.noteCall callee arguments) callee) arguments
  | .compound _ parts => Tree.visitAll f parts

def Tree.visitAll (f : Findings) : List Tree → Findings
  | [] => f
  | tree :: rest => Tree.visitAll (Tree.visit f tree) rest

end

def Program.findings (p : Program) : Findings := Tree.visitAll {} p.items

end Potfile.Script
