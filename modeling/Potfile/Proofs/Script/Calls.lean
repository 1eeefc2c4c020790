import Potfile.Script.Messages

/-! # Every call is found once

What a visit finds, stated without visiting anything.

* `Tree.nodes`: all trees inside a tree, each once, in the order in which a visit comes to them.
* `Tree.message?`, `Tree.isUnread`: what one node contributes, seen by itself.
* `visit_eq_foldl`: a visit notes the nodes one after another, and nothing else. So a call is
  noted whatever it stands in, and the calls inside it are noted too.
-/

namespace Potfile.Script

namespace Tree

/-! ## Nodes -/

/-- The trees that a tree is directly made of, in the order of a visit. -/
def parts : Tree → List Tree
  | name _ | literal _ => []
  | sum left right => [left, right]
  | paren inner => [inner]
  | call callee arguments => callee :: arguments
  | compound _ parts => parts

mutual

/-- A tree and all trees inside it, each in front of those inside it. -/
def nodes : Tree → List Tree
  | name text => [name text]
  | literal value => [literal value]
  | sum left right => sum left right :: (nodes left ++ nodes right)
  | paren inner => paren inner :: nodes inner
  | call callee arguments => call callee arguments :: (nodes callee ++ nodesAll arguments)
  | compound construct parts => compound construct parts :: nodesAll parts

def nodesAll : List Tree → List Tree
  | [] => []
  | tree :: rest => nodes tree ++ nodesAll rest

end

theorem nodesAll_eq_flatMap (trees : List Tree) : nodesAll trees = trees.flatMap nodes := by
  induction trees with
  | nil => rfl
  | cons tree rest inductionHypothesis =>
    rw [nodesAll, inductionHypothesis, List.flatMap_cons]

theorem nodes_eq (tree : Tree) : tree.nodes = tree :: tree.parts.flatMap nodes := by
  cases tree <;> simp [nodes, parts, nodesAll_eq_flatMap]

/-! ## What a node contributes -/

/-- The tree inside its parentheses. -/
def bare : Tree → Tree
  | paren inner => inner.bare
  | tree => tree

/-- The first argument of a call of `gettext`. -/
def argument? : Tree → Option Tree
  | call (name text) (argument :: _) => if text = marker then some argument else none
  | _ => none

/-- The message of a call of `gettext`: the text of its first argument, unless that one is spread
    or has no text. -/
def message? (tree : Tree) : Option String :=
  tree.argument?.bind fun argument =>
    if argument.isA .spread ∨ argument.fold = "" then none else some argument.fold

def isLiteralOrSum : Tree → Bool
  | literal _ | sum _ _ => true
  | _ => false

/-- A call of `gettext` whose first argument is spread, or is neither a literal nor a sum once its
    parentheses are removed. -/
def isUnread (tree : Tree) : Bool :=
  match tree.argument? with
  | none => false
  | some argument => argument.isA .spread || !argument.bare.isLiteralOrSum

/-! ## Two readings of an argument -/

theorem isFoldable_eq_isLiteralOrSum_bare (tree : Tree) :
    tree.isFoldable = tree.bare.isLiteralOrSum := by
  -- Both readings look through parentheses, and so does the induction.
  induction tree using Tree.isFoldable.induct with
  | case1 | case2 => rfl
  | case3 inner inductionHypothesis => rw [isFoldable, bare, inductionHypothesis]
  | case4 tree _ _ noParen => cases tree <;> simp_all [isFoldable, bare, isLiteralOrSum]

theorem isFoldable_of_fold_ne {tree : Tree} (some : tree.fold ≠ "") : tree.isFoldable := by
  induction tree using Tree.isFoldable.induct with
  | case1 | case2 => rfl
  | case3 inner inductionHypothesis =>
    rw [fold] at some
    rw [isFoldable, inductionHypothesis some]
  | case4 tree _ _ noParen => cases tree <;> simp_all [fold]

theorem isFoldable_of_isA {tree : Tree} {construct : Construct} (compound : tree.isA construct) :
    tree.isFoldable = false := by
  cases tree <;> simp_all [isA, isFoldable]

end Tree

/-! ## One node -/

namespace Findings

/-- The findings with those of one more node, without those inside it. -/
def note (f : Findings) (node : Tree) : Findings :=
  { messages := f.messages ++ node.message?.toList
    skipped := f.skipped + if node.isUnread then 1 else 0 }

theorem note_of_argument?_eq_none {f : Findings} {node : Tree} (none : node.argument? = none) :
    f.note node = f := by
  simp [note, Tree.message?, Tree.isUnread, none]

theorem noteArgument_eq (f : Findings) {node argument : Tree} {rest : List Tree}
    (first : node.argument? = some argument) :
    f.noteArgument (argument :: rest) = f.note node := by
  simp only [noteArgument, note, Tree.message?, Tree.isUnread, first, Option.bind_some]
  cases foldable : argument.isFoldable with
  | true =>
    -- A spread is never read, so the text alone decides whether there is a message.
    have noSpread : argument.isA .spread = false := by
      refine Bool.eq_false_iff.mpr fun spread => ?_
      rw [Tree.isFoldable_of_isA spread] at foldable
      contradiction
    rw [Tree.isFoldable_eq_isLiteralOrSum_bare] at foldable
    by_cases empty : argument.fold = "" <;> simp [noSpread, foldable, empty]
  | false =>
    -- What cannot be read has no text, so that counting it loses no message.
    have noText : argument.fold = "" := by
      refine Decidable.byContradiction fun some => ?_
      rw [Tree.isFoldable_of_fold_ne some] at foldable
      contradiction
    rw [Tree.isFoldable_eq_isLiteralOrSum_bare] at foldable
    simp [noText, foldable]

theorem noteCall_eq (f : Findings) (callee : Tree) (arguments : List Tree) :
    f.noteCall callee arguments = f.note (.call callee arguments) := by
  cases callee with
  | name text =>
    rw [noteCall]
    by_cases marked : text = marker
    · rw [if_pos marked]
      cases arguments with
      | nil => rw [note_of_argument?_eq_none (by simp [Tree.argument?])]; rfl
      | cons argument rest => exact noteArgument_eq f (by simp [Tree.argument?, marked])
    · rw [if_neg marked, note_of_argument?_eq_none]
      cases arguments <;> simp [Tree.argument?, marked]
  | literal | sum | paren | call | compound =>
    rw [noteCall, note_of_argument?_eq_none (by simp [Tree.argument?])]
    all_goals simp

/-- Nodes that are noted one after another: their messages in order, and the number of those that
    cannot be read. -/
theorem foldl_note (f : Findings) (nodes : List Tree) :
    nodes.foldl note f =
      { messages := f.messages ++ nodes.filterMap Tree.message?
        skipped := f.skipped + nodes.countP Tree.isUnread } := by
  induction nodes generalizing f with
  | nil => simp
  | cons node rest inductionHypothesis =>
    rw [List.foldl_cons, inductionHypothesis, note, List.filterMap_cons, List.countP_cons]
    cases node.message? <;> simp [Nat.add_assoc, Nat.add_comm (List.countP _ _)]

end Findings

/-! ## A whole visit -/

namespace Tree

mutual

/-- A visit notes the nodes of a tree, in their order. -/
theorem visit_eq_foldl (f : Findings) (tree : Tree) :
    visit f tree = tree.nodes.foldl Findings.note f := by
  -- Only calls contribute by themselves; other nodes leave the findings as they are.
  match tree with
  | name _ | literal _ =>
    rw [visit, nodes, List.foldl_cons, List.foldl_nil,
      Findings.note_of_argument?_eq_none (by simp [argument?])]
  | sum left right =>
    rw [visit, visit_eq_foldl f left, visit_eq_foldl _ right, nodes, List.foldl_cons,
      Findings.note_of_argument?_eq_none (by simp [argument?]), List.foldl_append]
  | paren inner =>
    rw [visit, visit_eq_foldl f inner, nodes, List.foldl_cons,
      Findings.note_of_argument?_eq_none (by simp [argument?])]
  | call callee arguments =>
    rw [visit, visit_eq_foldl _ callee, visitAll_eq_foldl _ arguments, Findings.noteCall_eq,
      nodes, List.foldl_cons, List.foldl_append]
  | compound _ parts =>
    rw [visit, visitAll_eq_foldl f parts, nodes, List.foldl_cons,
      Findings.note_of_argument?_eq_none (by simp [argument?])]

theorem visitAll_eq_foldl (f : Findings) (trees : List Tree) :
    visitAll f trees = (nodesAll trees).foldl Findings.note f := by
  match trees with
  | [] => rfl
  | tree :: rest =>
    rw [visitAll, visit_eq_foldl f tree, visitAll_eq_foldl _ rest, nodesAll, List.foldl_append]

end

def findings (tree : Tree) : Findings := visit {} tree

theorem findings_eq (tree : Tree) :
    tree.findings =
      { messages := tree.nodes.filterMap message?, skipped := tree.nodes.countP isUnread } := by
  rw [findings, visit_eq_foldl, Findings.foldl_note]
  simp

theorem messages_findings (tree : Tree) :
    tree.findings.messages =
      tree.message?.toList ++ tree.parts.flatMap fun part => part.findings.messages := by
  simp only [findings_eq]
  rw [nodes_eq, List.filterMap_cons, List.filterMap_flatMap]
  cases tree.message? <;> rfl

end Tree

namespace Program

/-- All nodes of a script, in the order of a visit. -/
def nodes (p : Program) : List Tree := p.items.flatMap Tree.nodes

/-- A script's messages are those of its calls of `gettext`, each call in its place among all nodes;
    and its unread calls are counted. A call whose argument has a text is read, and what a call is
    part of changes nothing about the messages in it. -/
theorem findings_of_nodes (p : Program) :
    p.findings.messages = p.nodes.filterMap Tree.message? ∧
      p.findings.skipped = p.nodes.countP Tree.isUnread ∧
      (∀ tree : Tree, tree.nodes = tree :: tree.parts.flatMap Tree.nodes) ∧
      (∀ argument : Tree, argument.fold ≠ "" → argument.isFoldable) ∧
      ∀ tree : Tree, tree.findings.messages =
        tree.message?.toList ++ tree.parts.flatMap fun part => part.findings.messages := by
  -- A script is visited as the list of its items, all with one record of findings.
  have whole : p.findings =
      { messages := p.nodes.filterMap Tree.message?
        skipped := p.nodes.countP Tree.isUnread } := by
    rw [findings, Tree.visitAll_eq_foldl, Tree.nodesAll_eq_flatMap, Findings.foldl_note, nodes]
    simp
  refine ⟨by rw [whole], by rw [whole], Tree.nodes_eq, ?_, Tree.messages_findings⟩
  intro argument some
  exact Tree.isFoldable_of_fold_ne some

/-- The outer call comes first, though its own text only begins behind the inner call. -/
example :
    let inner := Tree.call (.name "gettext") [.literal (.string "a")]
    let outer := Tree.call (.name "gettext") [.paren (.sum inner (.literal (.string "b")))]
    (Program.mk [outer]).findings = { messages := ["b", "a"], skipped := 0 } := by
  decide

end Program

end Potfile.Script
