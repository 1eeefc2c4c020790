import Potfile.Script.Tree

/-! # How a sum is grouped

Sums in sums and parentheses around operands group what is joined, and do not change it.

* `Tree.leaves`: what a sum joins, from left to right.
* `Tree.Regroups`: the operands are grouped in another way. Each sum can be regrouped into a chain of
  its leaves (`exists_chain`), so that sums with the same leaves are regrouped into each other
  (`regroups_iff`).
* `Tree.fold_of_leaves`: a fold is the texts of the leaves, one after another.
-/

namespace Potfile.Script.Tree

/-! ## Leaves -/

/-- A sum or a tree in parentheses. -/
def isGroup : Tree → Bool
  | sum _ _ | paren _ => true
  | name _ | literal _ | call _ _ | compound _ _ => false

/-- What a sum joins, from left to right: the operands that are no groups themselves. What stands
    inside such an operand is not looked at. -/
def leaves : Tree → List Tree
  | sum left right => left.leaves ++ right.leaves
  | paren inner => inner.leaves
  | tree => [tree]

def literal? : Tree → Option Literal
  | literal value => some value
  | _ => none

/-- The literals among the leaves, in their order. -/
def literals (tree : Tree) : List Literal := tree.leaves.filterMap literal?

/-- What a leaf adds to a message: the text of a literal, and nothing for any other leaf. -/
def leafText (leaf : Tree) : String := (leaf.literal?.map Literal.text).getD ""

theorem leaves_of_isGroup_eq_false {tree : Tree} (leaf : tree.isGroup = false) :
    tree.leaves = [tree] := by
  cases tree with
  | sum | paren => contradiction
  | name | literal | call | compound =>
    rw [leaves]
    all_goals simp

theorem fold_of_isGroup_eq_false {tree : Tree} (leaf : tree.isGroup = false) :
    tree.fold = tree.leafText := by
  cases tree with
  | sum | paren => contradiction
  | literal => rfl
  | name | call | compound => rfl

/-- A tree is a sum, a tree in parentheses, or a leaf. -/
@[elab_as_elim]
theorem induction_leaves {motive : Tree → Prop}
    (sum : ∀ left right, motive left → motive right → motive (sum left right))
    (paren : ∀ inner, motive inner → motive (paren inner))
    (leaf : ∀ tree, tree.isGroup = false → motive tree) (tree : Tree) : motive tree := by
  induction tree using Tree.leaves.induct with
  | case1 left right leftHypothesis rightHypothesis =>
    exact sum left right leftHypothesis rightHypothesis
  | case2 inner inductionHypothesis => exact paren inner inductionHypothesis
  | case3 tree noSum noParen =>
    apply leaf
    cases tree with
    | sum left right => exact absurd rfl (noSum left right)
    | paren inner => exact absurd rfl (noParen inner)
    | name | literal | call | compound => rfl

theorem isGroup_of_mem_leaves {tree leaf : Tree} (member : leaf ∈ tree.leaves) :
    leaf.isGroup = false := by
  induction tree using induction_leaves with
  | sum left right leftHypothesis rightHypothesis =>
    rw [leaves, List.mem_append] at member
    exact member.elim leftHypothesis rightHypothesis
  | paren inner inductionHypothesis =>
    rw [leaves] at member
    exact inductionHypothesis member
  | leaf tree single =>
    rw [leaves_of_isGroup_eq_false single, List.mem_singleton] at member
    rwa [member]

/-! ## Folds -/

theorem fold_eq_join (tree : Tree) : tree.fold = String.join (tree.leaves.map leafText) := by
  induction tree using induction_leaves with
  | sum left right leftHypothesis rightHypothesis =>
    rw [fold, leaves, List.map_append, String.join_append, leftHypothesis, rightHypothesis]
  | paren inner inductionHypothesis => rw [fold, leaves, inductionHypothesis]
  | leaf tree single =>
    rw [fold_of_isGroup_eq_false single, leaves_of_isGroup_eq_false single]
    simp

/-- Leaves other than literals can be left out. -/
theorem join_map_leafText (trees : List Tree) :
    String.join (trees.map leafText) =
      String.join ((trees.filterMap literal?).map Literal.text) := by
  induction trees with
  | nil => rfl
  | cons tree rest inductionHypothesis =>
    rw [List.map_cons, String.join_cons, inductionHypothesis, List.filterMap_cons, leafText]
    cases tree.literal? with
    | none => simp
    | some value => simp

theorem join_eq_empty_iff (texts : List String) :
    String.join texts = "" ↔ ∀ text ∈ texts, text = "" := by
  induction texts with
  | nil => simp
  | cons text texts inductionHypothesis =>
    rw [String.join_cons, String.append_eq_empty_iff, inductionHypothesis, List.forall_mem_cons]

theorem fold_eq_empty_iff (tree : Tree) :
    tree.fold = "" ↔ ∀ leaf ∈ tree.leaves, leaf.leafText = "" := by
  rw [fold_eq_join, join_eq_empty_iff, List.forall_mem_map]

/-! ## Other groupings -/

/-- The same operands, grouped in another way: parentheses are added or removed, and the middle one
    of three operands is joined to the last one first or to the first one first. This may be done any
    number of times, at each place to which sums and parentheses lead. -/
inductive Regroups : Tree → Tree → Prop where
  | wrap (tree : Tree) : Regroups tree (paren tree)
  | rotate (first middle last : Tree) :
      Regroups (sum (sum first middle) last) (sum first (sum middle last))
  | join {left left' right right' : Tree} : Regroups left left' → Regroups right right' →
      Regroups (sum left right) (sum left' right')
  | refl (tree : Tree) : Regroups tree tree
  | symm {tree tree' : Tree} : Regroups tree tree' → Regroups tree' tree
  | trans {tree tree' tree'' : Tree} : Regroups tree tree' → Regroups tree' tree'' →
      Regroups tree tree''

theorem Regroups.leaves_eq {tree tree' : Tree} (regroups : Regroups tree tree') :
    tree.leaves = tree'.leaves := by
  induction regroups with
  | wrap tree => rw [leaves]
  | rotate first middle last => rw [leaves, leaves, leaves, leaves, List.append_assoc]
  | join _ _ leftHypothesis rightHypothesis => rw [leaves, leaves, leftHypothesis, rightHypothesis]
  | refl tree => rfl
  | symm _ inductionHypothesis => exact inductionHypothesis.symm
  | trans _ _ first second => exact first.trans second

/-! ## Chains -/

/-- The trees and a last one, each joined to all that follow it. -/
def chain (front : List Tree) (last : Tree) : Tree := front.foldr sum last

theorem regroups_chain (tree last : Tree) : Regroups (sum tree last) (chain tree.leaves last) := by
  -- For every last operand at once: what follows a left operand starts with the right one.
  induction tree using induction_leaves generalizing last with
  | sum left right leftHypothesis rightHypothesis =>
    rw [leaves, chain, List.foldr_append]
    exact (Regroups.rotate left right last).trans
      ((Regroups.join (.refl left) (rightHypothesis last)).trans (leftHypothesis _))
  | paren inner inductionHypothesis =>
    rw [leaves]
    exact (Regroups.join (.symm (.wrap inner)) (.refl last)).trans (inductionHypothesis last)
  | leaf tree single =>
    rw [leaves_of_isGroup_eq_false single]
    exact .refl _

/-- Every tree can be regrouped into a chain of its leaves. -/
theorem exists_chain (tree : Tree) :
    ∃ front last, tree.leaves = front ++ [last] ∧ Regroups tree (chain front last) := by
  induction tree using induction_leaves with
  | sum left right _ rightHypothesis =>
    obtain ⟨front, last, equal, regroups⟩ := rightHypothesis
    refine ⟨left.leaves ++ front, last, by rw [leaves, equal, List.append_assoc], ?_⟩
    rw [chain, List.foldr_append]
    exact (Regroups.join (.refl left) regroups).trans (regroups_chain left _)
  | paren inner inductionHypothesis =>
    obtain ⟨front, last, equal, regroups⟩ := inductionHypothesis
    exact ⟨front, last, by rw [leaves, equal], (Regroups.symm (.wrap inner)).trans regroups⟩
  | leaf tree single =>
    refine ⟨[], tree, ?_, .refl _⟩
    exact leaves_of_isGroup_eq_false single

/-- Trees are groupings of the same operands exactly if they have the same leaves. -/
theorem regroups_iff {tree tree' : Tree} : Regroups tree tree' ↔ tree.leaves = tree'.leaves := by
  refine ⟨Regroups.leaves_eq, fun same => ?_⟩
  obtain ⟨front, last, equal, regroups⟩ := exists_chain tree
  obtain ⟨front', last', equal', regroups'⟩ := exists_chain tree'
  obtain ⟨rfl, rfl⟩ : front = front' ∧ last = last' := by
    simpa using equal.symm.trans (same.trans equal')
  exact regroups.trans regroups'.symm

/-- A fold is made of the texts of the leaves, from left to right. Only literals have any, so that
    their sequence decides, and the way in which a sum is grouped does not matter. -/
theorem fold_of_leaves :
    (∀ tree : Tree, tree.fold = String.join (tree.leaves.map leafText) ∧
      tree.fold = String.join (tree.literals.map Literal.text) ∧
      (∀ leaf ∈ tree.leaves, leaf.isGroup = false) ∧
      (tree.fold = "" ↔ ∀ leaf ∈ tree.leaves, leaf.leafText = "")) ∧
    (∀ tree tree' : Tree, (Regroups tree tree' ↔ tree.leaves = tree'.leaves) ∧
      (Regroups tree tree' → tree.fold = tree'.fold) ∧
      (tree.literals = tree'.literals → tree.fold = tree'.fold)) ∧
    ∀ left right : Tree, (sum left right).fold = left.fold ++ right.fold := by
  have byLiterals (tree : Tree) : tree.fold = String.join (tree.literals.map Literal.text) := by
    rw [fold_eq_join, join_map_leafText, literals]
  refine ⟨fun tree => ?_, fun tree tree' => ?_, fun left right => ?_⟩
  · exact ⟨fold_eq_join tree, byLiterals tree, fun _ => isGroup_of_mem_leaves, fold_eq_empty_iff tree⟩
  · refine ⟨regroups_iff, fun regroups => ?_, fun same => ?_⟩
    · rw [fold_eq_join, fold_eq_join, regroups.leaves_eq]
    · rw [byLiterals, byLiterals, same]
  · rw [fold]

/-- A literal below another operator is in no leaf's text. -/
example : (sum (paren (sum (literal (.string "a")) (name "b")))
    (sum (compound .binary [literal (.string "c"), literal (.string "d")])
      (literal .null))).fold = "anull" := by
  decide

end Potfile.Script.Tree
