import Potfile.Proofs.Script.Calls
import Mathlib.Data.List.Forall2
import Mathlib.Data.List.Perm.Basic
import Mathlib.Logic.Relation

/-! # Parentheses

Scripts that differ in their parentheses alone, and what that does to the messages in them.

* `Tree.Wraps`: one more pair of parentheses, around any node. `Tree.Rewraps` adds and removes any
  number of them.
* `Tree.unwrapped`: no parentheses at all. They can all be removed (`Program.rewraps_unwrapped`).
* `messages_of_rewraps`: an argument is looked through to what stands inside its parentheses, so that
  none of those around arguments and operands matter. A callee is not: a call whose callee stands in
  parentheses is passed over, with its message.
-/

namespace Potfile.Script

namespace Tree

/-! ## Trees without parentheses -/

mutual

/-- The tree without its parentheses. -/
def unwrapped : Tree → Tree
  | name text => name text
  | literal value => literal value
  | sum left right => sum left.unwrapped right.unwrapped
  | paren inner => inner.unwrapped
  | call callee arguments => call callee.unwrapped (unwrappedAll arguments)
  | compound construct parts => compound construct (unwrappedAll parts)

def unwrappedAll : List Tree → List Tree
  | [] => []
  | tree :: rest => tree.unwrapped :: unwrappedAll rest

end

theorem unwrappedAll_eq_map (trees : List Tree) : unwrappedAll trees = trees.map unwrapped := by
  induction trees with
  | nil => rfl
  | cons tree rest inductionHypothesis => rw [unwrappedAll, inductionHypothesis, List.map_cons]

/-! ## More and fewer parentheses -/

/-- The second tree has one pair of parentheses more than the first. -/
inductive Wraps : Tree → Tree → Prop where
  | here (tree : Tree) : Wraps tree (paren tree)
  | left {left left' : Tree} (right : Tree) : Wraps left left' →
      Wraps (sum left right) (sum left' right)
  | right (left : Tree) {right right' : Tree} : Wraps right right' →
      Wraps (sum left right) (sum left right')
  | inner {inner inner' : Tree} : Wraps inner inner' → Wraps (paren inner) (paren inner')
  | callee {callee callee' : Tree} (arguments : List Tree) : Wraps callee callee' →
      Wraps (call callee arguments) (call callee' arguments)
  | argument (callee : Tree) (before : List Tree) {argument argument' : Tree} (after : List Tree) :
      Wraps argument argument' →
      Wraps (call callee (before ++ argument :: after)) (call callee (before ++ argument' :: after))
  | part (construct : Construct) (before : List Tree) {part part' : Tree} (after : List Tree) :
      Wraps part part' →
      Wraps (compound construct (before ++ part :: after))
        (compound construct (before ++ part' :: after))

/-- Pairs of parentheses are added and removed, any number of them anywhere. -/
def Rewraps : Tree → Tree → Prop := Relation.EqvGen Wraps

theorem Wraps.unwrapped_eq {tree tree' : Tree} (wraps : Wraps tree tree') :
    tree.unwrapped = tree'.unwrapped := by
  induction wraps with
  | here tree => rw [unwrapped]
  | left right _ inductionHypothesis | right left _ inductionHypothesis =>
    rw [unwrapped, unwrapped, inductionHypothesis]
  | inner _ inductionHypothesis => rw [unwrapped, unwrapped, inductionHypothesis]
  | callee arguments _ inductionHypothesis => rw [unwrapped, unwrapped, inductionHypothesis]
  | argument callee before after _ inductionHypothesis
  | part construct before after _ inductionHypothesis =>
    simp only [unwrapped, unwrappedAll_eq_map, List.map_append, List.map_cons, inductionHypothesis]

theorem Rewraps.unwrapped_eq {tree tree' : Tree} (rewraps : Rewraps tree tree') :
    tree.unwrapped = tree'.unwrapped := by
  induction rewraps with
  | rel tree tree' wraps => exact wraps.unwrapped_eq
  | refl tree => rfl
  | symm tree tree' _ inductionHypothesis => exact inductionHypothesis.symm
  | trans tree tree' tree'' _ _ first second => exact first.trans second

/-- What may be done inside a place may be done to a tree in that place. -/
theorem Rewraps.within (place : Tree → Tree)
    (lift : ∀ tree tree', Wraps tree tree' → Wraps (place tree) (place tree'))
    {tree tree' : Tree} (rewraps : Rewraps tree tree') : Rewraps (place tree) (place tree') := by
  induction rewraps with
  | rel tree tree' wraps => exact .rel _ _ (lift tree tree' wraps)
  | refl tree => exact .refl _
  | symm tree tree' _ inductionHypothesis => exact .symm _ _ inductionHypothesis
  | trans tree tree' tree'' _ _ first second => exact .trans _ _ _ first second

theorem rewraps_of_forall₂ {place : List Tree → Tree}
    (lift : ∀ before tree tree' after, Wraps tree tree' →
      Wraps (place (before ++ tree :: after)) (place (before ++ tree' :: after)))
    {trees trees' : List Tree} (rewraps : List.Forall₂ Rewraps trees trees') :
    Rewraps (place trees) (place trees') := by
  -- From the front to the back, with the trees that are done standing before the others.
  have from' (before : List Tree) : Rewraps (place (before ++ trees)) (place (before ++ trees')) := by
    induction rewraps generalizing before with
    | nil => exact .refl _
    | @cons tree tree' rest rest' first _ inductionHypothesis =>
      have here : Rewraps (place (before ++ tree :: rest)) (place (before ++ tree' :: rest)) :=
        first.within (fun inner => place (before ++ inner :: rest))
          fun _ _ wraps => lift before _ _ rest wraps
      have there := inductionHypothesis (before ++ [tree'])
      rw [List.append_assoc, List.append_assoc, List.singleton_append, List.singleton_append]
        at there
      exact .trans _ _ _ here there
  exact from' []

mutual

theorem rewraps_unwrapped (tree : Tree) : tree.Rewraps tree.unwrapped := by
  match tree with
  | name _ | literal _ => exact .refl _
  | sum left right =>
    rw [unwrapped]
    exact .trans _ _ _
      ((rewraps_unwrapped left).within (sum · right) fun _ _ wraps => .left right wraps)
      ((rewraps_unwrapped right).within (sum left.unwrapped ·) fun _ _ wraps => .right _ wraps)
  | paren inner =>
    rw [unwrapped]
    exact .trans _ _ _ (.symm _ _ (.rel _ _ (.here inner))) (rewraps_unwrapped inner)
  | call callee arguments =>
    -- First within the callee, then within the arguments behind the callee that is done.
    rw [unwrapped]
    exact .trans _ _ _
      ((rewraps_unwrapped callee).within (call · arguments) fun _ _ wraps => .callee _ wraps)
      (rewraps_of_forall₂ (fun before _ _ after wraps =>
        .argument callee.unwrapped before after wraps) (rewrapsAll_unwrappedAll arguments))
  | compound construct parts =>
    rw [unwrapped]
    exact rewraps_of_forall₂ (fun before _ _ after wraps => .part construct before after wraps)
      (rewrapsAll_unwrappedAll parts)

theorem rewrapsAll_unwrappedAll (trees : List Tree) :
    List.Forall₂ Rewraps trees (unwrappedAll trees) := by
  match trees with
  | [] => exact .nil
  | tree :: rest => exact .cons (rewraps_unwrapped tree) (rewrapsAll_unwrappedAll rest)

end

/-! ## Calls seen through parentheses -/

def hasWrappedCallee : Tree → Bool
  | call (paren _) _ => true
  | _ => false

/-- A call, with its callee taken out of any parentheses. -/
def bareCallee : Tree → Tree
  | call callee arguments => call callee.bare arguments
  | tree => tree

/-- The message of a call of `gettext`, whether or not the callee stands in parentheses. -/
def bareMessage? (tree : Tree) : Option String := tree.bareCallee.message?

theorem fold_unwrapped (tree : Tree) : tree.unwrapped.fold = tree.fold := by
  induction tree using Tree.fold.induct with
  | case1 value => rfl
  | case2 left right leftHypothesis rightHypothesis =>
    rw [unwrapped, fold, fold, leftHypothesis, rightHypothesis]
  | case3 inner inductionHypothesis => rw [unwrapped, fold, inductionHypothesis]
  | case4 tree noLiteral noSum noParen =>
    cases tree <;> simp_all [unwrapped, fold]

theorem bare_unwrapped (tree : Tree) : tree.bare.unwrapped = tree.unwrapped := by
  induction tree using Tree.bare.induct with
  | case1 inner inductionHypothesis => rw [bare, inductionHypothesis, unwrapped]
  | case2 tree noParen => rw [bare]; exact noParen

/-- The text of the argument decides alone: a spread argument has none. -/
theorem message?_eq (tree : Tree) :
    tree.message? = tree.argument?.bind fun argument =>
      if argument.fold = "" then none else some argument.fold := by
  rw [message?]
  congr 1
  funext argument
  cases spread : argument.isA .spread with
  | false => simp
  | true =>
    have unread : argument.fold = "" := by
      cases argument <;> simp_all [isA, fold]
    simp [unread]

theorem bare_ne_paren (tree inner : Tree) : tree.bare ≠ paren inner := by
  induction tree using Tree.bare.induct with
  | case1 inner' inductionHypothesis => rw [bare]; exact inductionHypothesis
  | case2 tree noParen =>
    rw [bare]
    · exact noParen inner
    · exact noParen

theorem unwrapped_eq_name_iff {tree : Tree} {text : String} :
    tree.unwrapped = name text ↔ tree.bare = name text := by
  rw [← bare_unwrapped]
  have noParen := bare_ne_paren tree
  generalize tree.bare = bare at noParen ⊢
  cases bare with
  | paren inner => exact absurd rfl (noParen inner)
  | name | literal | sum | call | compound => simp [unwrapped]

/-- A call without parentheses has the message of the call that is seen through them. -/
theorem message?_unwrapped_call (callee : Tree) (arguments : List Tree) :
    (call callee arguments).unwrapped.message? = (call callee arguments).bareMessage? := by
  rw [unwrapped, bareMessage?, bareCallee, message?_eq, message?_eq]
  cases arguments with
  | nil => simp [unwrappedAll, argument?]
  | cons argument rest =>
    rw [unwrappedAll]
    by_cases named : ∃ text, callee.bare = name text
    · obtain ⟨text, named⟩ := named
      rw [unwrapped_eq_name_iff.mpr named, named, argument?, argument?]
      by_cases marked : text = marker <;> simp [marked, fold_unwrapped]
    · have unnamed : ∀ text, callee.unwrapped ≠ name text := by
        intro text equal
        exact named ⟨text, unwrapped_eq_name_iff.mp equal⟩
      have unnamed' : ∀ text, callee.bare ≠ name text := fun text equal => named ⟨text, equal⟩
      simp [argument?, unnamed, unnamed']

theorem message?_eq_none {tree : Tree} (noCall : ∀ callee arguments, tree ≠ call callee arguments) :
    tree.message? = none := by
  cases tree <;> simp_all [message?, argument?]

theorem bareMessage?_eq_none {tree : Tree}
    (noCall : ∀ callee arguments, tree ≠ call callee arguments) : tree.bareMessage? = none := by
  cases tree <;> simp_all [bareMessage?, bareCallee, message?, argument?]

mutual

theorem filterMap_nodes_unwrapped (tree : Tree) :
    tree.unwrapped.nodes.filterMap message? = tree.nodes.filterMap bareMessage? := by
  -- Only calls have messages, so the pairs of parentheses among the nodes do not matter.
  match tree with
  | name _ | literal _ => rfl
  | sum left right =>
    rw [unwrapped, nodes, nodes,
      List.filterMap_cons_none (message?_eq_none (by simp)), List.filterMap_append,
      List.filterMap_cons_none (bareMessage?_eq_none (by simp)), List.filterMap_append,
      filterMap_nodes_unwrapped left, filterMap_nodes_unwrapped right]
  | paren inner =>
    rw [unwrapped, nodes, List.filterMap_cons_none (bareMessage?_eq_none (by simp)),
      filterMap_nodes_unwrapped inner]
  | call callee arguments =>
    have here := message?_unwrapped_call callee arguments
    rw [unwrapped] at here ⊢
    rw [nodes, nodes, List.filterMap_cons, List.filterMap_cons, here, List.filterMap_append,
      List.filterMap_append, filterMap_nodes_unwrapped callee,
      filterMap_nodesAll_unwrappedAll arguments]
  | compound construct parts =>
    rw [unwrapped, nodes, nodes, List.filterMap_cons_none (message?_eq_none (by simp)),
      List.filterMap_cons_none (bareMessage?_eq_none (by simp)),
      filterMap_nodesAll_unwrappedAll parts]

theorem filterMap_nodesAll_unwrappedAll (trees : List Tree) :
    (nodesAll (unwrappedAll trees)).filterMap message? =
      (nodesAll trees).filterMap bareMessage? := by
  match trees with
  | [] => rfl
  | tree :: rest =>
    rw [unwrappedAll, nodesAll, nodesAll, List.filterMap_append, List.filterMap_append,
      filterMap_nodes_unwrapped tree, filterMap_nodesAll_unwrappedAll rest]

end

/-- A node has the message that is seen through parentheses, or none if they stand around its
    callee. -/
theorem message?_eq_ite (tree : Tree) :
    tree.message? = if tree.hasWrappedCallee then none else tree.bareMessage? := by
  rw [bareMessage?]
  cases tree with
  | call callee arguments =>
    cases callee with
    | paren inner => simp [hasWrappedCallee, message?, argument?]
    | name | literal | sum | call | compound =>
      rw [hasWrappedCallee, bareCallee, bare]
      all_goals simp
  | name | literal | sum | paren | compound => rfl

end Tree

/-! ## Whole scripts -/

namespace Program

/-- The scripts differ in their parentheses alone. -/
def Rewraps (p q : Program) : Prop := List.Forall₂ Tree.Rewraps p.items q.items

def unwrapped (p : Program) : Program := ⟨p.items.map Tree.unwrapped⟩

/-- The messages of the calls that are passed over because their callee stands in parentheses. -/
def hidden (p : Program) : List String :=
  (p.nodes.filter Tree.hasWrappedCallee).filterMap Tree.bareMessage?

theorem rewraps_unwrapped (p : Program) : p.Rewraps p.unwrapped := by
  rw [Rewraps, unwrapped, List.forall₂_map_right_iff, List.forall₂_same]
  exact fun tree _ => tree.rewraps_unwrapped

theorem Rewraps.unwrapped_eq {p q : Program} (rewraps : p.Rewraps q) :
    p.unwrapped = q.unwrapped := by
  have items : p.items.map Tree.unwrapped = q.items.map Tree.unwrapped := by
    rw [← List.forall₂_eq_eq_eq, List.forall₂_map_left_iff, List.forall₂_map_right_iff]
    exact rewraps.imp fun _ _ rewraps => rewraps.unwrapped_eq
  rw [unwrapped, unwrapped, items]

theorem messages_eq (p : Program) : p.findings.messages = p.nodes.filterMap Tree.message? := by
  rw [findings, Tree.visitAll_eq_foldl, Tree.nodesAll_eq_flatMap, Findings.foldl_note, nodes]
  simp

theorem messages_unwrapped (p : Program) :
    p.unwrapped.findings.messages = p.nodes.filterMap Tree.bareMessage? := by
  rw [messages_eq, nodes, nodes, ← Tree.nodesAll_eq_flatMap, ← Tree.nodesAll_eq_flatMap, unwrapped,
    ← Tree.unwrappedAll_eq_map, Tree.filterMap_nodesAll_unwrappedAll]

/-- The messages of a script are those of the calls whose callee stands in no parentheses. -/
theorem messages_eq_filter (p : Program) :
    p.findings.messages =
      (p.nodes.filter (!·.hasWrappedCallee)).filterMap Tree.bareMessage? := by
  rw [messages_eq, List.filterMap_filter]
  congr 1
  funext tree
  rw [tree.message?_eq_ite]
  cases tree.hasWrappedCallee <;> rfl

theorem sublist_messages_unwrapped (p : Program) :
    p.findings.messages.Sublist p.unwrapped.findings.messages := by
  rw [messages_eq_filter, messages_unwrapped]
  exact List.filter_sublist.filterMap _

theorem messages_eq_unwrapped_iff (p : Program) :
    p.findings.messages = p.unwrapped.findings.messages ↔ p.hidden = [] := by
  -- Each message is either found or hidden, so it is enough to count them.
  have split : p.hidden.length + p.findings.messages.length =
      p.unwrapped.findings.messages.length := by
    have perm := (List.filter_append_perm Tree.hasWrappedCallee p.nodes).filterMap
      Tree.bareMessage?
    rw [List.filterMap_append] at perm
    rw [messages_unwrapped, messages_eq_filter, hidden, ← List.length_append]
    exact perm.length_eq
  constructor
  · intro equal
    rw [equal] at split
    exact List.eq_nil_of_length_eq_zero (by omega)
  · intro none
    rw [none, List.length_nil, Nat.zero_add] at split
    exact (sublist_messages_unwrapped p).eq_of_length split

/-- Scripts that differ in their parentheses alone have the same messages, apart from those of calls
    whose callee stands in parentheses: such a call is passed over. One of these scripts has no
    parentheses at all, and it has the most messages. -/
theorem messages_of_rewraps (p q : Program) (rewraps : p.Rewraps q) :
    p.Rewraps p.unwrapped ∧
      q.findings.messages.Sublist p.unwrapped.findings.messages ∧
      (q.findings.messages = p.unwrapped.findings.messages ↔ q.hidden = []) ∧
      (p.hidden = [] → (q.findings.messages = p.findings.messages ↔ q.hidden = [])) := by
  have same := rewraps.unwrapped_eq
  have whole := messages_eq_unwrapped_iff q
  rw [← same] at whole
  refine ⟨p.rewraps_unwrapped, ?_, whole, ?_⟩
  · rw [same]
    exact sublist_messages_unwrapped q
  · intro open'
    rw [(messages_eq_unwrapped_iff p).mpr open']
    exact whole

def statement (expression : Tree) : Tree := .compound .expressionStatement [expression]

def ofCall (callee argument : Tree) : Program := ⟨[statement (.call callee [argument])]⟩

theorem rewraps_ofCall {callee callee' argument argument' : Tree}
    (callees : callee.Rewraps callee') (arguments : argument.Rewraps argument') :
    (ofCall callee argument).Rewraps (ofCall callee' argument') := by
  have outer : (statement (.call callee [argument])).Rewraps (statement (.call callee' [argument])) :=
    callees.within (fun inner => statement (.call inner [argument]))
      fun _ _ wraps => .part _ [] [] (.callee _ wraps)
  have inner : (statement (.call callee' [argument])).Rewraps
      (statement (.call callee' [argument'])) :=
    arguments.within (fun inner => statement (.call callee' [inner]))
      fun _ _ wraps => .part _ [] [] (.argument _ [] [] wraps)
  exact .cons (.trans _ _ _ outer inner) .nil

/-- Two pairs of parentheses around the argument. -/
theorem messages_of_rewraps_argument :
    (ofCall (.name "gettext") (.literal (.string "x"))).Rewraps
      (ofCall (.name "gettext") (.paren (.paren (.literal (.string "x"))))) ∧
    (ofCall (.name "gettext") (.paren (.paren (.literal (.string "x"))))).findings.messages =
      (ofCall (.name "gettext") (.literal (.string "x"))).findings.messages := by
  have rewraps : (ofCall (.name "gettext") (.literal (.string "x"))).Rewraps
      (ofCall (.name "gettext") (.paren (.paren (.literal (.string "x"))))) :=
    rewraps_ofCall (.refl _) (.trans _ _ _ (.rel _ _ (.here _)) (.rel _ _ (.here _)))
  obtain ⟨-, -, -, open'⟩ := messages_of_rewraps _ _ rewraps
  exact ⟨rewraps, (open' (by decide)).mpr (by decide)⟩

/-- One pair of parentheses around the callee, and the message is lost. -/
theorem message_lost_behind_wrapped_callee :
    (ofCall (.name "gettext") (.literal (.string "x"))).Rewraps
      (ofCall (.paren (.name "gettext")) (.literal (.string "x"))) ∧
    (ofCall (.name "gettext") (.literal (.string "x"))).findings.messages = ["x"] ∧
    (ofCall (.paren (.name "gettext")) (.literal (.string "x"))).findings.messages = [] := by
  refine ⟨rewraps_ofCall (.rel _ _ (.here _)) (.refl _), ?_, ?_⟩
  · decide
  · decide

end Program

end Potfile.Script
