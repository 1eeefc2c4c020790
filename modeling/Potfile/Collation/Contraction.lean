import Potfile.Collation.Root

/-! # Contractions

A sequence of characters may be ordered as one letter. Its marks need not follow each other:
other marks may stand between them, if they attach to other places.

* `Contractions.elements`: the elements of a decomposed text.
-/

namespace Potfile.Collation

/-- Sequences of characters, with their elements. Of two for the same sequence, the first one
    counts. -/
abbrev Contractions := List (List Char × List Element)

namespace Contractions

/-- The longest sequence at the front of a text. -/
def longest? (m : Contractions) (cs : List Char) : Option (List Char × List Element) :=
  (m.filter fun entry => entry.1.isPrefixOf cs).foldl longer none
where
  longer : Option (List Char × List Element) → List Char × List Element →
      Option (List Char × List Element)
    | none, entry => some entry
    | some best, entry => if best.1.length < entry.1.length then some entry else some best

/-- Takes up the marks that go on with a sequence, out of those that follow it. A mark is
    blocked by one of its own class in front of it that is not taken up: `last` is the class of
    the last such mark. The result is the longer sequence and what is left behind it. -/
def takeMarks (classOf : Char → Nat) (m : Contractions) (found : List Char × List Element)
    (last : Nat) : List Char → (List Char × List Element) × List Char
  | [] => (found, [])
  | c :: rest =>
    if classOf c = 0 then (found, c :: rest)
    else
      match if last < classOf c then m.lookup (found.1 ++ [c]) else none with
      | some elements => takeMarks classOf m (found.1 ++ [c], elements) last rest
      | none =>
        let (longer, behind) := takeMarks classOf m found (classOf c) rest
        (longer, c :: behind)

theorem length_takeMarks_le (classOf : Char → Nat) (m : Contractions)
    (found : List Char × List Element) (last : Nat) (cs : List Char) :
    (takeMarks classOf m found last cs).2.length ≤ cs.length := by
  induction cs generalizing found last with
  | nil => simp [takeMarks]
  | cons c rest inductionHypothesis =>
    unfold takeMarks
    split
    · exact Nat.le_refl _
    · split
      · exact Nat.le_succ_of_le (inductionHypothesis _ _)
      · exact Nat.succ_le_succ (inductionHypothesis _ _)

/-- The sequence at the front of the text `c :: rest` that is ordered as one letter, if only by
    itself. -/
def start (m : Contractions) (c : Char) (rest : List Char) : List Char × List Element :=
  (m.longest? (c :: rest)).getD ([c], Root.elements c)

/-- What stands at the front of the text `c :: rest`, with its elements, and what is left of
    the text. -/
def next (m : Contractions) (c : Char) (rest : List Char) :
    (List Char × List Element) × List Char :=
  takeMarks Text.combiningClass m (m.start c rest) 0 (rest.drop ((m.start c rest).1.length - 1))

theorem length_next_le (m : Contractions) (c : Char) (rest : List Char) :
    (next m c rest).2.length ≤ rest.length := by
  unfold next
  refine Nat.le_trans (length_takeMarks_le _ _ _ _ _) ?_
  rw [List.length_drop]
  exact Nat.sub_le _ _

def startingWith (m : Contractions) (c : Char) : Contractions :=
  m.filter fun entry => entry.1.head? == some c

/-- The elements of the letters of a decomposed text, in the order in which they are
    spoken. -/
def letters (m : Contractions) (cs : List Char) : List Element :=
  match cs with
  | [] => []
  | c :: rest =>
    ((m.startingWith c).next c rest).1.2 ++ letters m ((m.startingWith c).next c rest).2
termination_by cs.length
decreasing_by exact Nat.lt_succ_of_le (length_next_le _ c rest)

def elements (m : Contractions) (cs : List Char) : List Element :=
  letters m (Root.swapVowels (Text.decompose cs))

end Contractions

end Potfile.Collation
