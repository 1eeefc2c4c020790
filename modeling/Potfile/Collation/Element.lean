/-! # Collation elements

Texts are compared by the elements of their characters. An element has a weight on each of
three levels: the first tells letters apart, the second accents, the third case and form. A
weight of zero takes no part on its level.

* `Element`: the weights of an element.
* `Weight.ofRank`: the weight of what has a given rank, with room for others behind it.
-/

namespace Potfile.Collation

inductive LetterCase where
  | lower
  | mixed
  | upper
deriving DecidableEq, Repr, Inhabited

def LetterCase.join : LetterCase → LetterCase → LetterCase
  | lower, lower => lower
  | upper, upper => upper
  | _, _ => mixed

namespace Weight

/-- The distance of neighbours. -/
def spacing : Nat := 1024

/-- The weight of what has a given rank among its kind. -/
def ofRank (rank : Nat) : Nat := spacing * rank

/-- A weight with room behind it, in front of a given one and behind the one before it. -/
def before (weight : Nat) : Nat := weight - spacing / 2

end Weight

structure Element where
  primary : Nat
  secondary : Nat
  tertiary : Nat
  letterCase : LetterCase := .lower
deriving DecidableEq, Repr, Inhabited

end Potfile.Collation
