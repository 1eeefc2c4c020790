import Potfile.Collation.Root

/-! # Sort keys

The key of a text is the list of its weights, level by level: texts compare as their keys do.
So accents decide only between texts of the same letters, and case and form only between texts
with the same accents too.

* `Style`: what a language asks for beside its letters.
* `Style.key`: the key of a text with given elements.
-/

namespace Potfile.Collation

/-- The letters of a script: those with first weights from `first` on, in front of `behind`. -/
structure Script where
  first : Nat
  behind : Nat
deriving DecidableEq, Repr, Inhabited

namespace Script

def holds (s : Script) (primary : Nat) : Bool := s.first ≤ primary && primary < s.behind

/-- The script that starts with one letter and ends in front of another. -/
def between (first behind : Nat) : Script := ⟨Root.primary first, Root.primary behind⟩

end Script

structure Style where
  /-- The scripts whose letters come in front of all other letters. -/
  leading : List Script := []
  /-- Capital letters come in front of small ones. -/
  capitalsFirst : Bool := false
  /-- The last difference of accents decides, and not the first one. -/
  accentsFromEnd : Bool := false
deriving Repr, Inhabited

namespace Style

/-- The first weight of the first letter. What has a lower weight belongs to no script. -/
def firstLetter : Nat := Root.primary 'a'.toNat

/-- A number above all weights. -/
def span : Nat := Weight.ofRank (8 * Root.codePoints)

/-- A first weight, moved so that the letters of leading scripts come first. -/
def place (style : Style) (primary : Nat) : Nat :=
  if style.leading.isEmpty || primary < firstLetter then primary
  else span * (style.leading.findIdx (·.holds primary) + 1) + primary

/-- The place of a case where capital letters come first. -/
def capitalRank : LetterCase → Nat
  | .upper => 1
  | .mixed => 2
  | .lower => 3

def third (style : Style) (e : Element) : Nat :=
  if style.capitalsFirst then span * capitalRank e.letterCase + e.tertiary else e.tertiary

/-- The weights that take part on each level, with a zero between the levels. -/
def key (style : Style) (es : List Element) : List Nat :=
  let first := (es.filter (·.primary ≠ 0)).map (style.place ·.primary)
  let second := (es.filter (·.secondary ≠ 0)).map (·.secondary)
  let third := (es.filter (·.tertiary ≠ 0)).map style.third
  first ++ 0 :: (if style.accentsFromEnd then second.reverse else second) ++ 0 :: third

end Style

end Potfile.Collation
