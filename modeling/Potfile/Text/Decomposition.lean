import Potfile.Text.Decomposition.Class
import Potfile.Text.Decomposition.Mapping

/-! # Decomposition

Texts that mean the same may be written with different characters. The decomposition of a text
writes each character as its parts and puts the marks of each letter into the order of their
classes, so that all such texts have one decomposition.

* `orderMarks`: a text with its marks in the order of their classes.
* `decompose`: the decomposition of a text.
-/

namespace Potfile.Text

/-! ## Order of marks -/

section

variable (classOf : Char → Nat)

/-- Puts a mark in front of those that follow it, behind the marks of lower classes. -/
def insertMark (c : Char) : List Char → List Char
  | [] => [c]
  | d :: rest =>
    if classOf d ≠ 0 ∧ classOf d < classOf c then d :: insertMark c rest else c :: d :: rest

/-- Puts the marks of each letter into the order of their classes. Marks of one class keep
    their order. -/
def orderMarks : List Char → List Char
  | [] => []
  | c :: rest =>
    if classOf c = 0 then c :: orderMarks rest else insertMark classOf c (orderMarks rest)

end

/-! ## Decomposition -/

def decompose (cs : List Char) : List Char := orderMarks combiningClass (cs.flatMap parts)

end Potfile.Text
