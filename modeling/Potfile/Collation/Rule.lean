import Potfile.Collation.Contraction

/-! # Rules of languages

A language changes the order of some letters. Its rules are written as in the Common Locale
Data Repository: `&C<č<<<Č` says that `č` is a letter of its own behind `C`, and that `Č`
differs from it in case.

* `Rule.parse`: the rules of a text.
* `Rule.apply`: the contractions of a language.
-/

namespace Potfile.Collation

/-- The levels on which two letters may differ. -/
inductive Difference where
  | letter
  | accent
  | form
  | none
deriving DecidableEq, Repr, Inhabited

inductive Rule where
  /-- The following rules place letters behind this text. -/
  | behind (anchor : List Char)
  /-- The following rules place letters in front of the last letter of this text, and behind
      all other letters in front of it. -/
  | before (anchor : List Char)
  /-- The text comes right behind what the rule in front of this one placed. -/
  | place (difference : Difference) (text : List Char)
  /-- The text that was placed last is ordered as if this text stood behind it. -/
  | expand (text : List Char)
deriving DecidableEq, Repr, Inhabited

namespace Rule

/-! ## Reading -/

def isOperator (c : Char) : Bool := c ∈ ['&', '<', '=', '/']

/-- What stands in front of a letter to place others in front of it. -/
def beforeMark : List Char := "[before1]".toList

/-- The rule of an operator and the text behind it. -/
def ofOperator? (operator text : List Char) : Option Rule :=
  match operator with
  | ['&'] =>
    if beforeMark.isPrefixOf text then some (.before (text.drop beforeMark.length))
    else some (.behind text)
  | ['<'] => some (.place .letter text)
  | ['<', '<'] => some (.place .accent text)
  | ['<', '<', '<'] => some (.place .form text)
  | ['='] => some (.place .none text)
  | ['/'] => some (.expand text)
  | _ => none

/-- The rules of operators and texts in turn. -/
def ofGroups : List (List Char) → List Rule
  | operator :: text :: rest => (ofOperator? operator text).toList ++ ofGroups rest
  | _ => []

def isBlank (c : Char) : Bool := c == ' ' || c == '\n'

/-- The rules of a text. Blanks do not count. -/
def parse (text : String) : List Rule :=
  ofGroups ((text.toList.filter (!isBlank ·)).splitBy fun a b => isOperator a == isOperator b)

/-! ## Effect -/

/-- Where a language has got to: its contractions so far, and the elements behind which the
    next text comes. -/
structure State where
  contractions : Contractions
  position : List Element

def changeLast (f : Element → Element) : List Element → List Element
  | [] => []
  | [e] => [f e]
  | e :: rest => e :: changeLast f rest

/-- The element right behind another one, different on a given level. -/
def after : Difference → Element → Element
  | .letter, e =>
    { primary := e.primary + 1, secondary := Root.noAccent, tertiary := Root.noForm }
  | .accent, e => { e with secondary := e.secondary + 1, tertiary := Root.noForm }
  | .form, e => { e with tertiary := e.tertiary + 1 }
  | .none, e => e

/-- The cases of the letters of a text, in the root collation. -/
def casesOf (text : List Char) : List LetterCase :=
  ((Contractions.elements Root.sequences text).filter (·.primary ≠ 0)).map (·.letterCase)

/-- Gives letters the cases of the text for which they stand: the last one gets those of all
    that is left. -/
def setCases : List LetterCase → List Element → List Element
  | _, [] => []
  | cases, e :: rest =>
    if e.primary = 0 then { e with letterCase := .lower } :: setCases cases rest
    else match cases with
      | [] => { e with letterCase := .lower } :: setCases [] rest
      | c :: more =>
        if rest.any (·.primary ≠ 0) then { e with letterCase := c } :: setCases more rest
        else { e with letterCase := more.foldl .join c } :: setCases [] rest

def step (s : State) : Rule → State
  | .behind anchor => { s with position := s.contractions.elements anchor }
  | .before anchor =>
    let lower (e : Element) : Element := { e with primary := Weight.before e.primary }
    { s with position := changeLast lower (s.contractions.elements anchor) }
  | .place difference text =>
    let position := changeLast (after difference) s.position
    { contractions := (Text.decompose text, setCases (casesOf text) position) :: s.contractions,
      position }
  | .expand text => match s.contractions with
    | [] => s
    | (placed, elements) :: rest =>
      { s with contractions := (placed, elements ++ s.contractions.elements text) :: rest }

/-- The contractions of a language: those of the root collation, and what its rules place. -/
def apply (root : Contractions) (rules : List Rule) : Contractions :=
  (rules.foldl step { contractions := root, position := [] }).contractions

end Rule

end Potfile.Collation
