/-! # Language tags

A tag names a language, and perhaps a script, a region, variants and extensions, as subtags
between hyphens or underscores. Letter case does not count.

* `Locale.parse`: the parts of a tag, or the kind of subtag that does not fit.
* `Locale.render`: the tag in its canonical form.
-/

namespace Potfile

inductive TagError where
  | language
  | subtag
  | extension
  | duplicate
deriving DecidableEq, Repr, Inhabited

def TagError.name : TagError → String
  | language => "InvalidLanguage"
  | subtag => "InvalidSubtag"
  | extension => "InvalidExtension"
  | duplicate => "DuplicatedExtension"

/-- A language with its script, region and variants, each subtag in its canonical case. -/
structure LanguageId where
  language : String
  script : Option String := none
  region : Option String := none
  variants : List String := []
deriving DecidableEq, Repr, Inhabited

/-- A key and its values; without values the key stands alone. -/
abbrev Keyword := String × List String

/-- A language with extensions. -/
structure Locale where
  id : LanguageId
  /-- Extensions under other letters than `t`, `u` and `x`. -/
  other : List (Char × List String) := []
  /-- The language in front of the fields of the extension `t`. -/
  transformed : Option LanguageId := none
  fields : List Keyword := []
  attributes : List String := []
  /-- The keywords of the extension `u`. -/
  keywords : List Keyword := []
  privateUse : List String := []
deriving DecidableEq, Repr, Inhabited

namespace Locale

/-! ## Kinds of subtags -/

/-- The subtags of a tag, in lower case. -/
def subtags (tag : String) : List (List Char) := go tag.toList
where
  go : List Char → List (List Char)
    | [] => [[]]
    | c :: cs =>
      if c = '-' ∨ c = '_' then [] :: go cs
      else match go cs with
        | [] => [[c.toLower]]
        | s :: rest => (c.toLower :: s) :: rest

def allAlpha (s : List Char) : Bool := s.all Char.isAlpha

def allAlphanum (s : List Char) : Bool := s.all Char.isAlphanum

def isLanguage (s : List Char) : Bool := 2 ≤ s.length && s.length ≤ 3 && allAlpha s

def isScript (s : List Char) : Bool := s.length == 4 && allAlpha s

def isRegion (s : List Char) : Bool :=
  (s.length == 2 && allAlpha s) || (s.length == 3 && s.all Char.isDigit)

def isVariant (s : List Char) : Bool :=
  allAlphanum s && ((5 ≤ s.length && s.length ≤ 8) ||
    (s.length == 4 && (s.head?.any Char.isDigit)))

/-- A value inside an extension. -/
def isValue (s : List Char) : Bool := 3 ≤ s.length && s.length ≤ 8 && allAlphanum s

def isUnicodeKey : List Char → Bool
  | [a, b] => a.isAlphanum && b.isAlpha
  | _ => false

def isFieldKey : List Char → Bool
  | [a, b] => a.isAlpha && b.isDigit
  | _ => false

def text (s : List Char) : String := String.ofList s

/-- The subtag with a capital letter in front. -/
def titleCase : List Char → String
  | [] => ""
  | c :: cs => String.ofList (c.toUpper :: cs)

/-! ## Sorted parts -/

/-- Puts a text into an ascending list, unless it is there already. -/
def insertText (x : String) : List String → List String
  | [] => [x]
  | y :: ys => if x < y then x :: y :: ys else if x = y then y :: ys else y :: insertText x ys

/-- Puts a keyword into a list that ascends by key, unless its key is there already. -/
def insertKeyword (x : Keyword) : List Keyword → List Keyword
  | [] => [x]
  | y :: ys =>
    if x.1 < y.1 then x :: y :: ys else if x.1 = y.1 then y :: ys else y :: insertKeyword x ys

/-! ## Reading -/

/-- How far a language has been read. -/
inductive Position where
  | script
  | region
  | variant
deriving DecidableEq

/-- Reads script, region and variants. In front of extensions, a subtag of one letter ends
    them, and any other that does not fit is an error. -/
def parseParts (isWhole : Bool) : Position → LanguageId → List (List Char) →
    Except TagError (LanguageId × List (List Char))
  | _, id, [] => .ok (id, [])
  | position, id, s :: rest =>
    if isWhole && s.length == 1 then .ok (id, s :: rest)
    else if position = .script ∧ isScript s then
      parseParts isWhole .region { id with script := some (titleCase s) } rest
    else if position ≠ .variant ∧ isRegion s then
      parseParts isWhole .variant { id with region := some ((text s).toUpper) } rest
    else if isVariant s ∧ ¬(position = .variant ∧ text s ∈ id.variants) then
      parseParts isWhole .variant { id with variants := insertText (text s) id.variants } rest
    else if isWhole then .error .subtag
    else .ok (id, s :: rest)

/-- Splits off the values at the front; the value `true` is left out. -/
def values : List (List Char) → List String × List (List Char)
  | [] => ([], [])
  | s :: rest =>
    if isValue s then
      let (vs, behind) := values rest
      (if text s = "true" then vs else text s :: vs, behind)
    else ([], s :: rest)

theorem length_values_le (ss : List (List Char)) : (values ss).2.length ≤ ss.length := by
  induction ss with
  | nil => simp [values]
  | cons s rest inductionHypothesis =>
    simp only [values]
    split
    · exact Nat.le_succ_of_le inductionHypothesis
    · exact Nat.le_refl _

/-- The keywords at the front. A subtag of two characters must be a key. -/
def parseKeywords (found : List Keyword) (ss : List (List Char)) :
    Except TagError (List Keyword × List (List Char)) :=
  match ss with
  | [] => .ok (found, [])
  | s :: rest =>
    if s.length ≠ 2 then .ok (found, s :: rest)
    else if !isUnicodeKey s then .error .extension
    else parseKeywords (insertKeyword (text s, (values rest).1) found) (values rest).2
termination_by ss.length
decreasing_by exact Nat.lt_succ_of_le (length_values_le rest)

/-- The fields of a transformation at the front. Each needs a value. -/
def parseFields (found : List Keyword) (ss : List (List Char)) :
    Except TagError (List Keyword × List (List Char)) :=
  match ss with
  | [] => .ok (found, [])
  | s :: rest =>
    if !isFieldKey s then .ok (found, s :: rest)
    else if (values rest).2.length = rest.length then .error .extension
    else parseFields (insertKeyword (text s, (values rest).1) found) (values rest).2
termination_by ss.length
decreasing_by exact Nat.lt_succ_of_le (length_values_le rest)

/-- The attributes at the front of the extension `u`. -/
def parseAttributes (ss : List (List Char)) : List String × List (List Char) :=
  ((ss.takeWhile isValue).foldl (fun found s => insertText (text s) found) [],
    ss.dropWhile isValue)

/-- One extension behind its letter: the locale with it, and what follows. -/
def parseExtension (letter : Char) (ss : List (List Char)) (seen : List Char) (l : Locale) :
    Except TagError (Locale × List (List Char)) := do
  if letter ∈ seen then throw .duplicate
  match letter with
  | 'u' =>
    let (attributes, ss) := parseAttributes ss
    let (keywords, ss) ← parseKeywords [] ss
    if attributes.isEmpty && keywords.isEmpty then throw .extension
    return ({ l with attributes, keywords }, ss)
  | 't' =>
    let (transformed, ss) ← match ss with
      | s :: rest =>
        if isLanguage s then do
          let (id, behind) ← parseParts false .script { language := text s } rest
          pure (some id, behind)
        else pure (none, ss)
      | [] => pure (none, ss)
    let (fields, ss) ← parseFields [] ss
    if transformed.isNone && fields.isEmpty then throw .extension
    return ({ l with transformed, fields }, ss)
  | 'x' =>
    if ss.all fun s => 1 ≤ s.length && s.length ≤ 8 && allAlphanum s then
      return ({ l with privateUse := ss.map text }, [])
    else throw .extension
  | _ =>
    let fits (s : List Char) : Bool := 2 ≤ s.length && s.length ≤ 8
    let keys := (ss.takeWhile fits).filter allAlphanum
    return ({ l with other := l.other ++ [(letter, keys.map text)] }, ss.dropWhile fits)

/-- The extensions. There are at most as many as subtags. -/
def parseExtensions : (fuel : Nat) → (seen : List Char) → Locale → List (List Char) →
    Except TagError Locale
  | _, _, l, [] => .ok l
  | 0, _, l, _ :: _ => .ok l
  | fuel + 1, seen, l, s :: rest =>
    match s with
    | [letter] =>
      if letter.isAlpha then do
        let (l, behind) ← parseExtension letter rest seen l
        parseExtensions fuel (letter :: seen) l behind
      else .error .extension
    | _ => .error .extension

def parse (tag : String) : Except TagError Locale :=
  match subtags tag with
  | [] => .error .language
  | s :: rest =>
    if isLanguage s then do
      let (id, behind) ← parseParts true .script { language := text s } rest
      parseExtensions behind.length [] { id } behind
    else .error .language

/-! ## Canonical form -/

def idSubtags (id : LanguageId) : List String :=
  id.language :: id.script.toList ++ id.region.toList ++ id.variants

/-- The subtags of the extensions that come in the order of their letters. -/
def extensionSubtags (l : Locale) : List String :=
  let plain (e : Char × List String) : List String := String.singleton e.1 :: e.2
  let before := l.other.filter (·.1 < 't')
  let behind := l.other.filter ('t' < ·.1)
  let sorted (es : List (Char × List String)) := es.mergeSort fun a b => a.1 ≤ b.1
  let transform :=
    if l.transformed.isNone && l.fields.isEmpty then []
    else "t" :: (l.transformed.map fun id => (idSubtags id).map String.toLower).getD [] ++
      l.fields.flatMap fun f => f.1 :: (if f.2.isEmpty then ["true"] else f.2)
  let unicode :=
    if l.attributes.isEmpty && l.keywords.isEmpty then []
    else "u" :: l.attributes ++ l.keywords.flatMap fun k => k.1 :: k.2
  (sorted before).flatMap plain ++ transform ++ unicode ++ (sorted behind).flatMap plain ++
    (if l.privateUse.isEmpty then [] else "x" :: l.privateUse)

/-- The tag in its canonical form. -/
def render (l : Locale) : String :=
  "-".intercalate (idSubtags l.id ++ extensionSubtags l)

/-- The collation that the tag asks for: the values of the keyword `co`. -/
def collation? (l : Locale) : Option String :=
  (l.keywords.lookup "co").map ("-".intercalate ·)

/-- The locale of no language in particular. -/
def undetermined : Locale := { id := { language := "und" } }

end Locale

end Potfile
