import Potfile.Markup.Token
import Potfile.Markup.CharacterReference

/-! # Cutting a source text into tokens

Nothing in a source text is an error: whatever is no tag, comment or declaration is text.

* `normalize`: the source text without its mark of byte order, and with one kind of line end.
* `Token.next`: the first tokens of a text, and what is left of it.
* `rawText`: the text up to the end tag of an element whose content is not cut into tokens.
-/

namespace Potfile.Markup

/-! ## Characters -/

/-- The blanks of the syntax. -/
def isSpace (c : Char) : Bool :=
  c == ' ' || c == '\n' || c == '\t' || c == '\x0c'

/-- Every line end as a line feed. -/
def normalizeLines : List Char → List Char
  | [] => []
  | '\r' :: '\n' :: cs => '\n' :: normalizeLines cs
  | '\r' :: cs => '\n' :: normalizeLines cs
  | c :: cs => c :: normalizeLines cs

/-- A source text without its mark of byte order, and with one kind of line end. -/
def normalize (source : String) : List Char :=
  match source.toList with
  | '\uFEFF' :: cs => normalizeLines cs
  | cs => normalizeLines cs

/-- The character itself, or the replacement of the null character. -/
def visible (c : Char) : Char := if c = '\x00' then replacementChar else c

/-- The letters of a name, in lower case. -/
def nameText (cs : List Char) : String := String.ofList (cs.map fun c => (visible c).toLower)

theorem length_dropWhile_le (p : α → Bool) (l : List α) : (l.dropWhile p).length ≤ l.length := by
  induction l with
  | nil => exact Nat.le_refl _
  | cons a l inductionHypothesis =>
    rw [List.dropWhile_cons]
    split
    · exact Nat.le_succ_of_le inductionHypothesis
    · exact Nat.le_refl _

/-! ## Attributes -/

/-- The value of an attribute up to the character at which `ends` holds, and the text from that
    character on. -/
def readValue (ends : Char → Bool) : List Char → List Char × List Char
  | [] => ([], [])
  | c :: cs =>
    if ends c then ([], c :: cs)
    else if c = '&' then
      match reference? true cs with
      | some (meaning, n) =>
        let behind := readValue ends (cs.drop n)
        (meaning ++ behind.1, behind.2)
      | none =>
        let behind := readValue ends cs
        (c :: behind.1, behind.2)
    else
      let behind := readValue ends cs
      (visible c :: behind.1, behind.2)
termination_by cs => cs.length
decreasing_by all_goals (simp only [List.length_drop, List.length_cons]; omega)

theorem length_readValue_le (ends : Char → Bool) (cs : List Char) :
    (readValue ends cs).2.length ≤ cs.length := by
  fun_induction readValue ends cs with
  | case1 => exact Nat.le_refl _
  | case2 => exact Nat.le_refl _
  | case3 _ _ _ _ _ _ inductionHypothesis =>
    refine Nat.le_succ_of_le (Nat.le_trans inductionHypothesis ?_)
    rw [List.length_drop]
    exact Nat.sub_le ..
  | case4 _ _ _ _ inductionHypothesis => exact Nat.le_succ_of_le inductionHypothesis
  | case5 _ _ _ _ _ inductionHypothesis => exact Nat.le_succ_of_le inductionHypothesis

/-- The value behind an equals sign. An unquoted value may be empty, and then the tag ends. -/
def readAssigned (cs : List Char) : String × List Char :=
  match cs.dropWhile isSpace with
  | [] => ("", [])
  | c :: rest =>
    if c = '"' ∨ c = '\'' then
      let (value, behind) := readValue (· == c) rest
      (String.ofList value, behind.drop 1)
    else
      let (value, behind) := readValue (fun x => isSpace x || x == '>') (c :: rest)
      (String.ofList value, behind)

theorem length_readAssigned_le (cs : List Char) : (readAssigned cs).2.length ≤ cs.length := by
  have trimmed := length_dropWhile_le isSpace cs
  unfold readAssigned
  split
  · exact Nat.zero_le _
  · next c rest behind =>
    rw [behind, List.length_cons] at trimmed
    split
    · have quoted := length_readValue_le (· == c) rest
      simp only [List.length_drop]
      omega
    · have unquoted := length_readValue_le (fun x => isSpace x || x == '>') (c :: rest)
      rw [List.length_cons] at unquoted
      exact Nat.le_trans unquoted trimmed

def endsName (c : Char) : Bool := isSpace c || c == '/' || c == '>' || c == '='

/-- The value of an attribute whose name has been read, and what follows. -/
def readRest (cs : List Char) : String × List Char :=
  match cs.dropWhile isSpace with
  | '=' :: rest => readAssigned rest
  | rest => ("", rest)

theorem length_readRest_le (cs : List Char) : (readRest cs).2.length ≤ cs.length := by
  have trimmed := length_dropWhile_le isSpace cs
  unfold readRest
  split
  · next rest behind =>
    rw [behind, List.length_cons] at trimmed
    exact Nat.le_trans (length_readAssigned_le rest) (Nat.le_of_succ_le trimmed)
  · exact trimmed

/-- An attribute and those before it; of two with one name the first counts. -/
def addAttribute (found : List Attribute) (a : Attribute) : List Attribute :=
  if found.any (·.name = a.name) then found else found ++ [a]

/-- The attributes of a tag up to its end. The flag tells that the tag closes itself. A tag that
    does not end before the text does is none. -/
def readAttributes (found : List Attribute) (cs : List Char) :
    Option (List Attribute × Bool × List Char) :=
  match cs with
  | [] => none
  | c :: rest =>
    if isSpace c then readAttributes found rest
    else if c = '>' then some (found, false, rest)
    else if c = '/' then
      if rest.head? = some '>' then some (found, true, rest.drop 1)
      else readAttributes found rest
    else
      let name := c :: rest.takeWhile (!endsName ·)
      let assigned := readRest (rest.dropWhile (!endsName ·))
      readAttributes (addAttribute found ⟨nameText name, assigned.1⟩) assigned.2
termination_by cs.length
decreasing_by
  · exact Nat.lt_succ_self _
  · exact Nat.lt_succ_self _
  · have behind := length_readRest_le (rest.dropWhile (!endsName ·))
    have named := length_dropWhile_le (!endsName ·) rest
    exact Nat.lt_succ_of_le (Nat.le_trans behind named)

/-! ## Declarations -/

/-- The text of a comment from behind its opening on. `bare` tells that nothing has been read
    yet, so that a bracket may end the comment at once. -/
def readComment (bare : Bool) : List Char → List Char × List Char
  | [] => ([], [])
  | c :: cs =>
    let whole := c :: cs
    match whole with
    | '>' :: rest => if bare then ([], rest) else
      let (text, behind) := readComment false cs
      ('>' :: text, behind)
    | '-' :: '>' :: rest => if bare then ([], rest) else
      let (text, behind) := readComment false cs
      ('-' :: text, behind)
    | '-' :: '-' :: '>' :: rest => ([], rest)
    | '-' :: '-' :: '!' :: '>' :: rest => ([], rest)
    | ['-', '-', '!'] => ([], [])
    | ['-', '-'] => ([], [])
    | ['-'] => ([], [])
    | _ =>
      let (text, behind) := readComment false cs
      (visible c :: text, behind)

/-- A comment that only goes to the next bracket. -/
def readShortComment (cs : List Char) : Token × List Char :=
  (.comment (String.ofList ((cs.takeWhile (· != '>')).map visible)),
    (cs.dropWhile (· != '>')).drop 1)

/-- What stands behind `word` in front of `cs`, in whatever letter case. -/
def afterWord? : (word cs : List Char) → Option (List Char)
  | [], cs => some cs
  | _ :: _, [] => none
  | w :: word, c :: cs => if w = c.toLower then afterWord? word cs else none

/-- A quoted identifier; the flag tells that its quote is missing. -/
def readIdentifier (cs : List Char) : Option (String × Bool × List Char) :=
  match cs with
  | c :: rest =>
    if c = '"' ∨ c = '\'' then
      let ends (x : Char) : Bool := x == c || x == '>'
      let text := String.ofList ((rest.takeWhile (!ends ·)).map visible)
      match rest.dropWhile (!ends ·) with
      | [] => some (text, true, [])
      | e :: behind => if e = c then some (text, false, behind) else some (text, true, e :: behind)
    else none
  | [] => none

/-- The end of a declaration. -/
def afterBracket (cs : List Char) : List Char := (cs.dropWhile (· != '>')).drop 1

/-- A document type from behind its keyword on. -/
def readDoctype (cs : List Char) : Doctype × List Char :=
  let endsHere (d : Doctype) (cs : List Char) : Doctype × List Char :=
    match cs.dropWhile isSpace with
    | [] => ({ d with isBroken := true }, [])
    | rest => (d, afterBracket rest)
  let system (d : Doctype) (isRequired : Bool) (cs : List Char) : Doctype × List Char :=
    match cs.dropWhile isSpace with
    | [] => ({ d with isBroken := true }, [])
    | '>' :: rest => ({ d with isBroken := isRequired }, rest)
    | rest =>
      match readIdentifier rest with
      | none => ({ d with isBroken := true }, afterBracket rest)
      | some (text, true, behind) =>
        ({ d with systemId := some text, isBroken := true }, afterBracket behind)
      | some (text, false, behind) => endsHere { d with systemId := some text } behind
  match cs.dropWhile isSpace with
  | [] => ({ isBroken := true }, [])
  | '>' :: rest => ({ isBroken := true }, rest)
  | rest =>
    let ends (c : Char) : Bool := isSpace c || c == '>'
    let d : Doctype := { name := some (nameText (rest.takeWhile (!ends ·))) }
    match (rest.dropWhile (!ends ·)).dropWhile isSpace with
    | [] => ({ d with isBroken := true }, [])
    | '>' :: behind => (d, behind)
    | behind =>
      match afterWord? "public".toList behind with
      | some keyed =>
        match readIdentifier (keyed.dropWhile isSpace) with
        | none => ({ d with isBroken := true }, afterBracket keyed)
        | some (text, true, behind) =>
          ({ d with publicId := some text, isBroken := true }, afterBracket behind)
        | some (text, false, behind) => system { d with publicId := some text } false behind
      | none =>
        match afterWord? "system".toList behind with
        | some keyed => system d true keyed
        | none => ({ d with isBroken := true }, afterBracket behind)

/-- The text of a section of plain characters, up to its end mark. -/
def readPlainSection : List Char → List Char × List Char
  | [] => ([], [])
  | c :: cs =>
    match c :: cs with
    | ']' :: ']' :: '>' :: rest => ([], rest)
    | _ =>
      let (text, behind) := readPlainSection cs
      (c :: text, behind)

/-- A declaration, from behind its exclamation mark on. Sections of plain characters exist
    only where `isForeign` tells so. -/
def readDeclaration (isForeign : Bool) (cs : List Char) : List Token × List Char :=
  match cs with
  | '-' :: '-' :: rest =>
    let (text, behind) := readComment true rest
    ([.comment (String.ofList text)], behind)
  | _ =>
    match afterWord? "doctype".toList cs with
    | some rest =>
      let (d, behind) := readDoctype rest
      ([.doctype d], behind)
    | none =>
      match cs with
      | '[' :: 'C' :: 'D' :: 'A' :: 'T' :: 'A' :: '[' :: rest =>
        if isForeign then
          let (text, behind) := readPlainSection rest
          (text.map .char, behind)
        else
          let (token, behind) := readShortComment cs
          ([token], behind)
      | _ =>
        let (token, behind) := readShortComment cs
        ([token], behind)

/-! ## Tokens -/

/-- A tag whose name begins in front of `cs`. Text that ends inside a tag is lost with it. -/
def readTag (isEnd : Bool) (cs : List Char) : List Token × List Char :=
  let ends (c : Char) : Bool := isSpace c || c == '/' || c == '>'
  let name := nameText (cs.takeWhile (!ends ·))
  match readAttributes [] (cs.dropWhile (!ends ·)) with
  | none => ([], [])
  | some (attributes, isSelfClosing, rest) =>
    (if isEnd then [.endTag name] else [.startTag { name, attributes, isSelfClosing }], rest)

/-- The tokens behind an opening bracket. -/
def readBracket (isForeign : Bool) (cs : List Char) : List Token × List Char :=
  match cs with
  | '!' :: rest => readDeclaration isForeign rest
  | '/' :: [] => ([.char '<', .char '/'], [])
  | '/' :: '>' :: rest => ([], rest)
  | '/' :: c :: rest =>
    if c.isAlpha then readTag true (c :: rest)
    else
      let (token, behind) := readShortComment (c :: rest)
      ([token], behind)
  | '?' :: _ =>
    let (token, behind) := readShortComment cs
    ([token], behind)
  | c :: _ => if c.isAlpha then readTag false cs else ([.char '<'], cs)
  | [] => ([.char '<'], [])

/-- The first tokens of a text that is not empty, and what is left of it. There may be none,
    and several for one character reference. -/
def Token.next (isForeign : Bool) (cs : List Char) : List Token × List Char :=
  match cs with
  | [] => ([.endOfFile], [])
  | '<' :: rest => readBracket isForeign rest
  | '&' :: rest =>
    match reference? false rest with
    | some (meaning, n) => (meaning.map .char, rest.drop n)
    | none => ([.char '&'], rest)
  | c :: rest => ([.char c], rest)

/-! ## Raw text -/

/-- The kinds of content that are not cut into tokens. -/
inductive RawKind where
  /-- Text with character references. -/
  | references
  | plain
  /-- A script, in which comments may hide tags. -/
  | script
  /-- Everything up to the end of the source. -/
  | endless
deriving DecidableEq, Repr, Inhabited

/-- An end tag of the given name begins behind the bracket in front of `cs`. -/
def endsElement (name cs : List Char) : Bool :=
  match cs with
  | '/' :: rest =>
    match afterWord? name rest with
    | some (c :: _) => isSpace c || c == '/' || c == '>'
    | _ => false
  | _ => false

/-- How far a script is inside a comment: not at all, in a comment, or in a script element
    inside a comment. -/
inductive ScriptDepth where
  | outside
  | comment
  | element
deriving DecidableEq

/-- Text up to the end tag of the element `name`, without comments. -/
def readRaw (withReferences : Bool) (name : List Char) : List Char → List Char × List Char
  | [] => ([], [])
  | c :: cs =>
    if c = '<' ∧ endsElement name cs then ([], c :: cs)
    else if c = '&' ∧ withReferences then
      match reference? false cs with
      | some (meaning, n) =>
        let (text, rest) := readRaw withReferences name (cs.drop n)
        (meaning ++ text, rest)
      | none =>
        let (text, rest) := readRaw withReferences name cs
        (c :: text, rest)
    else
      let (text, rest) := readRaw withReferences name cs
      (visible c :: text, rest)
termination_by cs => cs.length
decreasing_by all_goals (simp only [List.length_drop, List.length_cons]; omega)

/-- Letters in front of `cs`, if a blank, a slash or a bracket ends them. -/
def scriptWord? (cs : List Char) : Option (List Char) :=
  let letters := cs.takeWhile Char.isAlpha
  match cs.drop letters.length with
  | c :: _ => if isSpace c || c == '/' || c == '>' then some (letters.map Char.toLower) else none
  | [] => none

/-- The text of a script. `dashes` counts the hyphens in front of `cs` inside a comment. -/
def readScript (depth : ScriptDepth) (dashes : Nat) : List Char → List Char × List Char
  | [] => ([], [])
  | c :: cs =>
    if c = '<' ∧ depth ≠ .element ∧ endsElement "script".toList cs then ([], c :: cs)
    else
      let opens := cs.take 3 = "!--".toList
      let word := scriptWord? (if cs.head? = some '/' then cs.drop 1 else cs)
      let isScript := word = some "script".toList
      let closes := c = '>' ∧ 2 ≤ dashes
      let (depth, dashes) := match depth with
        -- The hyphens of the opening mark count for the closing one too.
        | .outside => if c = '<' ∧ opens then (.comment, 0) else (.outside, 0)
        | .comment =>
          if closes then (.outside, 0)
          else if c = '<' ∧ cs.head? ≠ some '/' ∧ isScript then (.element, 0)
          else (.comment, if c = '-' then dashes + 1 else 0)
        | .element =>
          if closes then (.outside, 0)
          else if c = '<' ∧ cs.head? = some '/' ∧ isScript then (.comment, 0)
          else (.element, if c = '-' then dashes + 1 else 0)
      let (text, rest) := readScript depth dashes cs
      (visible c :: text, rest)

/-- The text up to the end tag of the element `name`, and what is left from that tag on. -/
def rawText (kind : RawKind) (name : String) (cs : List Char) : List Char × List Char :=
  match kind with
  | .references => readRaw true name.toList cs
  | .plain => readRaw false name.toList cs
  | .script => readScript .outside 0 cs
  | .endless => (cs.map visible, [])

end Potfile.Markup
