import Potfile.Catalog
import Potfile.Proofs.Quoting
import Mathlib.Data.List.Basic

/-! # Reading a catalog

A reader for the text format of catalogs, by the quoting rules of that format alone.

* `Line.ofChars?`: one line of text. It is blank, a comment, or a quoted string with or without
  a keyword in front of it.
* `Message.ofBlock?`: one entry, from the lines between two blank ones. Quoted strings that
  follow each other are one string.
* `Catalog.read?`: a whole text, as the text of its headers and the messages behind them.

Reading fails where the text is no catalog.
-/

namespace Potfile

open Quoting (unquote)

/-- What an entry of a catalog says, without any quoting. -/
structure Message where
  references : List String := []
  text : String
  plural : Option String := none
  translations : List String
deriving DecidableEq, Repr

namespace Catalog

/-! ## Keywords -/

/-- The names of the strings of an entry. -/
inductive Keyword where
  | msgid
  | msgidPlural
  | msgstr
  /-- A numbered translation. -/
  | slot (index : Nat)
deriving DecidableEq, Repr

namespace Keyword

def name : Keyword → String
  | msgid => "msgid"
  | msgidPlural => "msgid_plural"
  | msgstr => "msgstr"
  | slot index => "msgstr[" ++ index.repr ++ "]"

def chars (keyword : Keyword) : List Char := keyword.name.toList

/-- The keyword that is written so. Between its brackets a slot has a decimal number. -/
def ofChars? (cs : List Char) : Option Keyword :=
  if cs = "msgid".toList then some msgid
  else if cs = "msgid_plural".toList then some msgidPlural
  else if cs = "msgstr".toList then some msgstr
  else
    let index := (cs.drop "msgstr[".toList.length).dropLast
    if cs = "msgstr[".toList ++ index ++ [']'] ∧ index ≠ [] ∧ index.all Char.isDigit then
      some (slot (Nat.ofDigitChars 10 index 0))
    else none

theorem chars_msgid : msgid.chars = "msgid".toList := rfl

theorem chars_msgidPlural : msgidPlural.chars = "msgid_plural".toList := rfl

theorem chars_msgstr : msgstr.chars = "msgstr".toList := rfl

theorem chars_slot (index : Nat) :
    (slot index).chars = "msgstr[".toList ++ Nat.toDigits 10 index ++ [']'] := by
  simp [chars, name]

theorem ofChars?_chars (keyword : Keyword) : ofChars? keyword.chars = some keyword := by
  cases keyword with
  | msgid | msgidPlural | msgstr => simp [ofChars?, chars, name]
  | slot index =>
    have digits : (Nat.toDigits 10 index).all Char.isDigit = true := by
      rw [List.all_eq_true]
      intro c member
      exact Nat.isDigit_of_mem_toDigits (by decide) (by decide) member
    have between : ((slot index).chars.drop "msgstr[".toList.length).dropLast =
        Nat.toDigits 10 index := by
      simp [chars_slot]
    have bracket : ∀ word : List Char, '[' ∉ word → (slot index).chars ≠ word := by
      rintro word absent rfl
      simp [chars_slot] at absent
    rw [ofChars?, if_neg (bracket _ (by simp)), if_neg (bracket _ (by simp)),
      if_neg (bracket _ (by simp))]
    simp only [between]
    rw [if_pos ⟨chars_slot index, Nat.toDigits_ne_nil, digits⟩, Nat.ofDigitChars_ten_toDigits]

theorem not_mem_chars {c : Char} (other : c = ' ' ∨ c = '\n') (keyword : Keyword) :
    c ∉ keyword.chars := by
  cases keyword with
  | msgid | msgidPlural | msgstr => rcases other with rfl | rfl <;> simp [chars, name]
  | slot index =>
    have digit : c ∉ Nat.toDigits 10 index := by
      intro member
      have := Nat.isDigit_of_mem_toDigits (by decide) (by decide) member
      rcases other with rfl | rfl <;> simp at this
    rcases other with rfl | rfl <;> simpa [chars_slot] using digit

theorem chars_eq_cons (keyword : Keyword) : ∃ rest, keyword.chars = 'm' :: rest := by
  cases keyword <;> simp [chars, name]

end Keyword

/-! ## Lines -/

/-- One line of a catalog. -/
inductive Line where
  | blank
  /-- A comment that names one location. -/
  | reference (text : List Char)
  /-- Any other comment. -/
  | comment
  /-- A string behind its keyword. -/
  | field (keyword : Keyword) (text : List Char)
  /-- A string that continues the one above it. -/
  | more (text : List Char)
deriving DecidableEq, Repr

namespace Line

def ofChars? : List Char → Option Line
  | [] => some blank
  | '#' :: ':' :: ' ' :: text => some (reference text)
  | '#' :: _ => some comment
  | '"' :: quoted => (unquote quoted).map more
  | cs =>
    match Keyword.ofChars? (cs.takeWhile (· ≠ ' ')), cs.dropWhile (· ≠ ' ') with
    | some keyword, ' ' :: '"' :: quoted => (unquote quoted).map (field keyword)
    | _, _ => none

def reference? : Line → Option (List Char)
  | reference text => some text
  | _ => none

/-- Whether the line holds a quoted string. -/
def isString : Line → Bool
  | field _ _ | more _ => true
  | _ => false

theorem ofChars?_field (keyword : Keyword) (quoted : List Char) :
    ofChars? (keyword.chars ++ ' ' :: '"' :: quoted) = (unquote quoted).map (field keyword) := by
  have word : ∀ c ∈ keyword.chars, decide (c ≠ ' ') = true := by
    intro c member
    have := Keyword.not_mem_chars (.inl rfl) keyword
    simp only [decide_eq_true_eq]
    rintro rfl
    exact this member
  obtain ⟨rest, starts⟩ := keyword.chars_eq_cons
  have read := Keyword.ofChars?_chars keyword
  rw [ofChars?.eq_def]
  split
  case h_5 =>
    rw [List.takeWhile_append_of_pos word, List.dropWhile_append_of_pos word]
    simp [read]
  -- No keyword starts like one of the other kinds of line.
  all_goals simp_all

end Line

/-! ## Entries -/

/-- The strings of an entry, each with its keyword. The first component holds the strings on
    top that have no keyword above them. -/
def strings : List Line → List Char × List (Keyword × List Char)
  | [] => ([], [])
  | .more text :: rest => (text ++ (strings rest).1, (strings rest).2)
  | .field keyword text :: rest => ([], (keyword, text ++ (strings rest).1) :: (strings rest).2)
  | _ :: rest => strings rest

/-- Translations that are numbered, without a gap, from `next` on. -/
def numbered? (next : Nat) : List (Keyword × List Char) → Option (List String)
  | [] => some []
  | (.slot index, text) :: rest =>
    if index = next then (numbered? (next + 1) rest).map (String.ofList text :: ·) else none
  | _ => none

/-- The translations of an entry: a single one without a number, or numbered ones. -/
def translations? : List (Keyword × List Char) → Option (List String)
  | [] => none
  | [(.msgstr, text)] => some [String.ofList text]
  | several => numbered? 0 several

end Catalog

open Catalog (Line)

/-- The entry of the lines between two blank ones. -/
def Message.ofBlock? (block : List Line) : Option Message :=
  let references := (block.filterMap Line.reference?).map String.ofList
  match Catalog.strings block with
  | ([], (.msgid, text) :: (.msgidPlural, plural) :: slots) =>
    (Catalog.translations? slots).map fun translations =>
      { references, text := String.ofList text, plural := some (String.ofList plural),
        translations }
  | ([], (.msgid, text) :: slots) =>
    (Catalog.translations? slots).map fun translations =>
      { references, text := String.ofList text, translations }
  | _ => none

/-! ## Texts -/

namespace Catalog

def readLines? (cs : List Char) : Option (List Line) := (cs.splitOn '\n').mapM Line.ofChars?

/-- The entries in the given lines: blank lines stand between them. -/
def readBlocks? (lines : List Line) : Option (List Message) :=
  ((lines.splitOn .blank).filter (· ≠ [])).mapM Message.ofBlock?

/-- The text of the headers, which is the translation of the empty message in front, and the
    messages that follow. -/
def read? (text : String) : Option (String × List Message) := do
  match ← (readLines? text.toList).bind readBlocks? with
  | { text, plural := none, translations := [headers], .. } :: messages =>
    if text = "" then some (headers, messages) else none
  | _ => none

end Catalog

end Potfile
