import Potfile.Quoting
import Mathlib.Data.List.Basic

/-! # Reading quoted text

The inverse of the quoting rules.

* `unquote` reads the inside of a quoted string up to the quote that closes it.
* `unquote_escape`, `unquote_quotedChars`: it gives back what was written, with the control
  characters escaped or not.
* `escape_injective`: two texts with one escaped form are the same text.
-/

namespace Potfile.Quoting

/-- The character that an escape letter stands for. -/
def escapedBy? : Char → Option Char
  | '\\' => some '\\'
  | '"' => some '"'
  | 'n' => some '\n'
  | 't' => some '\t'
  | 'r' => some '\r'
  | 'a' => some '\x07'
  | 'b' => some '\x08'
  | 'v' => some '\x0b'
  | 'f' => some '\x0c'
  | _ => none

/-- The text of a quoted string, given what stands behind its opening quote. Nothing may
    follow the closing quote, and a backslash has to stand in front of an escape letter. -/
def unquote : List Char → Option (List Char)
  | [] => none
  | ['"'] => some []
  | '"' :: _ => none
  | ['\\'] => none
  | '\\' :: letter :: rest =>
    match escapedBy? letter with
    | some c => (unquote rest).map (c :: ·)
    | none => none
  | c :: rest => (unquote rest).map (c :: ·)

/-- One character as it stands in a quoted string on a line. A line feed has no form of its
    own: the line ends there. -/
def quotedChar (c : Char) : List Char := (escapeChar c).flatMap controlChar

/-! ## Step lemmas -/

theorem unquote_cons {c : Char} (quote : c ≠ '"') (backslash : c ≠ '\\') (rest : List Char) :
    unquote (c :: rest) = (unquote rest).map (c :: ·) := by
  rw [unquote.eq_def]
  split <;> simp_all

theorem unquote_letter {letter c : Char} (stands : escapedBy? letter = some c)
    (rest : List Char) :
    unquote ('\\' :: letter :: rest) = (unquote rest).map (c :: ·) := by
  simp only [unquote, stands]

theorem unquote_escapeChar (c : Char) (rest : List Char) :
    unquote (escapeChar c ++ rest) = (unquote rest).map (c :: ·) := by
  unfold escapeChar
  split
  · next backslash => subst backslash; exact unquote_letter rfl rest
  · next backslash =>
    split
    · next quote => subst quote; exact unquote_letter rfl rest
    · next quote => exact unquote_cons quote backslash rest

theorem unquote_controlChar {c : Char} (quote : c ≠ '"') (backslash : c ≠ '\\')
    (rest : List Char) :
    unquote (controlChar c ++ rest) = (unquote rest).map (c :: ·) := by
  unfold controlChar
  split_ifs
  all_goals first
    | (subst c; exact unquote_letter rfl rest)
    | exact unquote_cons quote backslash rest

theorem quotedChar_of_plain {c : Char} (quote : c ≠ '"') (backslash : c ≠ '\\') :
    quotedChar c = controlChar c := by
  simp [quotedChar, escapeChar, quote, backslash]

theorem unquote_quotedChar (c : Char) (rest : List Char) :
    unquote (quotedChar c ++ rest) = (unquote rest).map (c :: ·) := by
  by_cases backslash : c = '\\'
  · subst backslash
    exact unquote_letter rfl rest
  · by_cases quote : c = '"'
    · subst quote
      exact unquote_letter rfl rest
    · rw [quotedChar_of_plain quote backslash]
      exact unquote_controlChar quote backslash rest

theorem not_mem_quotedChar {c : Char} (other : c ≠ '\n') : '\n' ∉ quotedChar c := by
  by_cases backslash : c = '\\'
  · subst backslash; decide
  · by_cases quote : c = '"'
    · subst quote; decide
    · rw [quotedChar_of_plain quote backslash]
      unfold controlChar
      split_ifs <;> simp_all [eq_comm]

/-! ## Whole texts -/

theorem unquote_escape (cs : List Char) :
    unquote (cs.flatMap escapeChar ++ ['"']) = some cs := by
  induction cs with
  | nil => rfl
  | cons c cs inductionHypothesis =>
    rw [List.flatMap_cons, List.append_assoc, unquote_escapeChar, inductionHypothesis]
    rfl

theorem unquote_quotedChars (cs : List Char) :
    unquote (cs.flatMap quotedChar ++ ['"']) = some cs := by
  induction cs with
  | nil => rfl
  | cons c cs inductionHypothesis =>
    rw [List.flatMap_cons, List.append_assoc, unquote_quotedChar, inductionHypothesis]
    rfl

/-- Escaping first and then writing the control characters treats each character alone. -/
theorem escapeControls_escape (text : String) :
    escapeControls (escape text).toList = text.toList.flatMap quotedChar := by
  rw [escapeControls, escape, String.toList_ofList, List.flatMap_assoc]
  rfl

theorem escape_injective : Function.Injective escape := by
  intro first second equal
  have chars : first.toList.flatMap escapeChar = second.toList.flatMap escapeChar := by
    simpa [escape, String.ofList_inj] using equal
  have read := unquote_escape first.toList
  rw [chars, unquote_escape, Option.some_inj] at read
  exact (String.toList_inj.mp read).symm

theorem escape_inj {first second : String} : escape first = escape second ↔ first = second :=
  escape_injective.eq_iff

@[simp] theorem escape_eq_empty {text : String} : escape text = "" ↔ text = "" := by
  have empty : escape "" = "" := rfl
  constructor
  · intro equal
    exact escape_injective (equal.trans empty.symm)
  · rintro rfl
    exact empty

end Potfile.Quoting
