import Potfile.Config
import Potfile.Proofs.Catalog.Lines

/-! # The header block

The headers are written as quoted lines, one for each. Unlike the texts of an entry, they are not
split at their line feeds.

* `Closes`: the inside of a quoted string, up to the quote at the end of its line.
* `wellFormed_headerBlock_iff`: the lines of the header block are quoted strings exactly if no line
  feed is in a header. The block is then read back as the text of the headers, and otherwise no
  catalog with these headers can be read.
-/

namespace Potfile

namespace Quoting

/-- What stands behind an opening quote ends with the quote that closes it: the first one without a
    backslash before it. -/
def Closes : List Char → Prop
  | [] => False
  | ['"'] => True
  | '"' :: _ => False
  | ['\\'] => False
  | '\\' :: _ :: rest => Closes rest
  | _ :: rest => Closes rest

theorem closes_cons_iff {c : Char} (quote : c ≠ '"') (backslash : c ≠ '\\') (rest : List Char) :
    Closes (c :: rest) ↔ Closes rest := by
  rw [Closes.eq_def]
  split <;> simp_all

theorem closes_of_unquote {cs text : List Char} (read : unquote cs = some text) : Closes cs := by
  fun_induction unquote cs generalizing text with
  | case1 | case3 | case4 | case6 => contradiction
  | case2 => trivial
  | case5 letter rest c stands inductionHypothesis =>
    obtain ⟨text, read, _⟩ := Option.map_eq_some_iff.mp read
    exact inductionHypothesis read
  | case7 c rest _ quote trailing escape inductionHypothesis =>
    obtain ⟨text, read, _⟩ := Option.map_eq_some_iff.mp read
    have backslash : c ≠ '\\' := by
      rintro rfl
      cases rest with
      | nil => exact trailing rfl rfl
      | cons letter rest => exact escape letter rest rfl rfl
    exact (closes_cons_iff quote backslash rest).mpr (inductionHypothesis read)

theorem closes_quotedChar_append_iff (c : Char) (rest : List Char) :
    Closes (quotedChar c ++ rest) ↔ Closes rest := by
  by_cases backslash : c = '\\'
  · subst backslash
    exact Iff.rfl
  · by_cases quote : c = '"'
    · subst quote
      exact Iff.rfl
    · rw [quotedChar_of_plain quote backslash]
      unfold controlChar
      split_ifs
      all_goals first
        | exact Iff.rfl
        | exact closes_cons_iff quote backslash rest

/-- A written text contains no quote that would close a string. -/
theorem not_closes_quotedChars (cs : List Char) : ¬ Closes (cs.flatMap quotedChar) := by
  induction cs with
  | nil => exact id
  | cons c cs inductionHypothesis =>
    rwa [List.flatMap_cons, closes_quotedChar_append_iff]

end Quoting

namespace Catalog

open Quoting (Closes quotedChar closes_of_unquote not_closes_quotedChars escapeControls_escape)

/-! ## Lines -/

/-- The first lines of a catalog: the empty message, with the headers as its translation. -/
def headerBlock (headers : Headers) : List Char :=
  field "msgid".toList "" ++ field "msgstr".toList "" ++ headers.flatMap headerLine

/-- A line of the header block: a keyword with the empty string, or a quoted string alone. -/
def IsHeaderLine (line : List Char) : Prop :=
  line = "msgid \"\"".toList ∨ line = "msgstr \"\"".toList ∨
    ∃ inside, line = '"' :: inside ∧ Closes inside

def OneLine (header : String × String) : Prop :=
  '\n' ∉ header.1.toList ∧ '\n' ∉ header.2.toList

theorem whole_headerLine (header : String × String) : Whole (headerLine header) :=
  whole_quotedLine _

theorem whole_headerBlock (headers : Headers) : Whole (headerBlock headers) :=
  ((whole_field _ _).append (whole_field _ _)).append (.flatMap fun header _ => whole_headerLine header)

/-- The text of a header, which is written between the quotes of its line. -/
def headerChars (header : String × String) : List Char := (header.1 ++ ": " ++ header.2).toList

theorem headerLine_eq (header : String × String) :
    headerLine header = quotedLine ((headerChars header).flatMap quotedChar ++ ['\\', 'n']) := by
  rw [headerLine, escapeControls_escape, headerChars]

theorem oneLine_iff {header : String × String} : OneLine header ↔ '\n' ∉ headerChars header := by
  simp [OneLine, headerChars]

theorem lines_headerLine {header : String × String} (oneLine : OneLine header) :
    ∃ inside, lines (headerLine header) = ['"' :: inside] ∧ Closes inside := by
  have plain := not_mem_quotedChars (oneLine_iff.mp oneLine)
  refine ⟨(headerChars header).flatMap quotedChar ++ ['\\', 'n', '"'], ?_, ?_⟩
  · have whole : headerLine header =
        ('"' :: ((headerChars header).flatMap quotedChar ++ ['\\', 'n', '"'])) ++ '\n' :: [] := by
      simp [headerLine_eq, quotedLine]
    rw [whole, lines_line (by simpa using plain)]
    rfl
  · have read := unquote_lineFeed (headerChars header)
    rw [List.append_assoc] at read
    exact closes_of_unquote read

/-- A line feed in a header ends a line inside the quoted string that began on it. -/
theorem exists_openLine {headers : Headers} {header : String × String} (member : header ∈ headers)
    (several : ¬ OneLine header) :
    ∃ (front text back : List Char), '\n' ∉ text ∧ headerBlock headers =
      front ++ '\n' :: ('"' :: text.flatMap quotedChar ++ '\n' :: back) := by
  obtain ⟨before, after, rfl⟩ := List.append_of_mem member
  obtain ⟨text, rest, split, oneLine⟩ :=
    List.eq_append_cons_of_mem (not_not.mp (oneLine_iff.not.mp several))
  -- The headers before this one end with a line feed, so that its own line starts behind it.
  obtain ⟨front, ended⟩ : ∃ front, headerBlock before = front ++ ['\n'] := by
    obtain none | ended := whole_headerBlock before
    · exact absurd none (by simp [headerBlock, field, Quoting.escapeControls])
    · exact ended
  have block : headerBlock (before ++ header :: after) =
      headerBlock before ++ headerLine header ++ after.flatMap headerLine := by
    simp [headerBlock]
  refine ⟨front, text, rest.flatMap quotedChar ++ ['\\', 'n', '"', '\n'] ++
    after.flatMap headerLine, oneLine, ?_⟩
  rw [block, ended, headerLine_eq, split]
  simp [quotedLine, show quotedChar '\n' = ['\n'] from rfl]

theorem not_isHeaderLine_of_open (text : List Char) :
    ¬ IsHeaderLine ('"' :: text.flatMap quotedChar) := by
  rintro (keyword | keyword | ⟨inside, equal, closes⟩)
  · simp at keyword
  · simp at keyword
  · obtain rfl := (List.cons.inj equal).2
    exact not_closes_quotedChars text closes

theorem ofChars?_of_open (text : List Char) :
    Line.ofChars? ('"' :: text.flatMap quotedChar) = none := by
  rw [Line.ofChars?, Option.map_eq_none_iff, Option.eq_none_iff_forall_ne_some]
  exact fun read unquoted => not_closes_quotedChars text (closes_of_unquote unquoted)

/-! ## The whole block -/

theorem lines_headerBlock (headers : Headers) :
    lines (headerBlock headers) =
      "msgid \"\"".toList :: "msgstr \"\"".toList ::
        headers.flatMap fun header => lines (headerLine header) := by
  have keywords : lines (field "msgid".toList "" ++ field "msgstr".toList "") =
      ["msgid \"\"".toList, "msgstr \"\"".toList] := by decide
  rw [headerBlock, ((whole_field _ _).append (whole_field _ _)).lines_append, keywords,
    lines_flatMap fun header _ => whole_headerLine header]
  rfl

theorem isHeaderLine_of_oneLine {headers : Headers} (oneLine : ∀ header ∈ headers, OneLine header) :
    ∀ line ∈ lines (headerBlock headers), IsHeaderLine line := by
  rw [lines_headerBlock, List.forall_mem_cons, List.forall_mem_cons]
  refine ⟨.inl rfl, .inr (.inl rfl), ?_⟩
  intro line member
  obtain ⟨header, within, own⟩ := List.mem_flatMap.mp member
  obtain ⟨inside, equal, closes⟩ := lines_headerLine (oneLine header within)
  rw [equal, List.mem_singleton] at own
  exact .inr (.inr ⟨inside, own, closes⟩)

theorem oneLine_of_isHeaderLine {headers : Headers}
    (wellFormed : ∀ line ∈ lines (headerBlock headers), IsHeaderLine line) :
    ∀ header ∈ headers, OneLine header := by
  intro header member
  by_contra several
  obtain ⟨front, text, back, oneLine, block⟩ := exists_openLine member several
  have openLine : ('"' :: text.flatMap quotedChar) ∈ lines (headerBlock headers) := by
    rw [block, lines_append_lineFeed, lines_line (by simpa using not_mem_quotedChars oneLine)]
    simp
  exact not_isHeaderLine_of_open text (wellFormed _ openLine)

theorem fieldsOf_headerBlock {headers : Headers} (oneLine : ∀ header ∈ headers, OneLine header) :
    FieldsOf (headerBlock headers) [(.msgid, []), (.msgstr, (headerText headers).toList)] := by
  have msgid : FieldsOf (field "msgid".toList "") [(.msgid, [])] := fieldsOf_field .msgid ""
  have written := msgid.append (fieldsOf_headers oneLine)
  rwa [← List.append_assoc] at written

theorem strings_headerBlock {headers : Headers} (oneLine : ∀ header ∈ headers, OneLine header) :
    (readLines? (headerBlock headers)).map strings =
      some ([], [(.msgid, []), (.msgstr, (headerText headers).toList)]) := by
  obtain ⟨block, written, _, read⟩ := fieldsOf_headerBlock oneLine
  rw [written.read, Option.map_some, read [.blank] [] rfl]
  rfl

theorem read?_render_eq_none {headers : Headers} {header : String × String}
    (member : header ∈ headers) (several : ¬ OneLine header) (items : List Entry) :
    read? (render ⟨headers, items⟩) = none := by
  obtain ⟨front, text, back, oneLine, block⟩ := exists_openLine member several
  have whole : chars ⟨headers, items⟩ = front ++ '\n' :: ('"' :: text.flatMap quotedChar ++
      '\n' :: (back ++ items.flatMap entryLines)) := by
    rw [show chars ⟨headers, items⟩ = headerBlock headers ++ items.flatMap entryLines from rfl, block]
    simp
  have openLine : ('"' :: text.flatMap quotedChar) ∈ (chars ⟨headers, items⟩).splitOn '\n' := by
    rw [whole, List.splitOn_append_cons_self, List.splitOn_append_cons_self_of_not_mem
      (by simpa using not_mem_quotedChars oneLine)]
    simp
  rw [read?, render, String.toList_ofList, readLines?_eq_none openLine (ofChars?_of_open text)]
  rfl

/-- The lines of the header block are well formed exactly if no line feed is in a header. The strings
    in it are then the empty message and the text of the headers. Otherwise no catalog with these
    headers can be read, whatever its entries are. -/
theorem wellFormed_headerBlock_iff (headers : Headers) :
    (∀ items, lines (chars ⟨headers, items⟩) =
      lines (headerBlock headers) ++ lines (items.flatMap entryLines)) ∧
    ((∀ line ∈ lines (headerBlock headers), IsHeaderLine line) ↔
      ∀ header ∈ headers, OneLine header) ∧
    ((∀ header ∈ headers, OneLine header) →
      (readLines? (headerBlock headers)).map strings =
        some ([], [(.msgid, []), (.msgstr, (headerText headers).toList)])) ∧
    ((∃ header ∈ headers, ¬ OneLine header) → ∀ items, read? (render ⟨headers, items⟩) = none) := by
  refine ⟨?_, ⟨oneLine_of_isHeaderLine, isHeaderLine_of_oneLine⟩, strings_headerBlock, ?_⟩
  · exact fun items => (whole_headerBlock headers).lines_append _
  · rintro ⟨header, member, several⟩
    exact read?_render_eq_none member several

/-- A line feed in a value that a configuration may give: its line is left open, and the text of the
    headers cannot be read. -/
theorem header_left_open :
    Config.ofJson "\x7b\"headers\":\x7b\"X\":\"a\\nb\"\x7d\x7d" =
      .ok { headers := [("X", "a\nb")] } ∧
    (∃ line ∈ lines (headerBlock [("X", "a\nb")]), ¬ IsHeaderLine line) ∧
    (readLines? (headerBlock [("X", "a\nb")])).map strings ≠
      some ([], [(.msgid, []), (.msgstr, (headerText [("X", "a\nb")]).toList)]) := by
  refine ⟨by decide +kernel, ⟨"\"X: a".toList, by decide, ?_⟩, by decide⟩
  exact not_isHeaderLine_of_open "X: a".toList

end Catalog

end Potfile
