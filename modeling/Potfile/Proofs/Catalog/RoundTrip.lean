import Potfile.Proofs.Catalog.Reading

/-! # Reading undoes writing

Written characters are followed through the reader in two stages, each of which says what any
later text adds:

* `LinesOf`: the characters are whole lines, and these are their readings.
* `FieldsOf`: the characters are whole lines, and these are the strings in them.

A text is cut into quoted lines only behind its own line feeds, and each character is written
apart from its neighbours, so that no cut falls inside an escape (`exists_linesOf_quotedLines`).
-/

namespace Potfile

open Quoting (escape escapeControls quotedChar unquote unquote_quotedChars not_mem_quotedChar
  escapeControls_escape)

/-! ## Messages and their entries -/

/-- The entry that keeps a message: its texts escaped, its translations as they are. -/
def Message.entry (m : Message) : Entry :=
  { msgid := escape m.text, plural := m.plural.map escape, references := m.references,
    msgstr := m.translations }

/-- A message that has a form on paper: a slot for a translation at least, and no line feed in a
    reference, since a comment ends with its line. -/
structure Message.Writable (m : Message) : Prop where
  translated : m.translations ≠ []
  oneLine : ∀ reference ∈ m.references, '\n' ∉ reference.toList

namespace Catalog

/-- The text that the headers stand for: a line for each of them, in their order. -/
def headerText (headers : Headers) : String :=
  String.join (headers.map fun header => header.1 ++ ": " ++ header.2 ++ "\n")

/-- The catalog is that of the given messages, and neither its headers nor its references
    contain line feeds. -/
structure Holds (c : Catalog) (messages : List Message) : Prop where
  items : c.items = messages.map Message.entry
  writable : ∀ m ∈ messages, m.Writable
  oneLine : ∀ header ∈ c.headers, '\n' ∉ header.1.toList ∧ '\n' ∉ header.2.toList

/-! ## Lines -/

/-- The characters are whole lines that are read as `lines`, whatever follows them. -/
def LinesOf (cs : List Char) (lines : List Line) : Prop :=
  ∀ rest, readLines? (cs ++ rest) = (readLines? rest).map (lines ++ ·)

theorem LinesOf.nil : LinesOf [] [] := by
  intro rest
  simp

theorem LinesOf.append {cs ds : List Char} {lines more : List Line}
    (first : LinesOf cs lines) (second : LinesOf ds more) :
    LinesOf (cs ++ ds) (lines ++ more) := by
  intro rest
  rw [List.append_assoc, first, second, Option.map_map]
  congr 1
  funext later
  exact (List.append_assoc _ _ _).symm

theorem LinesOf.flatMap {α : Type} {items : List α} {write : α → List Char}
    {read : α → Line} (each : ∀ item ∈ items, LinesOf (write item) [read item]) :
    LinesOf (items.flatMap write) (items.map read) := by
  induction items with
  | nil => exact .nil
  | cons item items inductionHypothesis =>
    rw [List.flatMap_cons]
    exact (each item List.mem_cons_self).append
      (inductionHypothesis fun item member => each item (List.mem_cons_of_mem _ member))

theorem LinesOf.line {cs : List Char} {line : Line} (oneLine : '\n' ∉ cs)
    (read : Line.ofChars? cs = some line) : LinesOf (cs ++ ['\n']) [line] := by
  intro rest
  have split : (cs ++ ['\n'] ++ rest).splitOn '\n' = cs :: rest.splitOn '\n' := by
    rw [List.append_assoc]
    exact List.splitOn_append_cons_self_of_not_mem oneLine rest
  rw [readLines?, split, List.mapM_cons, read, readLines?]
  cases (rest.splitOn '\n').mapM Line.ofChars? <;> rfl

theorem LinesOf.read {cs : List Char} {lines : List Line} (written : LinesOf cs lines) :
    readLines? cs = some (lines ++ [.blank]) := by
  have := written []
  rwa [List.append_nil] at this

theorem linesOf_blank : LinesOf ['\n'] [.blank] := by
  rw [← List.nil_append ['\n']]
  exact LinesOf.line (by simp) rfl

theorem linesOf_referenceLine {reference : String} (oneLine : '\n' ∉ reference.toList) :
    LinesOf (referenceLine reference) [.reference reference.toList] := by
  apply LinesOf.line
  · simpa using oneLine
  · simp [Line.ofChars?]

/-! ## Quoted strings -/

theorem not_mem_quotedChars {cs : List Char} (oneLine : '\n' ∉ cs) :
    '\n' ∉ cs.flatMap quotedChar := by
  intro member
  obtain ⟨c, inText, inQuoted⟩ := List.mem_flatMap.mp member
  have other : c ≠ '\n' := by
    rintro rfl
    exact oneLine inText
  exact not_mem_quotedChar other inQuoted

theorem linesOf_quotedLine {cs text : List Char} (oneLine : '\n' ∉ cs)
    (read : unquote (cs ++ ['"']) = some text) : LinesOf (quotedLine cs) [.more text] := by
  have whole : quotedLine cs = ('"' :: cs ++ ['"']) ++ ['\n'] := by simp [quotedLine]
  rw [whole]
  apply LinesOf.line
  · simpa using oneLine
  · simp [Line.ofChars?, read]

/-- A line without the line feed at its end, in front of which the written one is quoted. -/
theorem unquote_lineFeed (line : List Char) :
    unquote (line.flatMap quotedChar ++ ['\\', 'n'] ++ ['"']) = some (line ++ ['\n']) := by
  induction line with
  | nil => rfl
  | cons c line inductionHypothesis =>
    rw [List.flatMap_cons, List.append_assoc, List.append_assoc, Quoting.unquote_quotedChar,
      ← List.append_assoc, inductionHypothesis]
    rfl

theorem quotedChar_ne_nil (c : Char) : quotedChar c ≠ [] := by
  intro empty
  have := Quoting.unquote_quotedChar c ['"']
  rw [empty] at this
  simp [unquote] at this

theorem quotedLines_nil {line : List Char} (pending : line ≠ []) :
    quotedLines line [] = quotedLine line := by
  cases line with
  | nil => exact absurd rfl pending
  | cons c line => rw [quotedLines]; simp

/-- Characters other than line feeds go into the current line. -/
theorem quotedLines_append {cs : List Char} (oneLine : '\n' ∉ cs) (line rest : List Char) :
    quotedLines line (cs ++ rest) = quotedLines (line ++ cs) rest := by
  induction cs generalizing line with
  | nil => simp
  | cons c cs inductionHypothesis =>
    simp only [List.mem_cons, not_or] at oneLine
    rw [List.cons_append, quotedLines, if_neg (Ne.symm oneLine.1),
      inductionHypothesis oneLine.2, List.append_assoc]
    rfl

/-- The quoted lines of a text read as pieces of it. The induction runs over what is left of the
    text; the part of the current line that is written already is its invariant. -/
theorem exists_linesOf_quotedLines (cs line : List Char) (oneLine : '\n' ∉ line) :
    ∃ pieces : List (List Char), pieces.flatten = line ++ cs ∧
      LinesOf (quotedLines (line.flatMap quotedChar) (cs.flatMap quotedChar))
        (pieces.map .more) := by
  induction cs generalizing line with
  | nil =>
    cases line with
    | nil => exact ⟨[], rfl, by simpa [quotedLines] using LinesOf.nil⟩
    | cons c line =>
      have pending : (c :: line).flatMap quotedChar ≠ [] := by
        simp [quotedChar_ne_nil]
      refine ⟨[c :: line], by simp, ?_⟩
      rw [List.flatMap_nil, quotedLines_nil pending]
      exact linesOf_quotedLine (not_mem_quotedChars oneLine) (unquote_quotedChars _)
  | cons c cs inductionHypothesis =>
    by_cases lineFeed : c = '\n'
    · -- The line ends here, with the line feed as its last character.
      subst lineFeed
      obtain ⟨pieces, flat, written⟩ := inductionHypothesis [] (by simp)
      refine ⟨(line ++ ['\n']) :: pieces, by simp [flat], ?_⟩
      have ends : quotedLines (line.flatMap quotedChar) (('\n' :: cs).flatMap quotedChar) =
          quotedLine (line.flatMap quotedChar ++ ['\\', 'n']) ++
            quotedLines [] (cs.flatMap quotedChar) := by
        rw [List.flatMap_cons, show quotedChar '\n' = ['\n'] from rfl, List.singleton_append,
          quotedLines, if_pos rfl]
      rw [ends]
      refine (linesOf_quotedLine ?_ (unquote_lineFeed line)).append written
      simpa using not_mem_quotedChars oneLine
    · obtain ⟨pieces, flat, written⟩ :=
        inductionHypothesis (line ++ [c]) (by simp [oneLine, Ne.symm lineFeed])
      refine ⟨pieces, by simp [flat], ?_⟩
      rw [List.flatMap_cons, quotedLines_append (not_mem_quotedChar lineFeed)]
      simpa using written

/-! ## Fields -/

/-- The characters are whole lines that hold the given strings, whatever strings follow. -/
def FieldsOf (cs : List Char) (fields : List (Keyword × List Char)) : Prop :=
  ∃ lines, LinesOf cs lines ∧ (∀ line ∈ lines, line.isString = true) ∧
    ∀ rest later, strings rest = ([], later) → strings (lines ++ rest) = ([], fields ++ later)

theorem FieldsOf.nil : FieldsOf [] [] :=
  ⟨[], .nil, by simp, fun _ _ read => read⟩

theorem FieldsOf.append {cs ds : List Char} {fields more : List (Keyword × List Char)}
    (first : FieldsOf cs fields) (second : FieldsOf ds more) :
    FieldsOf (cs ++ ds) (fields ++ more) := by
  obtain ⟨lines, written, areStrings, read⟩ := first
  obtain ⟨linesAfter, writtenAfter, areStringsAfter, readAfter⟩ := second
  refine ⟨lines ++ linesAfter, written.append writtenAfter, ?_, ?_⟩
  · intro line member
    rcases List.mem_append.mp member with member | member
    · exact areStrings line member
    · exact areStringsAfter line member
  · intro rest later readRest
    rw [List.append_assoc, List.append_assoc]
    exact read _ _ (readAfter _ _ readRest)

theorem strings_more (pieces : List (List Char)) (rest : List Line)
    (later : List (Keyword × List Char)) (read : strings rest = ([], later)) :
    strings (pieces.map .more ++ rest) = (pieces.flatten, later) := by
  induction pieces with
  | nil => exact read
  | cons piece pieces inductionHypothesis =>
    rw [List.map_cons, List.cons_append, strings, inductionHypothesis]
    rfl

/-- A keyword line and the quoted lines behind it hold one string. -/
theorem fieldsOf_lines {cs : List Char} {keyword : Keyword} {text : List Char}
    (pieces : List (List Char))
    (written : LinesOf cs (.field keyword text :: pieces.map .more)) :
    FieldsOf cs [(keyword, text ++ pieces.flatten)] := by
  refine ⟨_, written, ?_, ?_⟩
  · simp [Line.isString]
  · intro rest later read
    rw [List.cons_append, strings, strings_more pieces rest later read]
    rfl

theorem linesOf_keywordLine (keyword : Keyword) {cs text : List Char} (oneLine : '\n' ∉ cs)
    (read : unquote (cs ++ ['"']) = some text) :
    LinesOf (keyword.chars ++ ' ' :: quotedLine cs) [.field keyword text] := by
  have whole : keyword.chars ++ ' ' :: quotedLine cs =
      (keyword.chars ++ ' ' :: '"' :: (cs ++ ['"'])) ++ ['\n'] := by simp [quotedLine]
  rw [whole]
  apply LinesOf.line
  · simpa using ⟨Keyword.not_mem_chars (.inr rfl) keyword, oneLine⟩
  · rw [Line.ofChars?_field, read]
    rfl

theorem linesOf_emptyKeywordLine (keyword : Keyword) :
    LinesOf (keyword.chars ++ ' ' :: quotedLine []) [.field keyword []] :=
  linesOf_keywordLine keyword (by simp) rfl

/-- An escaped text is read back, beside its keyword or on the lines below it. -/
theorem fieldsOf_field (keyword : Keyword) (text : String) :
    FieldsOf (field keyword.chars (escape text)) [(keyword, text.toList)] := by
  unfold field
  simp only [escapeControls_escape]
  by_cases several : '\n' ∈ text.toList.flatMap quotedChar
  · rw [if_pos several]
    obtain ⟨pieces, flat, written⟩ :=
      exists_linesOf_quotedLines text.toList [] (by simp)
    have := fieldsOf_lines pieces ((linesOf_emptyKeywordLine keyword).append written)
    rwa [flat] at this
  · rw [if_neg several]
    have written := linesOf_keywordLine keyword several (unquote_quotedChars text.toList)
    simpa using fieldsOf_lines [] written

/-! ## Translations -/

theorem fieldsOf_slots (several : List String) (next : Nat) :
    FieldsOf
      ((several.zipIdx next).map fun (text, i) =>
        field ("msgstr[".toList ++ Nat.toDigits 10 i ++ [']']) (escape text)).flatten
      ((several.zipIdx next).map fun (text, i) => (.slot i, text.toList)) := by
  induction several generalizing next with
  | nil => exact .nil
  | cons text several inductionHypothesis =>
    simp only [List.zipIdx_cons, List.map_cons, List.flatten_cons]
    rw [← Keyword.chars_slot]
    exact (fieldsOf_field (.slot next) text).append (inductionHypothesis (next + 1))

theorem numbered?_slots (several : List String) (next : Nat) :
    numbered? next ((several.zipIdx next).map fun (text, i) => (.slot i, text.toList)) =
      some several := by
  induction several generalizing next with
  | nil => rfl
  | cons text several inductionHypothesis =>
    simp [numbered?, inductionHypothesis]

/-- Translations are read back in their order, a single one and numbered ones alike. -/
theorem exists_fieldsOf_slotLines {translations : List String} (some : translations ≠ []) :
    ∃ fields, FieldsOf (slotLines translations) fields ∧
      translations? fields = .some translations ∧
      ∀ text rest, fields ≠ (.msgidPlural, text) :: rest := by
  match translations with
  | [] => exact absurd rfl some
  | [only] =>
    refine ⟨[(.msgstr, only.toList)], ?_, by simp [translations?], by simp⟩
    have written := fieldsOf_field .msgstr only
    rwa [Keyword.chars_msgstr] at written
  | first :: second :: several =>
    refine ⟨_, fieldsOf_slots (first :: second :: several) 0, ?_, by simp⟩
    exact numbered?_slots (first :: second :: several) 0

/-! ## Entries -/

theorem strings_references (references : List String) (lines : List Line) :
    strings (references.map (fun r => .reference r.toList) ++ lines) = strings lines := by
  induction references with
  | nil => rfl
  | cons reference references inductionHypothesis => simpa [strings] using inductionHypothesis

theorem reference?_of_isString {line : Line} (isString : line.isString = true) :
    line.reference? = none := by
  cases line <;> simp_all [Line.isString, Line.reference?]

/-- The strings of a message, in front of those of its translations. -/
def texts (m : Message) : List (Keyword × List Char) :=
  (.msgid, m.text.toList) ::
    (m.plural.map fun plural => (Keyword.msgidPlural, plural.toList)).toList

theorem fieldsOf_texts (m : Message) :
    FieldsOf
      (field "msgid".toList m.entry.msgid ++
        (m.entry.plural.map (field "msgid_plural".toList)).getD [])
      (texts m) := by
  have msgid := fieldsOf_field .msgid m.text
  rw [Keyword.chars_msgid] at msgid
  cases plural : m.plural with
  | none => simpa [Message.entry, texts, plural] using msgid
  | some text =>
    have msgidPlural := fieldsOf_field .msgidPlural text
    rw [Keyword.chars_msgidPlural] at msgidPlural
    have both := msgid.append msgidPlural
    simpa only [Message.entry, texts, plural, Option.map_some, Option.getD_some,
      Option.toList_some, List.singleton_append] using both

/-- A block is read by its references and its strings. -/
theorem ofBlock?_eq_some {m : Message} {block : List Line} {slots : List (Keyword × List Char)}
    (references : block.filterMap Line.reference? = m.references.map String.toList)
    (read : strings block = ([], texts m ++ slots))
    (readSlots : translations? slots = some m.translations)
    (noPlural : ∀ text rest, slots ≠ (.msgidPlural, text) :: rest) :
    Message.ofBlock? block = some m := by
  obtain ⟨locations, text, plural, translations⟩ := m
  have back : (locations.map String.toList).map String.ofList = locations := by simp
  simp only at references read readSlots
  unfold Message.ofBlock?
  simp only [references, read, back, texts]
  cases plural with
  | none =>
    -- What follows the message is no plural: no translation has that keyword.
    simp only [Option.map_none, Option.toList_none, List.nil_append, List.cons_append]
    simp [readSlots]
  | some plural => simp [readSlots]

/-- References and the strings of a message behind them are a block of lines that are not blank,
    from which the message is read back. -/
theorem exists_block_of_fieldsOf (m : Message) {cs : List Char}
    (slots : List (Keyword × List Char))
    (oneLine : ∀ reference ∈ m.references, '\n' ∉ reference.toList)
    (written : FieldsOf cs (texts m ++ slots))
    (readSlots : translations? slots = some m.translations)
    (noPlural : ∀ text rest, slots ≠ (.msgidPlural, text) :: rest) :
    ∃ block, LinesOf (m.references.flatMap referenceLine ++ cs) block ∧ block ≠ [] ∧
      .blank ∉ block ∧ Message.ofBlock? block = some m := by
  obtain ⟨lines, writtenLines, areStrings, read⟩ := written
  have references : LinesOf (m.references.flatMap referenceLine)
      (m.references.map fun r => .reference r.toList) :=
    LinesOf.flatMap fun r member => linesOf_referenceLine (oneLine r member)
  have readStrings := read [] [] rfl
  simp only [List.append_nil] at readStrings
  refine ⟨m.references.map (fun r => .reference r.toList) ++ lines,
    references.append writtenLines, ?_, ?_, ?_⟩
  · intro empty
    simp only [List.append_eq_nil_iff] at empty
    simp [empty.2, strings, texts] at readStrings
  · intro member
    rcases List.mem_append.mp member with member | member
    · simp at member
    · simpa [Line.isString] using areStrings _ member
  · have noReference : lines.filterMap Line.reference? = [] := by
      rw [List.filterMap_eq_nil_iff]
      exact fun line member => reference?_of_isString (areStrings line member)
    refine ofBlock?_eq_some ?_ ?_ readSlots noPlural
    · rw [List.filterMap_append, noReference, List.append_nil, List.filterMap_map]
      simp [Function.comp_def, Line.reference?]
    · rw [strings_references, readStrings]

/-- An entry is a blank line and a block that is read as its message. -/
theorem exists_block {m : Message} (writable : m.Writable) :
    ∃ block, LinesOf (entryLines m.entry) (.blank :: block) ∧ block ≠ [] ∧ .blank ∉ block ∧
      Message.ofBlock? block = some m := by
  obtain ⟨slots, writtenSlots, readSlots, noPlural⟩ :=
    exists_fieldsOf_slotLines writable.translated
  obtain ⟨block, written, some, noBlank, read⟩ :=
    exists_block_of_fieldsOf m slots writable.oneLine
      ((fieldsOf_texts m).append writtenSlots) readSlots noPlural
  refine ⟨block, ?_, some, noBlank, read⟩
  have whole := linesOf_blank.append written
  simpa only [entryLines, Message.entry, List.append_assoc, List.singleton_append,
    List.cons_append, List.nil_append] using whole

/-! ## Headers -/

/-- The line that one header stands for. -/
def headerPiece (header : String × String) : List Char :=
  (header.1 ++ ": " ++ header.2).toList ++ ['\n']

theorem toList_headerText (headers : Headers) :
    (headerText headers).toList = (headers.map headerPiece).flatten := by
  have piece : headerPiece = fun header => (header.1 ++ ": " ++ header.2 ++ "\n").toList := by
    funext header
    simp [headerPiece]
  rw [headerText, String.toList_join, List.flatMap_map, List.flatMap_def, piece]

theorem linesOf_headerLine {header : String × String}
    (oneLine : '\n' ∉ header.1.toList ∧ '\n' ∉ header.2.toList) :
    LinesOf (headerLine header) [.more (headerPiece header)] := by
  have plain : '\n' ∉ (header.1 ++ ": " ++ header.2).toList := by
    simpa using oneLine
  rw [headerLine, escapeControls_escape]
  apply linesOf_quotedLine
  · simpa using not_mem_quotedChars plain
  · exact unquote_lineFeed _

/-- The translation of the empty message is the text of the headers. -/
theorem fieldsOf_headers {headers : Headers}
    (oneLine : ∀ header ∈ headers, '\n' ∉ header.1.toList ∧ '\n' ∉ header.2.toList) :
    FieldsOf (field "msgstr".toList "" ++ headers.flatMap headerLine)
      [(.msgstr, (headerText headers).toList)] := by
  have top := linesOf_emptyKeywordLine .msgstr
  have lines : LinesOf (headers.flatMap headerLine) ((headers.map headerPiece).map .more) := by
    rw [List.map_map]
    exact LinesOf.flatMap fun header member => linesOf_headerLine (oneLine header member)
  rw [Keyword.chars_msgstr] at top
  rw [toList_headerText]
  exact fieldsOf_lines (headers.map headerPiece) (top.append lines)

/-- The headers are the entry of the empty message. No blank line stands in front of it. -/
theorem exists_headerBlock {headers : Headers}
    (oneLine : ∀ header ∈ headers, '\n' ∉ header.1.toList ∧ '\n' ∉ header.2.toList) :
    ∃ block, LinesOf
        (field "msgid".toList "" ++ field "msgstr".toList "" ++ headers.flatMap headerLine)
        block ∧ block ≠ [] ∧ .blank ∉ block ∧
      Message.ofBlock? block = some { text := "", translations := [headerText headers] } := by
  have msgid := fieldsOf_field .msgid ""
  rw [Keyword.chars_msgid] at msgid
  have written := msgid.append (fieldsOf_headers oneLine)
  rw [← List.append_assoc] at written
  exact exists_block_of_fieldsOf { text := "", translations := [headerText headers] }
    [(.msgstr, (headerText headers).toList)] (by simp) written (by simp [translations?])
    (by simp)

/-! ## Whole catalogs -/

theorem readBlocks?_cons {block rest : List Line} (some : block ≠ []) (noBlank : .blank ∉ block) :
    readBlocks? (block ++ .blank :: rest) =
      (do let m ← Message.ofBlock? block; let later ← readBlocks? rest; return m :: later) := by
  rw [readBlocks?, List.splitOn_append_cons_self_of_not_mem noBlank rest,
    List.filter_cons_of_pos (by simpa using some), List.mapM_cons]
  rfl

theorem exists_blocks {messages : List Message} (writable : ∀ m ∈ messages, m.Writable) :
    ∃ lines, LinesOf ((messages.map Message.entry).flatMap entryLines) lines ∧
      ∀ block, block ≠ [] → .blank ∉ block →
        readBlocks? (block ++ lines ++ [.blank]) =
          (Message.ofBlock? block).map (· :: messages) := by
  induction messages with
  | nil =>
    refine ⟨[], .nil, ?_⟩
    intro block some noBlank
    rw [List.append_nil, readBlocks?_cons some noBlank]
    cases Message.ofBlock? block <;> rfl
  | cons m messages inductionHypothesis =>
    obtain ⟨lines, written, read⟩ :=
      inductionHypothesis fun m member => writable m (List.mem_cons_of_mem _ member)
    obtain ⟨own, writtenOwn, someOwn, noBlankOwn, readOwn⟩ :=
      exists_block (writable m List.mem_cons_self)
    refine ⟨.blank :: own ++ lines, ?_, ?_⟩
    · rw [List.map_cons, List.flatMap_cons]
      exact writtenOwn.append written
    · intro block some noBlank
      have regroup : block ++ (.blank :: own ++ lines) ++ [.blank] =
          block ++ .blank :: (own ++ lines ++ [.blank]) := by simp
      rw [regroup, readBlocks?_cons some noBlank, read own someOwn noBlankOwn, readOwn]
      cases Message.ofBlock? block <;> rfl

/-- A catalog is read back: the text of its headers and its messages in their order. -/
theorem read?_render_of_holds {c : Catalog} {messages : List Message}
    (holds : c.Holds messages) :
    read? c.render = some (headerText c.headers, messages) := by
  obtain ⟨block, writtenBlock, someBlock, noBlank, readBlock⟩ :=
    exists_headerBlock holds.oneLine
  obtain ⟨lines, written, read⟩ := exists_blocks holds.writable
  have whole : LinesOf c.chars (block ++ lines) := by
    rw [chars, holds.items]
    exact writtenBlock.append written
  rw [read?, render, String.toList_ofList, whole.read, Option.bind_some,
    read block someBlock noBlank, readBlock]
  rfl

/-- Reading undoes rendering. So no two catalogs with different messages are written alike. -/
theorem read?_render {c : Catalog} {messages : List Message} (holds : c.Holds messages) :
    read? c.render = some (headerText c.headers, messages) ∧
      ∀ (other : Catalog) (otherMessages : List Message), other.Holds otherMessages →
        otherMessages ≠ messages → other.render ≠ c.render := by
  refine ⟨read?_render_of_holds holds, ?_⟩
  intro other otherMessages otherHolds different same
  have read := read?_render_of_holds otherHolds
  rw [same, read?_render_of_holds holds] at read
  simp only [Option.some.injEq, Prod.mk.injEq] at read
  exact different read.2.symm

/-- A message with line feeds at both ends, and a backslash in front of an `n`. -/
theorem read?_render_lineFeeds :
    Holds
        { headers := [("X", "\\\"")]
          items := [Message.entry
            { references := ["a.html", ""], text := "\n\\n\"\n", translations := ["", "\t"] }] }
        [{ references := ["a.html", ""], text := "\n\\n\"\n", translations := ["", "\t"] }] ∧
      read? (render
        { headers := [("X", "\\\"")]
          items := [Message.entry
            { references := ["a.html", ""], text := "\n\\n\"\n", translations := ["", "\t"] }] }) =
        some ("X: \\\"\n",
          [{ references := ["a.html", ""], text := "\n\\n\"\n", translations := ["", "\t"] }]) := by
  have holds : Holds
      { headers := [("X", "\\\"")]
        items := [Message.entry
          { references := ["a.html", ""], text := "\n\\n\"\n", translations := ["", "\t"] }] }
      [{ references := ["a.html", ""], text := "\n\\n\"\n", translations := ["", "\t"] }] := by
    refine ⟨rfl, ?_, ?_⟩
    · intro m member
      simp only [List.mem_singleton] at member
      subst member
      exact ⟨by simp, by simp⟩
    · simp
  exact ⟨holds, (read?_render holds).1⟩

end Catalog

end Potfile
