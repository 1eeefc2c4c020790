import Potfile.Proofs.Catalog.Headers

/-! # References are comments

A reference is written as it is, behind the mark of a comment. It stays a comment as long as each
line feed in it is followed by another such mark.

* `uncommented`: what a reader that skips comments reads of a text.
* `Catalog.bare`: the catalog without its references.
* `uncommented_render_eq_iff`: the references of a catalog leave no trace in its uncommented text
  exactly if they are `Contained`.
* `read?_uncommented_render`: so catalogs that differ in such references only are read alike.
-/

namespace Potfile

open Quoting (escape)

/-- The entry without its references. -/
def Entry.bare (e : Entry) : Entry := { e with references := [] }

namespace Catalog

/-- The catalog without its references. -/
def bare (c : Catalog) : Catalog := { c with items := c.items.map Entry.bare }

/-! ## Comments -/

def isComment (line : List Char) : Bool := line.head? == some '#'

/-- The lines that are no comments. -/
def statements (cs : List Char) : List (List Char) := (lines cs).filter (!isComment ·)

/-- The text without its comments. -/
def uncommented (text : String) : String :=
  String.ofList ((statements text.toList).flatMap (· ++ ['\n']))

theorem Whole.statements_append {cs : List Char} (whole : Whole cs) (rest : List Char) :
    statements (cs ++ rest) = statements cs ++ statements rest := by
  rw [statements, whole.lines_append, List.filter_append, statements, statements]

theorem statements_flatMap {α : Type} {items : List α} {write : α → List Char}
    (each : ∀ item ∈ items, Whole (write item)) :
    statements (items.flatMap write) = items.flatMap fun item => statements (write item) := by
  rw [statements, lines_flatMap each, List.filter_flatMap]
  rfl

/-- Two texts without comments are the same if their lines are. -/
theorem uncommented_eq_iff {text other : String} :
    uncommented text = uncommented other ↔ statements text.toList = statements other.toList := by
  have oneLine (cs : List Char) : ∀ line ∈ statements cs, '\n' ∉ line :=
    fun line member => lineFeed_not_mem_line (List.mem_of_mem_filter member)
  constructor
  · intro same
    have joined := congrArg lines (String.ofList_injective same)
    rwa [lines_flatMap_lineFeed (oneLine _), lines_flatMap_lineFeed (oneLine _)] at joined
  · intro same
    rw [uncommented, same, uncommented]

/-- A comment is read as one. -/
theorem isComment_eq_false {piece : List Char} {line : Line} (read : Line.ofChars? piece = some line)
    (statement : line.isString = true ∨ line = .blank) : isComment piece = false := by
  by_contra comment
  have head : piece.head? = some '#' := by simpa [isComment] using comment
  obtain ⟨rest, rfl⟩ := List.head?_eq_some_iff.mp head
  cases line with
  | blank | field | more =>
    rw [Line.ofChars?.eq_def] at read
    split at read <;> simp_all
  | reference | comment => simp [Line.isString] at statement

/-- Lines that hold strings are no comments. -/
theorem statements_of_fieldsOf {cs : List Char} {fields : List (Keyword × List Char)}
    (whole : Whole cs) (written : FieldsOf cs fields) : statements cs = lines cs := by
  obtain ⟨block, writtenLines, areStrings, _⟩ := written
  rw [statements, List.filter_eq_self]
  intro piece member
  obtain ⟨line, within, read⟩ : ∃ line ∈ block ++ [.blank], Line.ofChars? piece = some line := by
    apply exists_line_of_mem writtenLines.read
    rw [whole.splitOn_eq]
    exact List.mem_append_left _ member
  have statement : line.isString = true ∨ line = .blank := by
    rw [List.mem_append, List.mem_singleton] at within
    exact within.imp (areStrings line) id
  rw [isComment_eq_false read statement]
  rfl

/-! ## References -/

/-- Each line feed in it is followed by the mark of another comment. -/
def Contained (cs : List Char) : Prop :=
  ∀ before after, cs = before ++ '\n' :: after → after.head? = some '#'

theorem contained_lineFeed_iff {cs : List Char} :
    Contained ('\n' :: cs) ↔ cs.head? = some '#' ∧ Contained cs := by
  constructor
  · exact fun contained => ⟨contained [] cs rfl, fun before after split =>
      contained ('\n' :: before) after (by rw [split, List.cons_append])⟩
  · rintro ⟨head, contained⟩ before after split
    cases before with
    | nil => rwa [← (List.cons.inj split).2]
    | cons c before => exact contained before after (List.cons.inj split).2

theorem contained_cons_iff {c : Char} (other : c ≠ '\n') {cs : List Char} :
    Contained (c :: cs) ↔ Contained cs := by
  constructor
  · exact fun contained before after split =>
      contained (c :: before) after (by rw [split, List.cons_append])
  · rintro contained before after split
    cases before with
    | nil => exact absurd (List.cons.inj split).1 other
    | cons d before => exact contained before after (List.cons.inj split).2

/-- A text starts a comment if its first line is one. -/
theorem isComment_head_iff {cs first : List Char} {others : List (List Char)}
    (split : cs.splitOn '\n' = first :: others) : isComment first = true ↔ cs.head? = some '#' := by
  cases cs with
  | nil =>
    obtain ⟨rfl, _⟩ := List.cons.inj split
    simp [isComment]
  | cons c cs =>
    rw [List.splitOn_cons_eq_if_modifyHead] at split
    split at split
    · next lineFeed =>
      obtain ⟨rfl, _⟩ := List.cons.inj split
      simp [isComment, beq_iff_eq.mp lineFeed]
    · obtain ⟨line, rest, equal⟩ := List.exists_cons_of_ne_nil (List.splitOn_ne_nil '\n' cs)
      rw [equal] at split
      obtain ⟨rfl, _⟩ := List.cons.inj split
      simp [isComment]

theorem forall_mem_tail_isComment_iff (cs : List Char) :
    (∀ piece ∈ (cs.splitOn '\n').tail, isComment piece = true) ↔ Contained cs := by
  induction cs with
  | nil => simp [Contained]
  | cons c cs inductionHypothesis =>
    obtain ⟨first, others, equal⟩ := List.exists_cons_of_ne_nil (List.splitOn_ne_nil '\n' cs)
    rw [List.splitOn_cons_eq_if_modifyHead]
    rw [equal] at inductionHypothesis ⊢
    by_cases lineFeed : c = '\n'
    · -- The line that begins behind it is one of those in question.
      subst lineFeed
      rw [contained_lineFeed_iff, ← inductionHypothesis, ← isComment_head_iff equal]
      simp
    · rw [contained_cons_iff lineFeed, ← inductionHypothesis]
      simp [lineFeed]

theorem whole_referenceLine (reference : String) : Whole (referenceLine reference) := .concat _

theorem statements_referenceLine_eq_nil_iff {reference : String} :
    statements (referenceLine reference) = [] ↔ Contained reference.toList := by
  -- Its mark makes the first line a comment, so that the others decide.
  obtain ⟨first, others, equal⟩ :=
    List.exists_cons_of_ne_nil (List.splitOn_ne_nil '\n' reference.toList)
  have split : lines (referenceLine reference) = ('#' :: ':' :: ' ' :: first) :: others := by
    rw [referenceLine, lines_append_lineFeed]
    simp [List.splitOn_cons_eq_if_modifyHead, equal, lines]
  rw [← forall_mem_tail_isComment_iff, equal, statements, split, List.filter_eq_nil_iff]
  simp [isComment]

/-! ## Entries -/

/-- What is written of an entry behind its references. -/
def entryBody (e : Entry) : List Char :=
  field "msgid".toList e.msgid ++ (e.plural.map (field "msgid_plural".toList)).getD [] ++
    slotLines e.msgstr

theorem entryLines_eq (e : Entry) :
    entryLines e = ['\n'] ++ (e.references.flatMap referenceLine ++ entryBody e) := by
  simp [entryLines, entryBody]

theorem whole_entryBody (e : Entry) : Whole (entryBody e) := by
  refine ((whole_field _ _).append ?_).append (whole_slotLines _)
  cases e.plural with
  | none => exact .nil
  | some plural => exact whole_field _ _

theorem whole_lineFeed : Whole ['\n'] := .concat []

theorem whole_entryLines (e : Entry) : Whole (entryLines e) := by
  rw [entryLines_eq]
  exact whole_lineFeed.append
    ((Whole.flatMap fun reference _ => whole_referenceLine reference).append (whole_entryBody e))

theorem statements_entryLines (e : Entry) :
    statements (entryLines e) =
      [] :: (e.references.flatMap (fun reference => statements (referenceLine reference)) ++
        statements (entryBody e)) := by
  rw [entryLines_eq, whole_lineFeed.statements_append,
    (Whole.flatMap fun reference _ => whole_referenceLine reference).statements_append,
    statements_flatMap fun reference _ => whole_referenceLine reference]
  rfl

theorem statements_entryLines_bare (e : Entry) :
    statements (entryLines e.bare) = [] :: statements (entryBody e) := by
  rw [statements_entryLines]
  rfl

theorem sublist_statements_bare (e : Entry) :
    (statements (entryLines e.bare)).Sublist (statements (entryLines e)) := by
  rw [statements_entryLines_bare, statements_entryLines]
  exact (List.sublist_append_right _ _).cons_cons []

theorem statements_entryLines_eq_iff {e : Entry} :
    statements (entryLines e) = statements (entryLines e.bare) ↔
      ∀ reference ∈ e.references, Contained reference.toList := by
  rw [statements_entryLines_bare, statements_entryLines, List.cons_inj_right,
    List.append_left_eq_self, List.flatMap_eq_nil_iff]
  simp only [statements_referenceLine_eq_nil_iff]

/-! ## Catalogs -/

theorem statements_chars (c : Catalog) :
    statements c.chars = statements (headerBlock c.headers) ++
      c.items.flatMap fun e => statements (entryLines e) := by
  rw [← statements_flatMap fun e _ => whole_entryLines e, ←
    (whole_headerBlock c.headers).statements_append]
  rfl

section FlatMap

variable {α β : Type} {more less : α → List β}

theorem sublist_flatMap (sublist : ∀ item, (less item).Sublist (more item)) (items : List α) :
    (items.flatMap less).Sublist (items.flatMap more) := by
  induction items with
  | nil => exact .slnil
  | cons item items inductionHypothesis =>
    rw [List.flatMap_cons, List.flatMap_cons]
    exact (sublist item).append inductionHypothesis

/-- If one list is longer than another piece by piece, they are the same only if no piece is. -/
theorem flatMap_eq_iff_of_sublist (sublist : ∀ item, (less item).Sublist (more item))
    {items : List α} :
    items.flatMap more = items.flatMap less ↔ ∀ item ∈ items, more item = less item := by
  induction items with
  | nil => simp
  | cons item items inductionHypothesis =>
    rw [List.flatMap_cons, List.flatMap_cons, List.forall_mem_cons, ← inductionHypothesis]
    constructor
    · intro same
      have longer := (sublist item).length_le
      have longer' := (sublist_flatMap sublist items).length_le
      have total := congrArg List.length same
      rw [List.length_append, List.length_append] at total
      exact ⟨((sublist item).eq_of_length (by omega)).symm,
        ((sublist_flatMap sublist items).eq_of_length (by omega)).symm⟩
    · rintro ⟨first, rest⟩
      rw [first, rest]

end FlatMap

theorem statements_chars_eq_iff {c : Catalog} :
    statements c.chars = statements c.bare.chars ↔
      ∀ e ∈ c.items, ∀ reference ∈ e.references, Contained reference.toList := by
  rw [statements_chars, statements_chars, bare, List.flatMap_map, List.append_right_inj,
    flatMap_eq_iff_of_sublist sublist_statements_bare]
  simp only [statements_entryLines_eq_iff]

/-- The references leave no trace in the uncommented text exactly if they are contained. -/
theorem uncommented_render_eq_iff {c : Catalog} :
    uncommented c.render = uncommented c.bare.render ↔
      ∀ e ∈ c.items, ∀ reference ∈ e.references, Contained reference.toList := by
  rw [uncommented_eq_iff, render, render, String.toList_ofList, String.toList_ofList,
    statements_chars_eq_iff]

/-! ## Reading -/

theorem whole_chars (c : Catalog) : Whole c.chars :=
  (whole_headerBlock c.headers).append (.flatMap fun e _ => whole_entryLines e)

/-- An entry without references is written without comments. -/
theorem statements_entryLines_of_writable {m : Message} (writable : m.Writable)
    (none : m.references = []) : statements (entryLines m.entry) = lines (entryLines m.entry) := by
  obtain ⟨slots, writtenSlots, _⟩ := exists_fieldsOf_slotLines writable.translated
  have body : statements (entryBody m.entry) = lines (entryBody m.entry) :=
    statements_of_fieldsOf (whole_entryBody m.entry) ((fieldsOf_texts m).append writtenSlots)
  have unreferred : entryLines m.entry = ['\n'] ++ entryBody m.entry := by
    simp [entryLines_eq, Message.entry, none]
  rw [unreferred, whole_lineFeed.statements_append, whole_lineFeed.lines_append, body]
  rfl

theorem uncommented_bare_of_holds {c : Catalog} {messages : List Message}
    (holds : c.bare.Holds messages) : uncommented c.bare.render = c.bare.render := by
  have entries : ∀ e ∈ c.bare.items, statements (entryLines e) = lines (entryLines e) := by
    intro e member
    have none : e.references = [] := by
      obtain ⟨kept, _, rfl⟩ := List.mem_map.mp member
      rfl
    rw [holds.items] at member
    obtain ⟨m, within, rfl⟩ := List.mem_map.mp member
    exact statements_entryLines_of_writable (holds.writable m within) none
  have all : statements c.bare.chars = lines c.bare.chars := by
    rw [statements_chars, statements_of_fieldsOf (whole_headerBlock _)
      (fieldsOf_headerBlock holds.oneLine), List.flatMap_congr entries,
      ← lines_flatMap fun e _ => whole_entryLines e, ← (whole_headerBlock _).lines_append]
    rfl
  rw [uncommented, render, String.toList_ofList, all, (whole_chars c.bare).flatMap_lines]

/-- References that are contained alter no message: catalogs that differ in them only have the same
    uncommented text, which is read as their messages. Any other reference is seen in that text, so
    that the condition is exact for it. For reading, it is sufficient only: a reference that ends with
    a line feed leaves an empty line in that text, which is skipped, though it is not contained. -/
theorem read?_uncommented_render (c : Catalog) :
    (uncommented c.render = uncommented c.bare.render ↔
      ∀ e ∈ c.items, ∀ reference ∈ e.references, Contained reference.toList) ∧
    (∀ other : Catalog, c.bare = other.bare →
      (∀ e ∈ c.items ++ other.items, ∀ reference ∈ e.references, Contained reference.toList) →
      read? (uncommented c.render) = read? (uncommented other.render)) ∧
    ∀ messages : List Message, c.bare.Holds messages →
      (∀ e ∈ c.items, ∀ reference ∈ e.references, Contained reference.toList) →
      read? (uncommented c.render) = some (headerText c.headers, messages) := by
  refine ⟨uncommented_render_eq_iff, ?_, ?_⟩
  · intro other same contained
    rw [List.forall_mem_append] at contained
    rw [uncommented_render_eq_iff.mpr contained.1, uncommented_render_eq_iff.mpr contained.2, same]
  · intro messages holds contained
    rw [uncommented_render_eq_iff.mpr contained, uncommented_bare_of_holds holds,
      read?_render_of_holds holds]
    rfl

example :
    read? (uncommented (render { items := [{ msgid := "m", references := ["a.js\n"] }] })) =
      some ("", [{ text := "m", translations := [""] }]) := by
  decide +kernel

/-- A file name with line feeds, after which it is a comment again. -/
def namedLikeEntry : String := "a\nmsgid \"b\"\nmsgstr \"\"\n\n#.js"

/-- A reference may add an entry to the messages. -/
theorem entry_added_by_reference :
    read? (uncommented (render { items := [{ msgid := "m", references := [namedLikeEntry] }] })) =
      some ("", [{ text := "b", translations := [""] }, { text := "m", translations := [""] }]) ∧
    read? (uncommented (render { items := [{ msgid := "m", references := ["a.js"] }] })) =
      some ("", [{ text := "m", translations := [""] }]) := by
  decide +kernel

end Catalog

end Potfile
