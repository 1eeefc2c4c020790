import Potfile.Proofs.Catalog.RoundTrip

/-! # The lines of a catalog's text

* `lines`: a text line by line, and `Whole.flatMap_lines` back.
* `Whole`: characters that are whole lines, so that the lines behind them are those of what follows.
* `whole_field`, `whole_slotLines`: the strings of an entry are written on lines of their own.
* `closed_chars`: the text of a catalog ends with the quote of its last string and one line feed.
* `readLines?_eq_none`: a text with a line that cannot be read cannot be read.
-/

namespace Potfile.Catalog

/-- The lines of a text, without their line feeds. What stands behind the last line feed is a line
    only if it is not empty. -/
def lines : List Char → List (List Char)
  | [] => []
  | c :: cs =>
    if c = '\n' then [] :: lines cs
    else match lines cs with
      | [] => [[c]]
      | line :: rest => (c :: line) :: rest

theorem lines_append_lineFeed (front rest : List Char) :
    lines (front ++ '\n' :: rest) = front.splitOn '\n' ++ lines rest := by
  induction front with
  | nil => simp [lines]
  | cons c front inductionHypothesis =>
    rw [List.cons_append, lines, inductionHypothesis, List.splitOn_cons_eq_if_modifyHead]
    simp only [beq_iff_eq]
    split
    · rfl
    · obtain ⟨line, others, split⟩ :=
        List.exists_cons_of_ne_nil (List.splitOn_ne_nil '\n' front)
      rw [split]
      rfl

theorem lines_line {line : List Char} (oneLine : '\n' ∉ line) (rest : List Char) :
    lines (line ++ '\n' :: rest) = line :: lines rest := by
  rw [lines_append_lineFeed, List.splitOn_eq_singleton oneLine, List.singleton_append]

theorem lineFeed_not_mem_line {cs line : List Char} (member : line ∈ lines cs) : '\n' ∉ line := by
  induction cs generalizing line with
  | nil => cases member
  | cons c cs inductionHypothesis =>
    rw [lines] at member
    split at member
    · rw [List.mem_cons] at member
      obtain rfl | member := member
      · simp
      · exact inductionHypothesis member
    · next other =>
      cases rest : lines cs with
      | nil =>
        rw [rest, List.mem_singleton] at member
        simpa [member] using Ne.symm other
      | cons first others =>
        rw [rest] at member inductionHypothesis
        simp only [List.mem_cons] at member inductionHypothesis
        obtain rfl | member := member
        · simpa [Ne.symm other] using inductionHypothesis (.inl rfl)
        · exact inductionHypothesis (.inr member)

/-- Lines that are written one after another are the lines of their text. -/
theorem lines_flatMap_lineFeed {ls : List (List Char)} (oneLine : ∀ line ∈ ls, '\n' ∉ line) :
    lines (ls.flatMap (· ++ ['\n'])) = ls := by
  induction ls with
  | nil => rfl
  | cons line ls inductionHypothesis =>
    rw [List.forall_mem_cons] at oneLine
    rw [List.flatMap_cons, List.append_assoc, List.singleton_append, lines_line oneLine.1,
      inductionHypothesis oneLine.2]

/-! ## Whole lines -/

/-- The characters are whole lines: if there are any, the last one is a line feed. -/
def Whole (cs : List Char) : Prop := cs = [] ∨ ∃ front, cs = front ++ ['\n']

theorem Whole.nil : Whole [] := .inl rfl

theorem Whole.concat (front : List Char) : Whole (front ++ ['\n']) := .inr ⟨front, rfl⟩

theorem Whole.append {cs ds : List Char} (first : Whole cs) (second : Whole ds) :
    Whole (cs ++ ds) := by
  obtain rfl | ⟨front, rfl⟩ := second
  · rwa [List.append_nil]
  · rw [← List.append_assoc]
    exact .concat _

theorem Whole.flatMap {α : Type} {items : List α} {write : α → List Char}
    (each : ∀ item ∈ items, Whole (write item)) : Whole (items.flatMap write) := by
  induction items with
  | nil => exact .nil
  | cons item items inductionHypothesis =>
    rw [List.flatMap_cons]
    rw [List.forall_mem_cons] at each
    exact each.1.append (inductionHypothesis each.2)

/-- The lines behind whole lines are those of what follows. -/
theorem Whole.lines_append {cs : List Char} (whole : Whole cs) (rest : List Char) :
    lines (cs ++ rest) = lines cs ++ lines rest := by
  obtain rfl | ⟨front, rfl⟩ := whole
  · rfl
  · rw [List.append_assoc, List.singleton_append, lines_append_lineFeed, lines_append_lineFeed]
    simp [lines]

theorem Whole.splitOn_eq {cs : List Char} (whole : Whole cs) :
    cs.splitOn '\n' = lines cs ++ [[]] := by
  obtain rfl | ⟨front, rfl⟩ := whole
  · rfl
  · rw [List.splitOn_append_cons_self, lines_append_lineFeed]
    simp [lines]

/-- Whole lines are written by writing line after line. -/
theorem Whole.flatMap_lines {cs : List Char} (whole : Whole cs) :
    (lines cs).flatMap (· ++ ['\n']) = cs := by
  obtain rfl | ⟨front, rfl⟩ := whole
  · rfl
  · induction front with
    | nil => rfl
    | cons c front inductionHypothesis =>
      rw [List.cons_append, lines]
      split
      · next lineFeed => simp [inductionHypothesis, lineFeed]
      · obtain ⟨line, others, equal⟩ : ∃ line others, lines (front ++ ['\n']) = line :: others := by
          rw [lines_append_lineFeed]
          exact List.exists_cons_of_ne_nil (by simp)
        rw [equal] at inductionHypothesis
        simpa [equal] using inductionHypothesis

theorem lines_flatMap {α : Type} {items : List α} {write : α → List Char}
    (each : ∀ item ∈ items, Whole (write item)) :
    lines (items.flatMap write) = items.flatMap fun item => lines (write item) := by
  induction items with
  | nil => rfl
  | cons item items inductionHypothesis =>
    rw [List.forall_mem_cons] at each
    rw [List.flatMap_cons, each.1.lines_append, inductionHypothesis each.2, List.flatMap_cons]

/-! ## What is written on lines of its own -/

theorem whole_quotedLine (cs : List Char) : Whole (quotedLine cs) := by
  have closed : quotedLine cs = ('"' :: cs ++ ['"']) ++ ['\n'] := by simp [quotedLine]
  rw [closed]
  exact .concat _

theorem whole_quotedLines (line cs : List Char) : Whole (quotedLines line cs) := by
  -- The induction follows the characters; the current line is written when it ends.
  induction cs generalizing line with
  | nil =>
    cases line with
    | nil => exact .nil
    | cons c line =>
      rw [quotedLines_nil (by simp)]
      exact whole_quotedLine _
  | cons c cs inductionHypothesis =>
    rw [quotedLines]
    split
    · exact (whole_quotedLine _).append (inductionHypothesis _)
    · exact inductionHypothesis _

theorem whole_keywordLine (keyword cs : List Char) : Whole (keyword ++ ' ' :: quotedLine cs) := by
  have closed : keyword ++ ' ' :: quotedLine cs =
      (keyword ++ ' ' :: '"' :: cs ++ ['"']) ++ ['\n'] := by simp [quotedLine]
  rw [closed]
  exact .concat _

theorem whole_field (keyword : List Char) (escaped : String) : Whole (field keyword escaped) := by
  rw [field]
  split
  · exact (whole_keywordLine keyword []).append (whole_quotedLines [] _)
  · exact whole_keywordLine keyword _

theorem whole_slotLines (translations : List String) : Whole (slotLines translations) := by
  unfold slotLines
  split
  · exact whole_field _ _
  · exact whole_field _ _
  · rw [← List.flatMap_def]
    exact .flatMap fun _ _ => whole_field _ _

/-! ## The end of a text -/

/-- The characters end with a quoted string and its line. -/
def Closed (cs : List Char) : Prop := ['"', '\n'] <:+ cs

theorem Closed.append {cs : List Char} (closed : Closed cs) (front : List Char) :
    Closed (front ++ cs) := List.suffix_append_of_suffix closed

theorem closed_flatMap {α : Type} {items : List α} {write : α → List Char} (some : items ≠ [])
    (each : ∀ item ∈ items, Closed (write item)) : Closed (items.flatMap write) := by
  obtain ⟨front, last, rfl⟩ := (List.eq_nil_or_concat' items).resolve_left some
  rw [List.flatMap_append, List.flatMap_singleton]
  exact (each last (by simp)).append _

theorem Closed.append_flatMap {α : Type} {cs : List Char} (closed : Closed cs) {items : List α}
    {write : α → List Char} (each : ∀ item ∈ items, Closed (write item)) :
    Closed (cs ++ items.flatMap write) := by
  by_cases none : items = []
  · rwa [none, List.flatMap_nil, List.append_nil]
  · exact (closed_flatMap none each).append cs

theorem closed_quotedLine (cs : List Char) : Closed (quotedLine cs) := List.suffix_append ('"' :: cs) _

theorem Closed.append_quotedLines {cs : List Char} (closed : Closed cs) (line rest : List Char) :
    Closed (cs ++ quotedLines line rest) := by
  -- Nothing need be written for the rest, so what stands in front of it has to be closed, too.
  induction rest generalizing cs line with
  | nil =>
    cases line with
    | nil => rwa [quotedLines, List.append_nil]
    | cons c line =>
      rw [quotedLines_nil (by simp)]
      exact (closed_quotedLine _).append cs
  | cons c rest inductionHypothesis =>
    rw [quotedLines]
    split
    · rw [← List.append_assoc]
      exact inductionHypothesis ((closed_quotedLine _).append cs) []
    · exact inductionHypothesis closed _

theorem closed_field (keyword : List Char) (escaped : String) : Closed (field keyword escaped) := by
  have line (cs : List Char) : Closed (keyword ++ ' ' :: quotedLine cs) :=
    ((closed_quotedLine cs).append [' ']).append keyword
  rw [field]
  split
  · exact (line []).append_quotedLines [] _
  · exact line _

theorem closed_slotLines (translations : List String) : Closed (slotLines translations) := by
  unfold slotLines
  split
  · exact closed_field _ _
  · exact closed_field _ _
  · next notEmpty _ =>
    rw [← List.flatMap_def]
    refine closed_flatMap ?_ fun _ _ => closed_field _ _
    rw [ne_eq, List.zipIdx_eq_nil_iff]
    exact notEmpty

/-- The text of a catalog ends with a quoted string and one line feed. -/
theorem closed_chars (c : Catalog) : Closed c.chars := by
  have header (h : String × String) : Closed (headerLine h) := closed_quotedLine _
  have entry (e : Entry) : Closed (entryLines e) := (closed_slotLines e.msgstr).append _
  exact (((closed_field _ _).append _).append_flatMap fun h _ => header h).append_flatMap
    fun e _ => entry e

/-! ## Reading -/

theorem exists_line_of_mem {cs piece : List Char} {block : List Line}
    (read : readLines? cs = some block) (member : piece ∈ cs.splitOn '\n') :
    ∃ line ∈ block, Line.ofChars? piece = some line := by
  rw [readLines?] at read
  generalize cs.splitOn '\n' = pieces at read member
  induction pieces generalizing block with
  | nil => cases member
  | cons first rest inductionHypothesis =>
    simp only [List.mapM_cons, Option.bind_eq_bind, Option.bind_eq_some_iff, Option.pure_def,
      Option.some.injEq] at read
    obtain ⟨line, readFirst, others, readRest, rfl⟩ := read
    rcases List.mem_cons.mp member with rfl | member
    · exact ⟨line, List.mem_cons_self, readFirst⟩
    · obtain ⟨other, within, readOther⟩ := inductionHypothesis readRest member
      exact ⟨other, List.mem_cons_of_mem _ within, readOther⟩

theorem readLines?_eq_none {cs piece : List Char} (member : piece ∈ cs.splitOn '\n')
    (unreadable : Line.ofChars? piece = none) : readLines? cs = none := by
  rw [Option.eq_none_iff_forall_ne_some]
  intro block read
  obtain ⟨line, _, readable⟩ := exists_line_of_mem read member
  rw [unreadable] at readable
  contradiction

end Potfile.Catalog
