import Potfile.Extractor
import Potfile.Proofs.Catalog.Order
import Potfile.Proofs.Registry.Conflicts

/-! # What the catalog of a file holds

From the occurrences in a file to the text that is passed on for it.

* `transform_of_empty`, `transform_of_conflicts`, `transform_of_silent`: what is passed on for a
  file with bytes, one case for each way through.
* `Entry.Describes`: what the entry of a message says, in terms of the occurrences alone.
* `Catalog.Collects`: the catalog has an entry for each message and no others, in order.
-/

namespace Potfile

open Text (trim)
open Quoting (escape)
open Registry (keys mentions givenPlural? firstPlural? entryOf locations tally)

/-! ## Ways through a file -/

namespace Extractor

variable (x : Extractor) {path : String} {bytes : ByteArray}

def occurrencesIn (path : String) (bytes : ByteArray) : List Occurrence :=
  x.occurrences path (Text.Utf8.decodeLossy bytes)

def conflictsIn (path : String) (bytes : ByteArray) : List PluralConflict :=
  (x.pass ⟨path, .buffer bytes⟩ (Text.Utf8.decodeLossy bytes)).conflicts

theorem transform_of_empty (empty : bytes.size = 0) :
    x.transform ⟨path, .buffer bytes⟩ = [.file ⟨path, .buffer bytes⟩] := by
  simp [transform, empty]

theorem transform_of_conflicts (some : bytes.size ≠ 0) (loud : x.conflictsIn path bytes ≠ []) :
    x.transform ⟨path, .buffer bytes⟩ =
      (x.conflictsIn path bytes).map (.error <| .incompatiblePlural ·) ++
        [.file ⟨path, .buffer bytes⟩] := by
  have failed : (x.pass ⟨path, .buffer bytes⟩ (Text.Utf8.decodeLossy bytes)).failed = true := by
    simpa [FilePass.failed, conflictsIn] using loud
  simp [transform, some, failed, conflictsIn]

theorem transform_of_silent (some : bytes.size ≠ 0) (silent : x.conflictsIn path bytes = []) :
    x.transform ⟨path, .buffer bytes⟩ =
      [.file ⟨path, .buffer (x.catalog ⟨path, .buffer bytes⟩
        (tally (x.locate ⟨path, .buffer bytes⟩) (x.occurrencesIn path bytes))).render.toUTF8⟩] := by
  have silent' : (x.pass ⟨path, .buffer bytes⟩ (Text.Utf8.decodeLossy bytes)).failed = false := by
    simpa [FilePass.failed, conflictsIn] using silent
  have registry : (x.pass ⟨path, .buffer bytes⟩ (Text.Utf8.decodeLossy bytes)).registry =
      tally (x.locate ⟨path, .buffer bytes⟩) (x.occurrencesIn path bytes) := by
    rw [pass, FilePass.ofOccurrences, Registry.registerAll_empty, occurrencesIn]
  simp [transform, some, silent', registry]

end Extractor

/-! ## Entries -/

/-- The entry says of a message what the occurrences say: where it was found, each place once; the
    plural that came with it, if there was any; and then it has two slots. -/
structure Entry.Describes (e : Entry) (locate : String → Option String → String)
    (occurrences : List Occurrence) (message : String) : Prop where
  msgid : e.msgid = escape message
  references : e.references =
    ((occurrences.filter (trim ·.text = message)).map fun o => locate message o.plural).eraseDups
  plural : ∀ text, e.plural = some text ↔
    ∃ o ∈ occurrences, trim o.text = message ∧ ∃ p, o.plural = some p ∧ p ≠ "" ∧ text = escape p
  msgstr : e.msgstr = if e.plural.isSome then ["", ""] else [""]

namespace Registry

theorem givenPlural?_eq_some_iff {o : Occurrence} {text : String} :
    givenPlural? o = some text ↔ o.plural = some text ∧ text ≠ "" := by
  rw [givenPlural?, Option.filter_eq_some_iff]
  simp

theorem describes_entryOf {locate : String → Option String → String}
    {occurrences : List Occurrence} (silent : conflictsFrom locate [] occurrences = [])
    {message : String} (notBlank : message ≠ "") :
    (entryOf locate occurrences message).Describes locate occurrences message := by
  refine ⟨rfl, rfl, ?_, ?_⟩
  · -- The entry has the first plural given; without conflicts, every other one is the same.
    intro text
    rw [entryOf, Option.map_eq_some_iff]
    constructor
    · rintro ⟨p, first, rfl⟩
      obtain ⟨o, member, mentioned, given⟩ := exists_of_firstPlural? first
      obtain ⟨plural, some⟩ := givenPlural?_eq_some_iff.mp given
      exact ⟨o, member, mentioned, p, plural, some, rfl⟩
    · rintro ⟨o, member, rfl, p, plural, some, rfl⟩
      have given := givenPlural?_eq_some_iff.mpr ⟨plural, some⟩
      exact ⟨p, firstPlural?_of_silent locate silent member notBlank given, rfl⟩
  · simp [entryOf]

end Registry

/-! ## Catalogs -/

namespace Catalog

/-- The lines of an entry with one slot, or with a plural and two numbered slots. -/
def entryText (e : Entry) : List Char :=
  '\n' :: e.references.flatMap referenceLine ++ field "msgid".toList e.msgid ++
    match e.plural with
    | none => field "msgstr".toList ""
    | some plural => field "msgid_plural".toList plural ++ field "msgstr[0]".toList "" ++
        field "msgstr[1]".toList ""

theorem entryLines_eq_entryText {e : Entry}
    (msgstr : e.msgstr = if e.plural.isSome then ["", ""] else [""]) :
    entryLines e = entryText e := by
  have escaped : escape "" = "" := Quoting.escape_eq_empty.mpr rfl
  rw [entryLines, entryText, msgstr]
  cases e.plural with
  | none => simp [slotLines, escaped]
  | some plural =>
    have zero : Nat.toDigits 10 0 = ['0'] := by decide
    have one : Nat.toDigits 10 1 = ['1'] := by decide
    simp [slotLines, escaped, zero, one]

/-- The catalog has what the occurrences say of each message, and nothing else. -/
structure Collects (c : Catalog) (locate : String → Option String → String)
    (compare : String → String → Ordering) (occurrences : List Occurrence) : Prop where
  /-- No occurrence is lost. -/
  complete : ∀ o ∈ occurrences, trim o.text ≠ "" →
    ∃ e ∈ c.items, e.Describes locate occurrences (trim o.text)
  /-- No entry is added. -/
  sound : ∀ e ∈ c.items, ∃ o ∈ occurrences, trim o.text ≠ "" ∧
    e.Describes locate occurrences (trim o.text)
  /-- No message is defined twice. -/
  distinct : (c.items.map (·.msgid)).Nodup
  /-- The empty message is that of the headers. -/
  reserved : "" ∉ c.items.map (·.msgid)
  ordered : c.items.Pairwise fun a b => (compare a.msgid b.msgid).isLE
  /-- Messages that compare equal to a text come in the order of their first occurrences. -/
  stable : ∀ text, (c.items.map (·.msgid)).filter (compare · text = .eq) =
    ((keys occurrences).map escape).filter (compare · text = .eq)
  /-- A plural is written exactly where numbered slots are. -/
  written : ∀ e ∈ c.items, entryLines e = entryText e

theorem mem_items_sort_iff {locate : String → Option String → String}
    {compare : String → String → Ordering} {occurrences : List Occurrence} {headers : Headers}
    {e : Entry} :
    e ∈ (Catalog.sort compare ⟨headers, (tally locate occurrences).toList⟩).items ↔
      ∃ message ∈ keys occurrences, entryOf locate occurrences message = e := by
  rw [(perm_items_sort compare _).mem_iff]
  simp [tally, Registry.toList]

theorem collects_sort {locate : String → Option String → String}
    {compare : String → String → Ordering} [Std.TransCmp compare] {occurrences : List Occurrence}
    (silent : Registry.conflictsFrom locate [] occurrences = []) (headers : Headers) :
    (Catalog.sort compare ⟨headers, (tally locate occurrences).toList⟩).Collects locate compare
      occurrences := by
  have perm := perm_items_sort compare ⟨headers, (tally locate occurrences).toList⟩
  have ids := (perm.map (·.msgid)).trans (.of_eq (Registry.msgids_tally locate occurrences))
  have sound : ∀ e ∈ (Catalog.sort compare ⟨headers, (tally locate occurrences).toList⟩).items,
      ∃ o ∈ occurrences, trim o.text ≠ "" ∧ e.Describes locate occurrences (trim o.text) := by
    intro e member
    obtain ⟨message, known, rfl⟩ := mem_items_sort_iff.mp member
    obtain ⟨notBlank, o, within, rfl⟩ := Registry.mem_keys.mp known
    exact ⟨o, within, notBlank, Registry.describes_entryOf silent notBlank⟩
  refine { complete := ?_, sound, distinct := ?_, reserved := ?_, ordered := ?_, stable := ?_,
           written := ?_ }
  · intro o member notBlank
    have known := Registry.mem_keys.mpr ⟨notBlank, o, member, rfl⟩
    exact ⟨entryOf locate occurrences (trim o.text), mem_items_sort_iff.mpr ⟨_, known, rfl⟩,
      Registry.describes_entryOf silent notBlank⟩
  · -- The messages are distinct, and different messages are escaped differently.
    rw [ids.nodup_iff]
    exact (Registry.nodup_keys occurrences).map Quoting.escape_injective
  · rw [ids.mem_iff]
    intro member
    obtain ⟨message, known, empty⟩ := List.mem_map.mp member
    exact (Registry.mem_keys.mp known).1 (Quoting.escape_eq_empty.mp empty)
  · exact pairwise_items_sort compare _
  · intro text
    rw [List.filter_map, ← Registry.msgids_tally locate occurrences, List.filter_map]
    exact congrArg (List.map (·.msgid))
      (filter_items_sort compare ⟨headers, (tally locate occurrences).toList⟩ text)
  · intro e member
    obtain ⟨_, _, _, describes⟩ := sound e member
    exact entryLines_eq_entryText describes.msgstr

end Catalog

namespace Extractor

/-- A file without conflicts is passed on with the text of a catalog. This catalog has one entry
    for each message that the strategy of the file finds, and no others, in the order of the
    comparison. -/
theorem exists_catalog_of_silent (x : Extractor) [Std.TransCmp x.compare] {path : String}
    {bytes : ByteArray} (some : bytes.size ≠ 0) (silent : x.conflictsIn path bytes = []) :
    ∃ c : Catalog,
      x.transform ⟨path, .buffer bytes⟩ = [.file ⟨path, .buffer c.render.toUTF8⟩] ∧
      c.headers = (x.headers ⟨path, .buffer bytes⟩).getD [] ∧
      c.Collects (x.locate ⟨path, .buffer bytes⟩) x.compare (x.occurrencesIn path bytes) ∧
      (x.strategyFor? path = none → c.items = []) := by
  refine ⟨_, x.transform_of_silent some silent, rfl, ?_, ?_⟩
  · apply Catalog.collects_sort
    rw [← silent, conflictsIn, pass, FilePass.conflicts_eq, occurrencesIn]
  · intro unknown
    have none : x.occurrencesIn path bytes = [] := by
      rw [occurrencesIn, occurrences, unknown]
    rw [none]
    simp [catalog, Catalog.sort, tally, keys, Registry.toList]

/-- An extractor for scripts, whose catalogs say which file they belong to. -/
def ofScripts : Extractor where
  strategies := [(".js", .js)]
  delimiters := .none
  compare := Collation.undetermined.compare
  headers := fun file => some [("X-Source", file.path)]

/-- Two calls with one message, and a third one whose message comes first in the order. -/
theorem exists_catalog_of_silent_threeCalls :
    "gettext('b');gettext(' a');gettext('b ')".toUTF8.size ≠ 0 ∧
    ofScripts.conflictsIn "b.js" "gettext('b');gettext(' a');gettext('b ')".toUTF8 = [] ∧
    ∃ c : Catalog,
      ofScripts.transform ⟨"b.js", .buffer "gettext('b');gettext(' a');gettext('b ')".toUTF8⟩ =
        [.file ⟨"b.js", .buffer c.render.toUTF8⟩] ∧
      c.headers = [("X-Source", "b.js")] ∧
      c.Collects (fun _ _ => "b.js") Collation.undetermined.compare
        [⟨"b", none⟩, ⟨" a", none⟩, ⟨"b ", none⟩] := by
  have some : "gettext('b');gettext(' a');gettext('b ')".toUTF8.size ≠ 0 := by decide +kernel
  have silent : ofScripts.conflictsIn "b.js"
      "gettext('b');gettext(' a');gettext('b ')".toUTF8 = [] := by decide +kernel
  have found : ofScripts.occurrencesIn "b.js"
      "gettext('b');gettext(' a');gettext('b ')".toUTF8 =
        [⟨"b", none⟩, ⟨" a", none⟩, ⟨"b ", none⟩] := by decide +kernel
  have preorder : Std.TransCmp ofScripts.compare :=
    inferInstanceAs (Std.TransCmp Collation.undetermined.compare)
  obtain ⟨c, passed, headers, collects, _⟩ := exists_catalog_of_silent ofScripts some silent
  rw [found] at collects
  exact ⟨some, silent, c, passed, headers, collects⟩

end Extractor

end Potfile
