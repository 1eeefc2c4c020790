import Potfile.Proofs.Extraction
import Mathlib.Data.List.Dedup

/-! # The order of discovery

Two lists of occurrences that say the same make one catalog, in whatever order and however often
each says it. The entries come in another order then, and may get their plural sooner or later;
sorting brings them together, as long as the comparison tells the messages apart and places are
named by the file alone.
-/

namespace Potfile

open Text (trim)
open Quoting (escape)
open Registry (keys mentions givenPlural? firstPlural? entryOf locations tally conflictsFrom)

namespace Occurrence

/-- The message and the plural of an occurrence. -/
def said (o : Occurrence) : String × Option String := (trim o.text, o.plural)

/-- Each occurrence of one list has a counterpart in the other. -/
def SaySame (first second : List Occurrence) : Prop :=
  ∀ pair, pair ∈ first.map said ↔ pair ∈ second.map said

theorem SaySame.symm {first second : List Occurrence} (same : SaySame first second) :
    SaySame second first := fun pair => (same pair).symm

theorem SaySame.exists {first second : List Occurrence} (same : SaySame first second)
    {o : Occurrence} (member : o ∈ first) :
    ∃ o' ∈ second, trim o'.text = trim o.text ∧ o'.plural = o.plural := by
  obtain ⟨o', member', equal⟩ :=
    List.mem_map.mp ((same o.said).mp (List.mem_map_of_mem member))
  exact ⟨o', member', congrArg Prod.fst equal, congrArg Prod.snd equal⟩

end Occurrence

open Occurrence (SaySame)

namespace Registry

variable {first second : List Occurrence}

/-! ## What is the same for both lists -/

theorem perm_keys_of_saySame (same : SaySame first second) : (keys first).Perm (keys second) := by
  -- The messages of a list are distinct, so it is enough that the lists have the same ones.
  have within {first second : List Occurrence} (same : SaySame first second) {message : String}
      (known : message ∈ keys first) : message ∈ keys second := by
    obtain ⟨notBlank, o, member, text⟩ := mem_keys.mp known
    obtain ⟨o', member', text', -⟩ := same.exists member
    exact mem_keys.mpr ⟨notBlank, o', member', text'.trans text⟩
  rw [List.perm_ext_iff_of_nodup (nodup_keys first) (nodup_keys second)]
  intro message
  exact ⟨within same, within same.symm⟩

theorem silent_of_saySame {locate : String → Option String → String}
    (locate' : String → Option String → String) (same : SaySame first second)
    (silent : conflictsFrom locate [] first = []) : conflictsFrom locate' [] second = [] := by
  -- Two occurrences that contradict each other have counterparts in the first list that do so too.
  by_contra loud
  obtain ⟨a, memberA, b, memberB, notBlank, text, p, q, givenA, givenB, different⟩ :=
    (conflictsFrom_ne_nil_iff locate').mp loud
  obtain ⟨a', memberA', textA, pluralA⟩ := same.symm.exists memberA
  obtain ⟨b', memberB', textB, pluralB⟩ := same.symm.exists memberB
  refine (conflictsFrom_ne_nil_iff locate).mpr ?_ silent
  refine ⟨a', memberA', b', memberB', textA ▸ notBlank, ?_, p, q, ?_, ?_, different⟩
  · rw [textA, text, textB]
  · rw [givenPlural?, pluralA]
    exact givenA
  · rw [givenPlural?, pluralB]
    exact givenB

/-- Without a conflict, the first plural is any that was given. -/
theorem firstPlural?_eq_some_iff {locate : String → Option String → String}
    (silent : conflictsFrom locate [] first = []) {message plural : String}
    (notBlank : message ≠ "") :
    firstPlural? first message = some plural ↔
      ∃ o ∈ first, trim o.text = message ∧ givenPlural? o = some plural := by
  constructor
  · exact exists_of_firstPlural?
  · rintro ⟨o, member, rfl, given⟩
    exact firstPlural?_of_silent locate silent member notBlank given

theorem firstPlural?_of_saySame {locate : String → Option String → String}
    (same : SaySame first second) (silent : conflictsFrom locate [] first = [])
    {message : String} (notBlank : message ≠ "") :
    firstPlural? first message = firstPlural? second message := by
  have within {first second : List Occurrence} (same : SaySame first second) {plural : String} :
      (∃ o ∈ first, trim o.text = message ∧ givenPlural? o = some plural) →
        ∃ o ∈ second, trim o.text = message ∧ givenPlural? o = some plural := by
    rintro ⟨o, member, text, given⟩
    obtain ⟨o', member', text', plural'⟩ := same.exists member
    exact ⟨o', member', text'.trans text, by rw [givenPlural?, plural']; exact given⟩
  -- Which plural stands first in its list is no matter, for all that are given are equal.
  apply Option.ext
  intro plural
  rw [firstPlural?_eq_some_iff silent notBlank,
    firstPlural?_eq_some_iff (silent_of_saySame locate same silent) notBlank]
  exact ⟨within same, within same.symm⟩

/-! ## Entries and registries -/

theorem locations_of_place {locate : String → Option String → String} {place : String}
    (located : ∀ message plural, locate message plural = place) {message : String}
    (known : message ∈ keys first) : locations locate first message = [place] := by
  obtain ⟨-, o, member, text⟩ := mem_keys.mp known
  have places : (mentions first message).map (fun o => locate message o.plural) =
      List.replicate (mentions first message).length place := by
    simp [located, List.map_const']
  have some : (mentions first message).length ≠ 0 := by
    have mentioned : o ∈ mentions first message :=
      List.mem_filter.mpr ⟨member, by simpa using text⟩
    exact Nat.ne_of_gt (List.length_pos_of_mem mentioned)
  -- One place over and over, and at least once: what is left without repetitions is the place.
  rw [locations, places]
  obtain ⟨n, length⟩ := Nat.exists_eq_succ_of_ne_zero some
  rw [length, List.replicate_succ, List.eraseDups_cons]
  simp

theorem entryOf_of_saySame {locate : String → Option String → String} {place : String}
    (located : ∀ message plural, locate message plural = place)
    (same : SaySame first second) (silent : conflictsFrom locate [] first = [])
    {message : String} (known : message ∈ keys first) :
    entryOf locate first message = entryOf locate second message := by
  have notBlank := (mem_keys.mp known).1
  have known' := (perm_keys_of_saySame same).mem_iff.mp known
  rw [entryOf, entryOf, firstPlural?_of_saySame same silent notBlank,
    locations_of_place located known, locations_of_place located known']

/-- The two registries have the same entries, though not in the same order. -/
theorem perm_toList_tally {locate : String → Option String → String} {place : String}
    (located : ∀ message plural, locate message plural = place)
    (same : SaySame first second) (silent : conflictsFrom locate [] first = []) :
    (tally locate first).toList.Perm (tally locate second).toList := by
  have entries : (keys first).map (entryOf locate first) =
      (keys first).map (entryOf locate second) :=
    List.map_congr_left fun message known => entryOf_of_saySame located same silent known
  have moved := (perm_keys_of_saySame same).map (entryOf locate second)
  rw [← entries] at moved
  simpa [tally, toList, Function.comp_def] using moved

end Registry

/-! ## Catalogs -/

namespace Extractor

variable (x : Extractor)

/-- The catalog of a file in which the given occurrences were found. -/
def collected (file : SourceFile) (occurrences : List Occurrence) : Catalog :=
  x.catalog file (FilePass.ofOccurrences (x.locate file) occurrences).registry

theorem collected_eq (file : SourceFile) (occurrences : List Occurrence) :
    x.collected file occurrences = x.catalog file (tally (x.locate file) occurrences) := by
  rw [collected, FilePass.ofOccurrences, Registry.registerAll_empty]

/-- The text of a catalog does not depend on the order in which a file's occurrences are found, nor
    on how often they are, nor on the blanks around their texts. -/
theorem render_collected_of_saySame [Std.TransCmp x.compare] {file : SourceFile} {place : String}
    (located : ∀ message plural, x.locate file message plural = place)
    {first second : List Occurrence} (same : SaySame first second)
    (silent : (FilePass.ofOccurrences (x.locate file) first).failed = false)
    (untied : ∀ a ∈ keys first, ∀ b ∈ keys first,
      x.compare (escape a) (escape b) = .eq → escape a = escape b) :
    (x.collected file first).render = (x.collected file second).render := by
  have quiet : conflictsFrom (x.locate file) [] first = [] := by
    rw [← FilePass.conflicts_eq]
    simpa [FilePass.failed] using silent
  rw [collected_eq, collected_eq, catalog, catalog]
  refine congrArg Catalog.render (Catalog.sort_eq_of_perm x.compare rfl ?_ ?_)
  · exact Registry.perm_toList_tally located same quiet
  · -- Each entry is that of its message, so two that tie are one.
    intro a memberA b memberB tie
    simp only [tally, Registry.toList, List.map_map, List.mem_map, Function.comp_apply]
      at memberA memberB
    obtain ⟨messageA, knownA, rfl⟩ := memberA
    obtain ⟨messageB, knownB, rfl⟩ := memberB
    have equal := Quoting.escape_inj.mp (untied messageA knownA messageB knownB tie)
    rw [equal]

/-- An extractor for scripts that knows no language: entries come in the order of the code points of
    their messages. -/
def byCodePoint : Extractor := { ofScripts with compare := Ord.compare }

/-- One message is found twice and the other once, and then each once and the other way round. -/
theorem render_collected_of_saySame_turned :
    (∀ message plural, byCodePoint.locate ⟨"b.js", .null⟩ message plural = "b.js") ∧
    SaySame [⟨"b", none⟩, ⟨" a", some "as"⟩, ⟨"b ", none⟩] [⟨"a", some "as"⟩, ⟨" b", none⟩] ∧
    (byCodePoint.collected ⟨"b.js", .null⟩
        [⟨"b", none⟩, ⟨" a", some "as"⟩, ⟨"b ", none⟩]).render =
      (byCodePoint.collected ⟨"b.js", .null⟩ [⟨"a", some "as"⟩, ⟨" b", none⟩]).render := by
  have located : ∀ message plural, byCodePoint.locate ⟨"b.js", .null⟩ message plural = "b.js" :=
    fun _ _ => rfl
  have same : SaySame [⟨"b", none⟩, ⟨" a", some "as"⟩, ⟨"b ", none⟩]
      [⟨"a", some "as"⟩, ⟨" b", none⟩] := by
    have long : [⟨"b", none⟩, ⟨" a", some "as"⟩, ⟨"b ", none⟩].map Occurrence.said =
        [("b", none), ("a", some "as"), ("b", none)] := by decide +kernel
    have short : [⟨"a", some "as"⟩, ⟨" b", none⟩].map Occurrence.said =
        [("a", some "as"), ("b", none)] := by decide +kernel
    intro pair
    rw [long, short]
    simp only [List.mem_cons, List.not_mem_nil, or_false]
    tauto
  have preorder : Std.TransCmp byCodePoint.compare :=
    inferInstanceAs (Std.TransCmp (Ord.compare : String → String → Ordering))
  refine ⟨located, same, render_collected_of_saySame byCodePoint located same ?_ ?_⟩
  · decide +kernel
  · decide +kernel

end Extractor

end Potfile
