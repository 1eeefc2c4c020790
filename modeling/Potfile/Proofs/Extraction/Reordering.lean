import Potfile.Proofs.Extraction.Discovery
import Potfile.Proofs.Markup.Element

/-! # The order of attributes

Elements may have their attributes in any order: their occurrences change places within an element,
and those that carry a plural do not even do that. So the same conflicts are reported, one after
another, and without any the same catalog is made.

* `conflictsFrom_withPlural`: occurrences without a plural take no part in conflicts.
* `collected_eq_of_perm`: a catalog does not depend on the order of what was found.
* `conflicts_collected_of_reordered`: what reordered elements have in common.
-/

namespace Potfile

open Text (trim)
open Quoting (escape)
open Occurrence (SaySame withPlural withPlural_append)
open Markup (Element)
open Registry (keys mentions givenPlural? firstPlural? tally conflict? conflictsFrom)

/-! ## Conflicts -/

namespace Registry

variable {o : Occurrence}

theorem givenPlural?_eq_none (bare : ¬ o.plural.isSome) : givenPlural? o = none := by
  simp only [Option.not_isSome_iff_eq_none] at bare
  simp [givenPlural?, bare]

theorem firstPlural?_withPlural (history : List Occurrence) (message : String) :
    firstPlural? (withPlural history) message = firstPlural? history message := by
  simp only [firstPlural?, mentions, withPlural, ← List.head?_filterMap, List.filterMap_filter]
  congr 2
  funext o
  by_cases carries : o.plural.isSome
  · simp [carries]
  · simp [givenPlural?_eq_none carries]

variable {locate : String → Option String → String} {place : String}

theorem conflict?_withPlural (located : ∀ message plural, locate message plural = place)
    (history : List Occurrence) (o : Occurrence) :
    conflict? locate (withPlural history) o = conflict? locate history o := by
  by_cases blank : trim o.text = ""
  · simp [conflict?, blank]
  · -- The places that a conflict names are one, the same for the shorter history.
    have known (earlier : List Occurrence) : trim o.text ∈ keys (earlier ++ [o]) :=
      mem_keys.mpr ⟨blank, o, by simp, rfl⟩
    simp only [conflict?, firstPlural?_withPlural, locations_of_place located (known _)]

/-- Occurrences without a plural take no part in conflicts. -/
theorem conflictsFrom_withPlural (located : ∀ message plural, locate message plural = place)
    (history occurrences : List Occurrence) :
    conflictsFrom locate (withPlural history) (withPlural occurrences) =
      conflictsFrom locate history occurrences := by
  induction occurrences generalizing history with
  | nil => rfl
  | cons o rest inductionHypothesis =>
    have further := inductionHypothesis (history ++ [o])
    rw [withPlural_append] at further
    rw [conflictsFrom_cons]
    -- With a plural, `o` is compared and remembered on both sides; without one, on neither.
    by_cases carries : o.plural.isSome
    · have kept : withPlural (o :: rest) = o :: withPlural rest := by simp [withPlural, carries]
      have single : withPlural [o] = [o] := by simp [withPlural, carries]
      rw [kept, conflictsFrom_cons, conflict?_withPlural located, ← further, single]
    · have dropped : withPlural (o :: rest) = withPlural rest := by simp [withPlural, carries]
      have none : withPlural [o] = [] := by simp [withPlural, carries]
      have quiet : conflict? locate history o = .none := by
        simp [conflict?, givenPlural?_eq_none carries]
      rw [dropped, quiet, ← further, none, List.append_nil]
      rfl

end Registry

/-! ## Catalogs -/

namespace Extractor

variable (x : Extractor) {file : SourceFile} {place : String} {first second : List Occurrence}

theorem conflicts_eq_of_withPlural
    (located : ∀ message plural, x.locate file message plural = place)
    (same : withPlural first = withPlural second) :
    (FilePass.ofOccurrences (x.locate file) first).conflicts =
      (FilePass.ofOccurrences (x.locate file) second).conflicts := by
  rw [FilePass.conflicts_eq, FilePass.conflicts_eq,
    ← Registry.conflictsFrom_withPlural located [] first,
    ← Registry.conflictsFrom_withPlural located [] second, same]

theorem saySame_of_perm (perm : first.Perm second) : SaySame first second :=
  fun _ => (perm.map Occurrence.said).mem_iff

/-- Entries that tie are one, if the comparison tells the messages apart. -/
theorem eq_of_tied {locate : String → Option String → String} {compare : String → String → Ordering}
    (untied : ∀ a ∈ keys first, ∀ b ∈ keys first,
      compare (escape a) (escape b) = .eq → escape a = escape b)
    {a b : Entry} (memberA : a ∈ (tally locate first).toList)
    (memberB : b ∈ (tally locate first).toList) (tie : compare a.msgid b.msgid = .eq) : a = b := by
  simp only [tally, Registry.toList, List.map_map, List.mem_map, Function.comp_apply]
    at memberA memberB
  obtain ⟨messageA, knownA, rfl⟩ := memberA
  obtain ⟨messageB, knownB, rfl⟩ := memberB
  rw [Quoting.escape_inj.mp (untied messageA knownA messageB knownB tie)]

/-- Without conflicts, a catalog does not depend on the order in which occurrences are found. -/
theorem collected_eq_of_perm [Std.TransCmp x.compare]
    (located : ∀ message plural, x.locate file message plural = place)
    (perm : first.Perm second)
    (silent : (FilePass.ofOccurrences (x.locate file) first).conflicts = [])
    (untied : ∀ a ∈ keys first, ∀ b ∈ keys first,
      x.compare (escape a) (escape b) = .eq → escape a = escape b) :
    x.collected file first = x.collected file second := by
  rw [FilePass.conflicts_eq] at silent
  rw [collected_eq, collected_eq, catalog, catalog]
  exact Catalog.sort_eq_of_perm x.compare rfl
    (Registry.perm_toList_tally located (saySame_of_perm perm) silent)
    fun _ memberA _ memberB tie => eq_of_tied untied memberA memberB tie

/-! ## Reordered elements -/

/-- Each element has its content once for each attribute that marks it, and each expression once.
    With the attributes of elements in another order, each element has the same occurrences in some
    order, and those with a plural in the same one. The conflicts are the same then, and if there
    are none, so is the catalog, whatever else was found behind the elements. -/
theorem conflicts_collected_of_reordered [Std.TransCmp x.compare]
    (located : ∀ message plural, x.locate file message plural = place)
    {es es' : List Element} (distinct : ∀ e ∈ es, e.Distinct)
    (reordered : List.Forall₂ Element.Reordered es es') (rest : List Occurrence) :
    (∀ e ∈ es, ∃ front,
      e.occurrences = front ++ (e.content? "data-translate" "data-translate-plural").toList ∧
      front.Perm ((e.content? "translate" "translate-plural").toList ++ e.expressions)) ∧
    List.Forall₂ (fun e e' => e.occurrences.Perm e'.occurrences) es es' ∧
    withPlural (es.flatMap Element.occurrences) = withPlural (es'.flatMap Element.occurrences) ∧
    (FilePass.ofOccurrences (x.locate file) (es.flatMap Element.occurrences ++ rest)).conflicts =
      (FilePass.ofOccurrences (x.locate file)
        (es'.flatMap Element.occurrences ++ rest)).conflicts ∧
    ((FilePass.ofOccurrences (x.locate file)
        (es.flatMap Element.occurrences ++ rest)).conflicts = [] →
      (∀ a ∈ keys (es.flatMap Element.occurrences ++ rest),
        ∀ b ∈ keys (es.flatMap Element.occurrences ++ rest),
          x.compare (escape a) (escape b) = .eq → escape a = escape b) →
      x.collected file (es.flatMap Element.occurrences ++ rest) =
        x.collected file (es'.flatMap Element.occurrences ++ rest)) := by
  have same := Element.withPlural_flatMap_occurrences reordered distinct
  have perm := Element.perm_flatMap_occurrences reordered distinct
  refine ⟨fun e member => Element.exists_occurrences_eq (distinct e member),
    Element.forall₂_perm_occurrences reordered distinct, same, ?_, ?_⟩
  · apply x.conflicts_eq_of_withPlural located
    rw [withPlural_append, withPlural_append, same]
  · intro silent untied
    exact x.collected_eq_of_perm located (perm.append_right rest) silent untied

/-- An attribute of this element is an expression, and its content is a message with a plural. -/
theorem conflicts_collected_of_reordered_titled :
    byCodePoint.collected ⟨"b.html", .null⟩
        ([⟨[⟨"title", "'t' | translate"⟩, ⟨"translate", ""⟩, ⟨"translate-plural", "as"⟩], "a"⟩
          ].flatMap Element.occurrences ++ [⟨"c", none⟩]) =
      byCodePoint.collected ⟨"b.html", .null⟩
        ([⟨[⟨"translate-plural", "as"⟩, ⟨"translate", ""⟩, ⟨"title", "'t' | translate"⟩], "a"⟩
          ].flatMap Element.occurrences ++ [⟨"c", none⟩]) := by
  have preorder : Std.TransCmp byCodePoint.compare :=
    inferInstanceAs (Std.TransCmp (Ord.compare : String → String → Ordering))
  have located : ∀ message plural, byCodePoint.locate ⟨"b.html", .null⟩ message plural = "b.html" :=
    fun _ _ => rfl
  have distinct : ∀ e ∈ [(⟨[⟨"title", "'t' | translate"⟩, ⟨"translate", ""⟩,
      ⟨"translate-plural", "as"⟩], "a"⟩ : Element)], e.Distinct := by
    rw [List.forall_mem_singleton, Element.Distinct]
    decide +kernel
  have reordered : List.Forall₂ Element.Reordered
      [⟨[⟨"title", "'t' | translate"⟩, ⟨"translate", ""⟩, ⟨"translate-plural", "as"⟩], "a"⟩]
      [⟨[⟨"translate-plural", "as"⟩, ⟨"translate", ""⟩, ⟨"title", "'t' | translate"⟩], "a"⟩] :=
    .cons ⟨rfl, by decide +kernel⟩ .nil
  obtain ⟨-, -, -, -, same⟩ :=
    conflicts_collected_of_reordered byCodePoint located distinct reordered [⟨"c", none⟩]
  apply same
  · decide +kernel
  · decide +kernel

end Extractor

end Potfile
