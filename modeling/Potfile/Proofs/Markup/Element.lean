import Mathlib.Data.List.Perm.Basic
import Mathlib.Data.List.Nodup
import Potfile.Markup.Element

/-! # What an element marks

The occurrences of an element say which of its attributes mark something, in terms of what the
attributes are and not of the order in which they come.

* `content?`: the content of an element as a message, by an attribute that marks it.
* `expressions`: the messages in the values of attributes.
* `exists_occurrences_eq`: an element has these occurrences, each once, and no other ones.
* `Reordered.perm_occurrences`, `Reordered.withPlural_occurrences`: what is left of the order of the
  attributes.
* `perm_flatMap_occurrences`, `withPlural_flatMap_occurrences`: the same of many elements.
-/

namespace Potfile

/-- The occurrences that carry a plural, be it empty. -/
def Occurrence.withPlural (occurrences : List Occurrence) : List Occurrence :=
  occurrences.filter (·.plural.isSome)

theorem Occurrence.withPlural_append (front back : List Occurrence) :
    withPlural (front ++ back) = withPlural front ++ withPlural back :=
  List.filter_append front back

namespace Markup.Element

open Occurrence (withPlural withPlural_append)

variable {e e' : Element} {name value : String}

/-- The names of an element's attributes are distinct. -/
def Distinct (e : Element) : Prop := (e.attributes.map (·.name)).Nodup

/-- The content of an element as a message, if an attribute marks it. Another attribute may hold the
    plural. -/
def content? (e : Element) (marker plural : String) : Option Occurrence :=
  if marker ∈ e.attributes.map (·.name) then some { text := e.inner, plural := e.get? plural }
  else none

/-- The message of an attribute whose value is an expression for one. -/
def expression? (a : Attribute) : Option Occurrence :=
  (Delimiters.none.first? a.value).map ({ text := · })

/-- The messages in the values of attributes. The value of `translate` does not count. -/
def expressions (e : Element) : List Occurrence :=
  (e.attributes.filter (·.name ≠ "translate")).filterMap expression?

/-! ## Attributes -/

theorem get?_eq_some_iff (distinct : e.Distinct) :
    e.get? name = some value ↔ ⟨name, value⟩ ∈ e.attributes := by
  rw [get?, Option.map_eq_some_iff]
  constructor
  · rintro ⟨a, found, rfl⟩
    have same : a.name = name := by simpa using List.find?_some found
    exact same ▸ List.mem_of_find?_eq_some found
  · intro member
    cases found : e.attributes.find? (·.name = name) with
    | none =>
      have absent := List.find?_eq_none.mp found _ member
      simp at absent
    | some a =>
      have same : a.name = name := by simpa using List.find?_some found
      have equal := List.inj_on_of_nodup_map distinct (List.mem_of_find?_eq_some found) member same
      exact ⟨a, rfl, by rw [equal]⟩

theorem isSome_get?_iff : (e.get? name).isSome ↔ name ∈ e.attributes.map (·.name) := by
  simp [get?, List.find?_isSome]

/-- There is no second attribute of a name. -/
theorem filter_name_eq (distinct : e.Distinct) (name : String) :
    e.attributes.filter (·.name = name) = ((e.get? name).map (⟨name, ·⟩)).toList := by
  cases given : e.get? name with
  | none =>
    have absent : e.attributes.find? (·.name = name) = none := by simpa [get?] using given
    simpa [List.filter_eq_nil_iff, List.find?_eq_none] using absent
  | some value =>
    have nodup := (List.Nodup.of_map _ distinct).filter (·.name = name)
    have perm : (e.attributes.filter (·.name = name)).Perm [⟨name, value⟩] := by
      rw [List.perm_ext_iff_of_nodup nodup (List.nodup_singleton _)]
      rintro ⟨name', value'⟩
      simp only [List.mem_filter, List.mem_singleton, Attribute.mk.injEq, decide_eq_true_eq]
      constructor
      · rintro ⟨member, rfl⟩
        have other := (get?_eq_some_iff distinct).mpr member
        exact ⟨rfl, Option.some.inj (other.symm.trans given)⟩
      · rintro ⟨rfl, rfl⟩
        exact ⟨(get?_eq_some_iff distinct).mp given, rfl⟩
    exact List.perm_singleton.mp perm

/-! ## One element -/

/-- The occurrences that the attributes of an element mark one by one. -/
def marked (e : Element) : List Occurrence :=
  e.attributes.filterMap fun a => (markerOf? a).map e.occurrence

theorem occurrences_eq (e : Element) :
    e.occurrences = e.marked ++ (e.content? "data-translate" "data-translate-plural").toList := by
  rw [occurrences, markers, List.map_append, List.map_filterMap, marked]
  congr 1
  by_cases present : "data-translate" ∈ e.attributes.map (·.name)
  · rw [if_pos (isSome_get?_iff.mpr present), content?, if_pos present]
    rfl
  · rw [if_neg (mt isSome_get?_iff.mp present), content?, if_neg present]
    rfl

theorem marked_translate (distinct : e.Distinct) :
    (e.attributes.filter (·.name = "translate")).filterMap
      (fun a => (markerOf? a).map e.occurrence) =
        (e.content? "translate" "translate-plural").toList := by
  rw [filter_name_eq distinct, content?]
  by_cases present : "translate" ∈ e.attributes.map (·.name)
  · obtain ⟨value, given⟩ := Option.isSome_iff_exists.mp (isSome_get?_iff.mpr present)
    rw [given, if_pos present]
    rfl
  · have given : e.get? "translate" = none := by
      simpa using mt isSome_get?_iff.mp present
    rw [given, if_neg present]
    rfl

theorem marked_expressions (e : Element) :
    (e.attributes.filter (·.name ≠ "translate")).filterMap
      (fun a => (markerOf? a).map e.occurrence) = e.expressions := by
  rw [expressions]
  apply List.filterMap_congr
  intro a member
  have other : a.name ≠ "translate" := by simpa using (List.mem_filter.mp member).2
  rw [markerOf?, if_neg other, expression?, Option.map_map]
  rfl

theorem perm_marked (distinct : e.Distinct) :
    e.marked.Perm ((e.content? "translate" "translate-plural").toList ++ e.expressions) := by
  have parts : (e.attributes.filter (·.name = "translate") ++
      e.attributes.filter (·.name ≠ "translate")).Perm e.attributes := by
    simpa only [decide_not] using List.filter_append_perm (·.name = "translate") e.attributes
  -- Each part gives its own occurrences; only where they stand among the others is lost.
  have moved := parts.symm.filterMap fun a => (markerOf? a).map e.occurrence
  rwa [List.filterMap_append, marked_translate distinct, marked_expressions] at moved

/-- An element has its content as a message once for each of the two attributes that mark it, and
    one message for each expression. By `data-translate` it comes last. -/
theorem exists_occurrences_eq (distinct : e.Distinct) :
    ∃ front, e.occurrences = front ++ (e.content? "data-translate" "data-translate-plural").toList ∧
      front.Perm ((e.content? "translate" "translate-plural").toList ++ e.expressions) :=
  ⟨e.marked, e.occurrences_eq, perm_marked distinct⟩

/-! ## The order of the attributes -/

/-- The elements differ in the order of their attributes only. -/
def Reordered (e e' : Element) : Prop := e.inner = e'.inner ∧ e.attributes.Perm e'.attributes

theorem withPlural_expressions (e : Element) : withPlural e.expressions = [] := by
  rw [withPlural, List.filter_eq_nil_iff]
  intro o member
  obtain ⟨a, -, found⟩ := List.mem_filterMap.mp member
  obtain ⟨text, -, rfl⟩ := Option.map_eq_some_iff.mp found
  simp

theorem withPlural_marked (distinct : e.Distinct) :
    withPlural e.marked = withPlural (e.content? "translate" "translate-plural").toList := by
  have perm : (withPlural e.marked).Perm
      (withPlural ((e.content? "translate" "translate-plural").toList ++ e.expressions)) :=
    (perm_marked distinct).filter _
  rw [withPlural_append, withPlural_expressions, List.append_nil] at perm
  -- There is one at most, so there is no order to tell apart.
  cases content : e.content? "translate" "translate-plural" with
  | none => simpa [content, withPlural] using perm
  | some o =>
    by_cases carries : o.plural.isSome <;> simpa [content, withPlural, carries] using perm

namespace Reordered

theorem distinct (reordered : e.Reordered e') (distinct : e.Distinct) : e'.Distinct :=
  (reordered.2.map Attribute.name).nodup_iff.mp distinct

theorem get?_eq (reordered : e.Reordered e') (distinct : e.Distinct) : e.get? = e'.get? := by
  funext name
  apply Option.ext
  intro value
  rw [get?_eq_some_iff distinct, get?_eq_some_iff (reordered.distinct distinct),
    reordered.2.mem_iff]

theorem content?_eq (reordered : e.Reordered e') (distinct : e.Distinct) :
    e.content? = e'.content? := by
  funext marker plural
  have names : marker ∈ e.attributes.map (·.name) ↔ marker ∈ e'.attributes.map (·.name) :=
    (reordered.2.map (·.name)).mem_iff
  simp only [content?, names, reordered.1, reordered.get?_eq distinct]

theorem perm_occurrences (reordered : e.Reordered e') (distinct : e.Distinct) :
    e.occurrences.Perm e'.occurrences := by
  rw [occurrences_eq, occurrences_eq, reordered.content?_eq distinct]
  refine List.Perm.append_right _ ?_
  have expressions : e.expressions.Perm e'.expressions :=
    (reordered.2.filter _).filterMap expression?
  calc e.marked
    _ |>.Perm ((e.content? "translate" "translate-plural").toList ++ e.expressions) :=
        perm_marked distinct
    _ |>.Perm ((e'.content? "translate" "translate-plural").toList ++ e'.expressions) := by
        rw [reordered.content?_eq distinct]
        exact expressions.append_left _
    _ |>.Perm e'.marked := (perm_marked (reordered.distinct distinct)).symm

theorem withPlural_occurrences (reordered : e.Reordered e') (distinct : e.Distinct) :
    withPlural e.occurrences = withPlural e'.occurrences := by
  rw [occurrences_eq, occurrences_eq, withPlural_append, withPlural_append,
    withPlural_marked distinct, withPlural_marked (reordered.distinct distinct),
    reordered.content?_eq distinct]

end Reordered

/-! ## Many elements -/

section Sequence

variable {es es' : List Element}

theorem forall₂_perm_occurrences (reordered : List.Forall₂ Reordered es es')
    (distinct : ∀ e ∈ es, e.Distinct) :
    List.Forall₂ (fun e e' => e.occurrences.Perm e'.occurrences) es es' := by
  induction reordered with
  | nil => exact .nil
  | cons first _ inductionHypothesis =>
    rw [List.forall_mem_cons] at distinct
    exact .cons (first.perm_occurrences distinct.1) (inductionHypothesis distinct.2)

theorem perm_flatMap_occurrences (reordered : List.Forall₂ Reordered es es')
    (distinct : ∀ e ∈ es, e.Distinct) :
    (es.flatMap occurrences).Perm (es'.flatMap occurrences) := by
  rw [List.flatMap_def, List.flatMap_def]
  apply List.Perm.flatten_congr
  rw [List.forall₂_map_left_iff, List.forall₂_map_right_iff]
  exact forall₂_perm_occurrences reordered distinct

theorem withPlural_flatMap_occurrences (reordered : List.Forall₂ Reordered es es')
    (distinct : ∀ e ∈ es, e.Distinct) :
    withPlural (es.flatMap occurrences) = withPlural (es'.flatMap occurrences) := by
  induction reordered with
  | nil => rfl
  | cons first _ inductionHypothesis =>
    rw [List.forall_mem_cons] at distinct
    rw [List.flatMap_cons, List.flatMap_cons, withPlural_append, withPlural_append,
      first.withPlural_occurrences distinct.1, inductionHypothesis distinct.2]

end Sequence

end Markup.Element

end Potfile
