import Potfile.Batch
import Potfile.Proofs.Path

/-! # Where catalogs are written

* `components_catalogPath`: a catalog stands below the output directory, under the names in the
  path of its input, with an ending on the last one.
* `same_catalogPath_iff`: two inputs share a place exactly if their paths have the same names.
* `catalogPath_below`: both together, and no part of the way from the output directory to a catalog
  leads out of the directory.
-/

namespace Potfile

open Potfile.Path (components names IsName)

/-- The names under which the catalog of an input with the given names is written. -/
def catalogNames : List String → List String
  | [] => [catalogSuffix]
  | [last] => [last ++ catalogSuffix]
  | name :: next :: rest => name :: catalogNames (next :: rest)

theorem catalogNames_ne_nil (names : List String) : catalogNames names ≠ [] := by
  cases names using catalogNames.fun_cases <;> simp [catalogNames]

theorem catalogNames_concat (front : List String) (last : String) :
    catalogNames (front ++ [last]) = front ++ [last ++ ".pot"] := by
  induction front with
  | nil => rfl
  | cons name front inductionHypothesis =>
    obtain ⟨next, rest, equal⟩ := List.exists_cons_of_ne_nil
      (show front ++ [last] ≠ [] from List.append_ne_nil_of_right_ne_nil _ (by simp))
    rw [List.cons_append, equal, catalogNames, ← equal, inductionHypothesis, List.cons_append]

theorem toList_intercalate_catalogNames (names : List String) :
    ("/".intercalate names ++ catalogSuffix).toList =
      ['/'].intercalate ((catalogNames names).map String.toList) := by
  rw [String.toList_append, String.toList_intercalate]
  induction names using catalogNames.induct with
  | case1 => simp [catalogNames]
  | case2 last => simp [catalogNames]
  | case3 name next rest inductionHypothesis =>
    obtain ⟨first, others, equal⟩ :=
      List.exists_cons_of_ne_nil (catalogNames_ne_nil (next :: rest))
    rw [equal] at inductionHypothesis
    rw [catalogNames, equal]
    simp only [List.map_cons] at inductionHypothesis ⊢
    rw [List.intercalate_cons_cons, List.intercalate_cons_cons, ← inductionHypothesis]
    simp

theorem isName_append_catalogSuffix (text : String) (whole : '/' ∉ text.toList) :
    IsName (text ++ catalogSuffix) := by
  have long : 4 ≤ (text ++ catalogSuffix).length := by
    have ending : catalogSuffix.length = 4 := by decide
    rw [String.length_append, ending]
    omega
  refine ⟨?_, ?_, ?_, ?_⟩
  · simp [catalogSuffix, whole]
  all_goals
    intro short
    rw [short] at long
    contradiction

theorem isName_of_mem_catalogNames {names : List String} (isName : ∀ name ∈ names, IsName name) :
    ∀ name ∈ catalogNames names, IsName name := by
  induction names using catalogNames.induct with
  | case1 =>
    intro name member
    obtain rfl : name = catalogSuffix := by simpa [catalogNames] using member
    exact isName_append_catalogSuffix "" (by simp)
  | case2 last =>
    intro name member
    obtain rfl : name = last ++ catalogSuffix := by simpa [catalogNames] using member
    exact isName_append_catalogSuffix last (isName last (by simp)).whole
  | case3 first next rest inductionHypothesis =>
    intro name member
    rw [catalogNames, List.mem_cons] at member
    obtain rfl | member := member
    · exact isName name (by simp)
    · exact inductionHypothesis (fun other within => isName other (List.mem_cons_of_mem _ within))
        name member

theorem catalogNames_injective {left right : List String} (some : ∀ name ∈ left, name ≠ "")
    (some' : ∀ name ∈ right, name ≠ "") (equal : catalogNames left = catalogNames right) :
    left = right := by
  have longer (text next : String) (rest : List String) :
      (catalogNames (text :: next :: rest)).length ≠ 1 := by
    have inside := List.length_pos_iff.mpr (catalogNames_ne_nil (next :: rest))
    rw [catalogNames, List.length_cons]
    omega
  induction left using catalogNames.induct generalizing right with
  | case1 =>
    match right with
    | [] => rfl
    | [last] =>
      have same : catalogSuffix = last ++ catalogSuffix := by simpa [catalogNames] using equal
      have empty : last = "" := by simpa using same.symm
      exact absurd empty (some' last (by simp))
    | text :: next :: rest => exact absurd (congrArg List.length equal).symm (longer text next rest)
  | case2 last =>
    match right with
    | [] =>
      have same : last ++ catalogSuffix = catalogSuffix := by simpa [catalogNames] using equal
      have empty : last = "" := by simpa using same
      exact absurd empty (some last (by simp))
    | [last'] =>
      have same : last ++ catalogSuffix = last' ++ catalogSuffix := by
        simpa [catalogNames] using equal
      rw [String.append_left_inj] at same
      rw [same]
    | text :: next :: rest => exact absurd (congrArg List.length equal).symm (longer text next rest)
  | case3 name next rest inductionHypothesis =>
    match right with
    | [] => exact absurd (congrArg List.length equal) (longer name next rest)
    | [_] => exact absurd (congrArg List.length equal) (longer name next rest)
    | name' :: next' :: rest' =>
      rw [catalogNames, catalogNames, List.cons.injEq] at equal
      rw [List.forall_mem_cons] at some some'
      rw [equal.1, inductionHypothesis some.2 some'.2 equal.2]

/-- A catalog stands below the output directory. Only names lead to it from there. -/
theorem components_catalogPath (output input : String) :
    components (catalogPath output input) =
      components output ++ (catalogNames (names input)).map .name := by
  have isName : ∀ name ∈ catalogNames (names input), IsName name :=
    isName_of_mem_catalogNames fun _ member => Path.isName_of_mem_names member
  obtain ⟨relative, unled, written⟩ := Path.components_ofNames
    (catalogNames_ne_nil (names input)) isName (toList_intercalate_catalogNames (names input))
  rw [catalogPath, Path.components_join relative unled, written]

/-- There is a directory for every catalog: its path ends with a name. -/
theorem exists_parent?_catalogPath (output input : String) :
    ∃ parent, Path.parent? (catalogPath output input) = some parent := by
  obtain ⟨name, others, equal⟩ :=
    List.exists_cons_of_ne_nil (catalogNames_ne_nil (names input))
  apply Path.exists_parent?_of_name
  rw [components_catalogPath, equal]
  exact List.mem_append_right _ List.mem_cons_self

/-- Two inputs share the place of their catalogs exactly if their paths have the same names. -/
theorem same_catalogPath_iff {output first second : String} :
    components (catalogPath output first) = components (catalogPath output second) ↔
      names first = names second := by
  have some (path : String) : ∀ name ∈ names path, name ≠ "" :=
    fun _ member => (Path.isName_of_mem_names member).some
  constructor
  · intro same
    rw [components_catalogPath, components_catalogPath, List.append_cancel_left_eq] at same
    exact catalogNames_injective (some first) (some second)
      ((List.map_inj_right fun _ _ => Component.name.inj).mp same)
  · intro same
    rw [components_catalogPath, components_catalogPath, same]

/-! ## Below the output directory -/

/-- Each part of a way over names ends below the place where the way starts, or at that place. -/
theorem prefix_walk_of_prefix {place names : List String} {way : List Component}
    (part : way <+: names.map .name) : place <+: Path.walk place way := by
  obtain ⟨rest, whole⟩ := part
  obtain ⟨front, _, rfl, rfl, _⟩ := List.map_eq_append_iff.mp whole.symm
  rw [Path.walk_names]
  exact List.prefix_append place front

/-- A catalog is reached from the output directory over the names in the path of its input, of which
    the last has an ending added to it; and wherever one stands on this way, one is in the output
    directory. Two catalogs have the same place, or the same path, exactly if the paths of their
    inputs have the same names. -/
theorem catalogPath_below (output input : String) :
    (∃ below, components (catalogPath output input) = components output ++ below.map .name ∧
      (names input = [] → below = [".pot"]) ∧
      (∀ front last, names input = front ++ [last] → below = front ++ [last ++ ".pot"])) ∧
    (∀ start way, components output ++ way <+: components (catalogPath output input) →
      Path.walk start (components output) <+: Path.walk start (components output ++ way)) ∧
    ∀ other,
      (Path.same (catalogPath output input) (catalogPath output other) ↔
        names input = names other) ∧
      (catalogPath output input = catalogPath output other ↔ names input = names other) := by
  have place := components_catalogPath output input
  refine ⟨⟨catalogNames (names input), place, fun none => ?_, fun front last some => ?_⟩, ?_, ?_⟩
  · rw [none]
    rfl
  · rw [some, catalogNames_concat]
  · intro start way part
    rw [place, List.prefix_append_right_inj] at part
    rw [Path.walk_append]
    exact prefix_walk_of_prefix part
  · intro other
    refine ⟨by rw [Path.same, beq_iff_eq, same_catalogPath_iff], fun same => ?_, fun same => ?_⟩
    · exact same_catalogPath_iff.mp (congrArg components same)
    · rw [catalogPath, catalogPath, same]

end Potfile
