import Potfile.Catalog
import Potfile.Collation

/-! # The order of the entries

Sorting a catalog loses no entry and adds none, puts the entries in order, and leaves entries that
compare equal as they were. The comparison only has to be a total preorder, as those of collations
are.
-/

namespace Potfile.Catalog

instance (collation : Collation) : Std.TransCmp collation.compare where
  eq_swap := (collation.swap_compare _ _).symm
  isLE_trans := collation.isLE_compare_trans _ _ _

variable (compare : String → String → Ordering)

theorem perm_items_sort (c : Catalog) :
    (c.sort compare).items.Perm c.items :=
  List.mergeSort_perm _ _

section Preorder

variable [Std.TransCmp compare]

theorem isLE_msgid_trans (a b d : Entry) (first : (compare a.msgid b.msgid).isLE)
    (second : (compare b.msgid d.msgid).isLE) : (compare a.msgid d.msgid).isLE :=
  Std.TransCmp.isLE_trans first second

theorem isLE_msgid_total (a b : Entry) :
    (compare a.msgid b.msgid).isLE || (compare b.msgid a.msgid).isLE := by
  have swap : compare b.msgid a.msgid = (compare a.msgid b.msgid).swap :=
    Std.OrientedCmp.eq_swap
  rw [swap]
  cases compare a.msgid b.msgid <;> rfl

theorem pairwise_items_sort (c : Catalog) :
    (c.sort compare).items.Pairwise fun a b => (compare a.msgid b.msgid).isLE :=
  List.pairwise_mergeSort (isLE_msgid_trans compare) (isLE_msgid_total compare) c.items

/-- The entries that compare equal to a text come in the order in which they came before. -/
theorem filter_items_sort (c : Catalog) (text : String) :
    (c.sort compare).items.filter (compare ·.msgid text = .eq) =
      c.items.filter (compare ·.msgid text = .eq) := by
  -- Entries that compare equal to the text are in order already, so sorting keeps them in place.
  have tied : (c.items.filter (compare ·.msgid text = .eq)).Pairwise
      fun a b => (compare a.msgid b.msgid).isLE := by
    apply List.pairwise_of_forall_mem_list
    intro a memberA b memberB
    simp only [List.mem_filter, decide_eq_true_eq] at memberA memberB
    have swap : compare text b.msgid = (compare b.msgid text).swap := Std.OrientedCmp.eq_swap
    rw [Std.TransCmp.congr_left memberA.2, swap, memberB.2]
    rfl
  have kept : (c.items.filter (compare ·.msgid text = .eq)).Sublist (c.sort compare).items :=
    List.sublist_mergeSort (isLE_msgid_trans compare) (isLE_msgid_total compare) tied
      List.filter_sublist
  have same := kept.filter (compare ·.msgid text = .eq)
  rw [List.filter_filter] at same
  simp only [Bool.and_self] at same
  refine (same.eq_of_length ?_).symm
  exact ((perm_items_sort compare c).filter _).length_eq.symm

/-- Which entries there are decides the sorted catalog, unless two of them tie: the order in which
    they came makes no difference. -/
theorem sort_eq_of_perm {c c' : Catalog} (headers : c.headers = c'.headers)
    (perm : c.items.Perm c'.items)
    (untied : ∀ a ∈ c.items, ∀ b ∈ c.items, compare a.msgid b.msgid = .eq → a = b) :
    c.sort compare = c'.sort compare := by
  have sorted : (c.sort compare).items.Perm (c'.sort compare).items :=
    (perm_items_sort compare c).trans (perm.trans (perm_items_sort compare c').symm)
  have items : (c.sort compare).items = (c'.sort compare).items := by
    refine sorted.eq_of_pairwise ?_ (pairwise_items_sort compare c)
      (pairwise_items_sort compare c')
    intro a b memberA memberB below above
    have withinA := (perm_items_sort compare c).mem_iff.mp memberA
    have withinB := (perm_items_sort compare c).mem_iff.mp (sorted.mem_iff.mpr memberB)
    exact untied a withinA b withinB (Std.OrientedCmp.isLE_antisymm below above)
  calc c.sort compare
      = ⟨c.headers, (c.sort compare).items⟩ := rfl
    _ = ⟨c'.headers, (c'.sort compare).items⟩ := by rw [headers, items]
    _ = c'.sort compare := rfl

end Preorder

end Potfile.Catalog
