import Potfile.Collation.Language
import Potfile.Error

/-! # Collation

A collation puts texts into the order that the readers of a language expect.

* `Collation.new?`: the collation of a language tag.
* `Collation.compare`: the order of two texts.
* `Collation.swap_compare`, `Collation.isLE_compare_trans`: it is a total preorder, which sorting
  relies on.
-/

namespace Potfile

structure Collation where
  locale : Locale
  contractions : Collation.Contractions
  style : Collation.Style

namespace Collation

def ofLocale (locale : Locale) : Collation :=
  let language := Language.ofLocale locale
  { locale, contractions := language.contractions, style := language.style }

def new? (tag : String) : Except ExtractError Collation :=
  match Locale.parse tag with
  | .ok locale => .ok (ofLocale locale)
  | .error e => .error (.invalidLocale tag e.name)

/-- The collation of no language in particular. -/
def undetermined : Collation := ofLocale Locale.undetermined

def key (c : Collation) (text : String) : List Nat :=
  c.style.key (c.contractions.elements text.toList)

/-- The order of two texts: that of their sort keys. -/
def compare (c : Collation) (a b : String) : Ordering := Ord.compare (c.key a) (c.key b)

/-! ## The order is a total preorder -/

theorem swap_compare (c : Collation) (a b : String) : (c.compare a b).swap = c.compare b a := by
  have swapped : Ord.compare (c.key b) (c.key a) = (Ord.compare (c.key a) (c.key b)).swap :=
    Std.OrientedOrd.eq_swap
  exact swapped.symm

theorem isLE_compare_trans (c : Collation) (a b d : String) :
    (c.compare a b).isLE → (c.compare b d).isLE → (c.compare a d).isLE := by
  intro first second
  have chained : (Ord.compare (c.key a) (c.key b)).isLE →
      (Ord.compare (c.key b) (c.key d)).isLE → (Ord.compare (c.key a) (c.key d)).isLE :=
    Std.TransOrd.isLE_trans
  exact chained first second

end Collation

end Potfile
