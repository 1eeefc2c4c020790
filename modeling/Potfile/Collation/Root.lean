import Potfile.Collation.Element
import Potfile.Collation.Root.Order
import Potfile.Collation.Root.Variant
import Potfile.Text.Decomposition

/-! # The root collation

The order of characters that holds where no language asks for another. It speaks of decomposed
texts.

* `Root.elements`: the elements of a character.
* `Root.sequences`: the sequences of characters that are ordered as one letter.
* `Root.swapVowels`: puts vowels that are written in front of their consonants behind them.
-/

namespace Potfile.Collation.Root

/-! ## Characters without a place in the table -/

/-- The ideographs of Unihan: first those of the first block and those that stand with the
    compatibility ideographs, then all others. -/
def isCoreIdeograph (n : Nat) : Bool :=
  (0x4E00 ≤ n && n ≤ 0x9FFF) ||
    n ∈ [0xFA0E, 0xFA0F, 0xFA11, 0xFA13, 0xFA14, 0xFA1F, 0xFA21, 0xFA23, 0xFA24, 0xFA27, 0xFA28,
      0xFA29]

/-- The ideographs that are not in the core. -/
def isOtherIdeograph (n : Nat) : Bool :=
  [(0x3400, 0x4DBF), (0x20000, 0x2A6DF), (0x2A700, 0x2B739), (0x2B740, 0x2B81D),
    (0x2B820, 0x2CEA1), (0x2CEB0, 0x2EBE0), (0x2EBF0, 0x2EE5D), (0x30000, 0x3134A),
    (0x31350, 0x323AF)].any fun (first, last) => first ≤ n && n ≤ last

def isTangut (n : Nat) : Bool := (0x17000 ≤ n && n ≤ 0x18AFF) || (0x18D00 ≤ n && n ≤ 0x18D8F)

def isNushu (n : Nat) : Bool := 0x1B170 ≤ n && n ≤ 0x1B2FF

def isKhitan (n : Nat) : Bool := 0x18B00 ≤ n && n ≤ 0x18CFF

/-- The number of code points: above all ranks of the table. -/
def codePoints : Nat := 0x110000

/-- The group in which a character without a place in the table is ordered by its code
    point. -/
def group (n : Nat) : Nat :=
  if isTangut n then 1 else if isNushu n then 2 else if isKhitan n then 3
  else if isCoreIdeograph n then 4 else if isOtherIdeograph n then 5 else 6

/-- The rank of a character that is no mark. U+FFFE comes before all others, and U+FFFD and
    U+FFFF after all. -/
def primary (n : Nat) : Nat :=
  if n = 0xFFFE then 1
  else if n = 0xFFFD then Weight.ofRank (7 * codePoints)
  else if n = 0xFFFF then Weight.ofRank (7 * codePoints + 1)
  else Weight.ofRank ((baseRank? n).getD (group n * codePoints + n))

/-! ## Elements -/

/-- The second weight of a character without accents, in front of all accents. -/
def noAccent : Nat := Weight.ofRank 1

/-- The third weight of small letters and of all that has no case. -/
def noForm : Nat := Weight.ofRank plainForm

/-- The element of a character that the order holds, in a given form. -/
def element (n : Nat) (form : Form) : Element :=
  let tertiary := Weight.ofRank form
  match accentRank? n with
  | some rank => { primary := 0, secondary := Weight.ofRank (rank + 1), tertiary }
  | none =>
    { primary := primary n, secondary := noAccent, tertiary,
      letterCase := if isCapitalForm form then .upper else .lower }

def codePointElements (n : Nat) : List Element :=
  match variant? n with
  | some targets => targets.map fun (target, form) => element target form
  | none => [element n plainForm]

def elements (c : Char) : List Element := codePointElements c.toNat

/-! ## Sequences -/

/-- Characters whose parts together are ordered as a letter of their own. -/
def composites : List Nat :=
  [0x419, 0x439, 0x622, 0x623, 0x624, 0x625, 0x626, 0x9CB, 0x9CC, 0xB48, 0xB4B, 0xB4C, 0xB94,
    0xBCA, 0xBCB, 0xBCC, 0xC48, 0xCC0, 0xCC7, 0xCC8, 0xCCA, 0xCCB, 0xD4A, 0xD4B, 0xD4C, 0xDDA,
    0xDDC, 0xDDD, 0xDDE, 0xF73, 0xF75, 0xF76, 0xF78, 0xF81, 0x1026, 0x1B06, 0x1B08, 0x1B0A,
    0x1B0C, 0x1B0E, 0x1B12, 0x1B3B, 0x1B3D, 0x1B40, 0x1B41, 0x1B43, 0x1112E, 0x1112F, 0x1134B,
    0x1134C, 0x114BB, 0x114BC, 0x114BE, 0x115BA, 0x115BB, 0x11938]

/-- Sequences that are ordered as a character whose parts they are not. -/
def alikes : List (List Char × Char) :=
  [(['\u0e4d', '\u0e32'], '\u0e33'), (['\u0ecd', '\u0eb2'], '\u0eb3'),
    (['\u0fb2', '\u0f71', '\u0f80'], '\u0f77'), (['\u0fb3', '\u0f71', '\u0f80'], '\u0f79')]

/-- The sequences of characters that are ordered as one letter, with their elements. -/
def sequences : List (List Char × List Element) :=
  (composites.map fun n => (Text.parts (Char.ofNat n), codePointElements n)) ++
    alikes.map fun (cs, c) => (cs, elements c)

/-! ## Vowels in front of consonants -/

/-- The vowels of Thai, Lao, New Tai Lue and Tai Viet that are written in front of the
    consonant after which they are spoken, with the consonants of their script. -/
def writtenFirst : List (List Char × List (Nat × Nat)) :=
  [("เแโใไ".toList, [(0xE01, 0xE2E)]),
    ("ເແໂໃໄ".toList, [(0xE81, 0xEAE), (0xEDC, 0xEDF)]),
    ("ᦵᦶᦷᦺ".toList, [(0x1980, 0x19AB)]),
    ("ꪵꪶꪹꪻꪼ".toList, [(0xAA80, 0xAAAF)])]

/-- Whether `v` is spoken after `c`, though written in front of it. -/
def isSpokenAfter (v c : Char) : Bool :=
  writtenFirst.any fun (vowels, consonants) =>
    v ∈ vowels && consonants.any fun (first, last) => first ≤ c.toNat && c.toNat ≤ last

/-- Puts vowels that are written in front of their consonants behind them. -/
def swapVowels : List Char → List Char
  | v :: c :: rest =>
    if isSpokenAfter v c then c :: v :: swapVowels rest else v :: swapVowels (c :: rest)
  | cs => cs

end Potfile.Collation.Root
