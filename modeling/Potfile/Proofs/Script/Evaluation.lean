import Potfile.Script.Tree
import Potfile.Proofs.Decimal.Shortest

/-! # What sums of literals evaluate to

The text that a sum of texts and numbers amounts to, against the value that the sum has when the
script runs.

* `Evaluates`: the value of a sum. Two numbers are added; as soon as one operand is a text, both are
  joined as texts.
* `writes_iff_eq_positional`: a natural number of up to twenty-one digits is written with all of them.
* `Tree.evaluates_iff_eq_fold`: a sum with a text in it, in which no two numbers are added, has its
  fold as its value.
-/

namespace Potfile

namespace Binary64

/-! ## Numbers of a running script -/

def add : Binary64 → Binary64 → Binary64
  | .finite m e, .finite m' e' =>
    -- Both mantissas are brought to the lower exponent.
    let low := min e e'
    let (n, d) := ratio (m * 2 ^ (e - low).toNat + m' * 2 ^ (e' - low).toNat) low
    ofRatio n d
  | _, _ => .infinite

/-- A decimal as the text of a number: with an exponent only if more than twenty-one digits stood in
    front of the point, or six zeros or more between the point and the first digit. -/
def Decimal.written (d : Decimal) : List Char :=
  let ds := Nat.toDigits 10 d.digits
  let point : Int := ds.length + d.exponent
  if 0 ≤ d.exponent ∧ point ≤ 21 then ds ++ List.replicate d.exponent.toNat '0'
  else if 0 < point ∧ point ≤ 21 then ds.take point.toNat ++ '.' :: ds.drop point.toNat
  else if -6 < point ∧ point ≤ 0 then
    '0' :: '.' :: (List.replicate (-point).toNat '0' ++ ds)
  else
    let sign := if point ≤ 0 then '-' else '+'
    let exponent := 'e' :: sign :: Nat.toDigits 10 (point - 1).natAbs
    match ds with
    | first :: second :: rest => first :: '.' :: second :: rest ++ exponent
    | _ => ds ++ exponent

/-- The text that a number turns into: any of its shortest decimals. -/
inductive Writes : Binary64 → String → Prop where
  | zero (e : Int) : Writes (.finite 0 e) "0"
  | infinite : Writes .infinite "Infinity"
  | finite {m : Nat} {e : Int} {d : Decimal} : m ≠ 0 → IsShortest m e d →
      Writes (.finite m e) (String.ofList d.written)

/-- A natural number of up to twenty-one digits is written without a point or an exponent, whichever
    decimal stands for it. -/
theorem Decimal.written_eq_toDigits {d : Decimal} {total : Nat} (pos : 0 < d.digits)
    (nonneg : 0 ≤ d.exponent) (value : d.value = total) (small : total < 10 ^ 21) :
    d.written = Nat.toDigits 10 total := by
  obtain ⟨digits, exponent⟩ := d
  obtain ⟨k, rfl⟩ := Int.eq_ofNat_of_zero_le nonneg
  rw [value_natCast, Nat.cast_inj] at value
  subst value
  have long := (Nat.length_toDigits_le_iff (by decide : 1 < 10) (by decide : 0 < 21)).mpr small
  rw [toDigits_mul_ten_pow pos] at long ⊢
  rw [List.length_append, List.length_replicate] at long
  have point : ((Nat.toDigits 10 digits).length : Int) + k ≤ 21 := by exact_mod_cast long
  rw [written]
  simp only
  rw [if_pos ⟨nonneg, point⟩, Int.toNat_natCast]

theorem writes_zero_iff (e : Int) (text : String) : Writes (.finite 0 e) text ↔ text = "0" := by
  constructor
  · intro writes
    cases writes with
    | zero => rfl
    | finite nonzero => exact absurd rfl nonzero
  · rintro rfl
    exact .zero e

theorem Holds.writes_iff {m n : Nat} {e : Int} (holds : Holds m e n) (text : String) :
    Writes (.finite m e) text ↔ text = String.ofList (positional (.finite m e)) := by
  obtain ⟨total, less, positional, ⟨d, shortest⟩, only⟩ := holds.positional_eq
  have written {d : Decimal} (shortest : IsShortest m e d) : d.written = Nat.toDigits 10 total := by
    obtain ⟨nonneg, value⟩ := only d shortest
    exact Decimal.written_eq_toDigits (holds.rounds_of_reads shortest.reads).1 nonneg value less
  have nonzero : m ≠ 0 := by
    have := holds.low
    omega
  rw [positional]
  constructor
  · intro writes
    cases writes with
    | zero => exact absurd rfl nonzero
    | finite _ shortest' => rw [written shortest']
  · rintro rfl
    rw [← written shortest]
    exact .finite nonzero shortest

/-- Natural numbers of up to twenty-one digits turn into the texts that they have in messages. -/
theorem writes_iff_eq_positional {x : Binary64} {n : Nat} (magnitude : x.IsMagnitude)
    (natural : x.isNatural n = true) (small : n < 10 ^ 21) (text : String) :
    Writes x text ↔ text = String.ofList x.positional := by
  cases x with
  | infinite => exact absurd natural Bool.false_ne_true
  | finite m e =>
    rcases Nat.eq_zero_or_pos n with zero | pos
    · -- The number zero has no digits to search for.
      have mZero : m = 0 := by
        have exact := isNatural_finite_iff.mp natural
        rw [zero, Nat.cast_zero, mul_eq_zero, Nat.cast_eq_zero] at exact
        exact exact.resolve_right (by positivity)
      subst mZero
      exact writes_zero_iff e text
    · exact (holds_of_isNatural magnitude natural pos small).writes_iff text

end Binary64

namespace Script

/-! ## Values -/

/-- What a sum of texts and numbers can evaluate to. -/
inductive Value where
  | number (value : Binary64)
  | text (value : String)
deriving DecidableEq, Repr

namespace Value

def isText : Value → Bool
  | number _ => false
  | text _ => true

/-- A value joins others as this text. -/
inductive JoinsAs : Value → String → Prop where
  | number {value : Binary64} {written : String} : value.Writes written →
      JoinsAs (number value) written
  | text (value : String) : JoinsAs (text value) value

end Value

inductive Evaluates : Tree → Value → Prop where
  | text (value : String) : Evaluates (.literal (.string (some value))) (.text value)
  | number (value : Binary64) : Evaluates (.literal (.number value)) (.number value)
  | paren {inner : Tree} {value : Value} : Evaluates inner value → Evaluates (.paren inner) value
  | add {left right : Tree} {x y : Binary64} : Evaluates left (.number x) →
      Evaluates right (.number y) → Evaluates (.sum left right) (.number (x.add y))
  | join {left right : Tree} {v w : Value} {front back : String} : Evaluates left v →
      Evaluates right w → (v.isText || w.isText) = true → v.JoinsAs front → w.JoinsAs back →
      Evaluates (.sum left right) (.text (front ++ back))

namespace Tree

/-! ## Sums of texts and numbers -/

/-- A sum of texts and of natural numbers of up to twenty-one digits, with any parentheses. -/
inductive IsPlain : Tree → Prop where
  | text (value : String) : IsPlain (literal (.string (some value)))
  | number {value : Binary64} {n : Nat} : value.IsMagnitude → value.isNatural n = true →
      n < 10 ^ 21 → IsPlain (literal (.number value))
  | sum {left right : Tree} : IsPlain left → IsPlain right → IsPlain (sum left right)
  | paren {inner : Tree} : IsPlain inner → IsPlain (paren inner)

def hasText : Tree → Bool
  | literal (.string _) => true
  | sum left right => left.hasText || right.hasText
  | paren inner => inner.hasText
  | _ => false

/-- Somewhere in the sum two operands without any text are added. -/
def addsNumbers : Tree → Bool
  | sum left right =>
    !(left.hasText || right.hasText) || left.addsNumbers || right.addsNumbers
  | paren inner => inner.addsNumbers
  | _ => false

/-- The tree has one value only, and there is only one text as which this value joins others. -/
structure Denotes (tree : Tree) (value : Value) (text : String) : Prop where
  evaluates : ∀ other, Evaluates tree other ↔ other = value
  joins : ∀ other, value.JoinsAs other ↔ other = text

theorem joinsAs_text_iff (value other : String) :
    (Value.text value).JoinsAs other ↔ other = value := by
  constructor
  · rintro ⟨⟩
    rfl
  · rintro rfl
    exact .text _

theorem joinsAs_number_iff {value : Binary64} {n : Nat} (magnitude : value.IsMagnitude)
    (natural : value.isNatural n = true) (small : n < 10 ^ 21) (other : String) :
    (Value.number value).JoinsAs other ↔ other = String.ofList value.positional := by
  rw [← Binary64.writes_iff_eq_positional magnitude natural small]
  constructor
  · rintro ⟨writes⟩
    exact writes
  · exact Value.JoinsAs.number

theorem denotes_text (value : String) :
    Denotes (literal (.string (some value))) (.text value) value := by
  refine ⟨fun other => ⟨?_, ?_⟩, joinsAs_text_iff value⟩
  · rintro ⟨⟩
    rfl
  · rintro rfl
    exact .text _

theorem denotes_number {value : Binary64} {n : Nat} (magnitude : value.IsMagnitude)
    (natural : value.isNatural n = true) (small : n < 10 ^ 21) :
    Denotes (literal (.number value)) (.number value) (String.ofList value.positional) := by
  refine ⟨fun other => ⟨?_, ?_⟩, joinsAs_number_iff magnitude natural small⟩
  · rintro ⟨⟩
    rfl
  · rintro rfl
    exact .number _

theorem Denotes.paren {inner : Tree} {value : Value} {text : String}
    (denotes : Denotes inner value text) : Denotes (.paren inner) value text := by
  refine ⟨fun other => ?_, denotes.joins⟩
  rw [← denotes.evaluates other]
  constructor
  · rintro ⟨⟩
    assumption
  · exact .paren

/-- One operand is a text, so the operands are joined. -/
theorem Denotes.join {left right : Tree} {v w : Value} {front back : String}
    (first : Denotes left v front) (second : Denotes right w back)
    (text : (v.isText || w.isText) = true) :
    Denotes (.sum left right) (.text (front ++ back)) (front ++ back) := by
  refine ⟨fun other => ⟨?_, ?_⟩, joinsAs_text_iff _⟩
  · intro evaluates
    cases evaluates with
    | add ofLeft ofRight =>
      rw [← (first.evaluates _).mp ofLeft, ← (second.evaluates _).mp ofRight] at text
      exact absurd text Bool.false_ne_true
    | join ofLeft ofRight _ front back =>
      rw [(first.evaluates _).mp ofLeft] at front
      rw [(second.evaluates _).mp ofRight] at back
      rw [(first.joins _).mp front, (second.joins _).mp back]
  · rintro rfl
    exact .join ((first.evaluates v).mpr rfl) ((second.evaluates w).mpr rfl) text
      ((first.joins _).mpr rfl) ((second.joins _).mpr rfl)

/-- Neither operand is a text, so the operands are added. -/
theorem Denotes.add {left right : Tree} {x y : Binary64} {front back : String} {n : Nat}
    (first : Denotes left (.number x) front) (second : Denotes right (.number y) back)
    (magnitude : (x.add y).IsMagnitude) (natural : (x.add y).isNatural n = true)
    (small : n < 10 ^ 21) :
    Denotes (.sum left right) (.number (x.add y)) (String.ofList (x.add y).positional) := by
  refine ⟨fun other => ⟨?_, ?_⟩, joinsAs_number_iff magnitude natural small⟩
  · intro evaluates
    cases evaluates with
    | add ofLeft ofRight =>
      obtain ⟨⟩ := (first.evaluates _).mp ofLeft
      obtain ⟨⟩ := (second.evaluates _).mp ofRight
      rfl
    | join ofLeft ofRight text =>
      rw [(first.evaluates _).mp ofLeft, (second.evaluates _).mp ofRight] at text
      exact absurd text Bool.false_ne_true
  · rintro rfl
    exact .add ((first.evaluates _).mpr rfl) ((second.evaluates _).mpr rfl)

theorem IsPlain.exists_denotes {tree : Tree} (plain : tree.IsPlain)
    (apart : tree.addsNumbers = false) :
    ∃ value, Denotes tree value tree.fold ∧ value.isText = tree.hasText := by
  induction plain with
  | text value => exact ⟨_, denotes_text value, rfl⟩
  | number magnitude natural small => exact ⟨_, denotes_number magnitude natural small, rfl⟩
  | paren _ inductionHypothesis =>
    obtain ⟨value, denotes, kind⟩ := inductionHypothesis apart
    exact ⟨value, denotes.paren, kind⟩
  | sum _ _ leftHypothesis rightHypothesis =>
    rw [addsNumbers, Bool.or_eq_false_iff, Bool.or_eq_false_iff, Bool.not_eq_false'] at apart
    obtain ⟨⟨text, leftApart⟩, rightApart⟩ := apart
    -- With a text among the operands both are joined, and their texts are their folds.
    obtain ⟨v, first, leftKind⟩ := leftHypothesis leftApart
    obtain ⟨w, second, rightKind⟩ := rightHypothesis rightApart
    refine ⟨_, first.join second ?_, text.symm⟩
    rw [leftKind, rightKind]
    exact text

/-- A sum of texts and numbers evaluates to the text that it amounts to in messages, and to nothing
    else, if there is a text in it and no two numbers are added. -/
theorem evaluates_iff_eq_fold {tree : Tree} (plain : tree.IsPlain) (text : tree.hasText = true)
    (apart : tree.addsNumbers = false) (value : Value) :
    Evaluates tree value ↔ value = .text tree.fold := by
  obtain ⟨result, denotes, kind⟩ := plain.exists_denotes apart
  rw [denotes.evaluates]
  cases result with
  | number _ =>
    rw [text] at kind
    exact absurd kind Bool.false_ne_true
  | text result => rw [(denotes.joins result).mp (.text result)]

/-- The sum `'x' + (2 ** 60 + 'y')`, with the number written as it is. -/
def numberAmongTexts : Tree :=
  sum (literal (.string "x"))
    (paren (sum (literal (.number (.ofNat (2 ^ 60)))) (literal (.string "y"))))

/-- The power of two is written with its sixteen leading digits, which are enough to tell it. -/
theorem evaluates_numberAmongTexts :
    numberAmongTexts.IsPlain ∧ numberAmongTexts.hasText = true ∧
    numberAmongTexts.addsNumbers = false ∧
    Evaluates numberAmongTexts (.text "x1152921504606847000y") := by
  have number : IsPlain (literal (.number (.ofNat (2 ^ 60)))) :=
    .number (n := 2 ^ 60) ⟨2 ^ 60, 1, by decide, rfl⟩ (by decide +kernel) (by decide)
  have plain : numberAmongTexts.IsPlain := .sum (.text "x") (.paren (.sum number (.text "y")))
  have fold : numberAmongTexts.fold = "x1152921504606847000y" := by decide +kernel
  exact ⟨plain, rfl, rfl, (evaluates_iff_eq_fold plain rfl rfl _).mpr (by rw [fold])⟩

/-- The sum `1 + 2 + 'a'`. -/
def numbersBeforeText : Tree :=
  sum (sum (literal (.number (.ofNat 1))) (literal (.number (.ofNat 2)))) (literal (.string "a"))

/-- Numbers in front of the first text are added when the script runs; in the fold they stand side by
    side. -/
theorem numbersBeforeText_ne_fold :
    numbersBeforeText.IsPlain ∧ numbersBeforeText.hasText = true ∧
    ((Binary64.ofNat 1).add (.ofNat 2)).isNatural 3 = true ∧
    (∀ value, Evaluates numbersBeforeText value ↔ value = .text "3a") ∧
    numbersBeforeText.fold = "12a" := by
  have magnitude (n : Nat) : (Binary64.ofNat n).IsMagnitude := ⟨n, 1, by decide, rfl⟩
  have one : (Binary64.ofNat 1).isNatural 1 = true := by decide +kernel
  have two : (Binary64.ofNat 2).isNatural 2 = true := by decide +kernel
  have three : (Binary64.ofNat 1).add (.ofNat 2) = .ofNat 3 := by decide +kernel
  have exact : ((Binary64.ofNat 1).add (.ofNat 2)).isNatural 3 = true := by decide +kernel
  have small : 3 < 10 ^ 21 := by decide
  have added := (denotes_number (magnitude 1) one (by decide)).add
    (denotes_number (magnitude 2) two (by decide)) (three ▸ magnitude 3) exact small
  have whole := added.join (denotes_text "a") rfl
  have written : String.ofList ((Binary64.ofNat 1).add (.ofNat 2)).positional ++ "a" = "3a" := by
    decide +kernel
  rw [written] at whole
  refine ⟨?_, rfl, exact, whole.evaluates, by decide +kernel⟩
  exact .sum (.sum (.number (magnitude 1) one (by decide)) (.number (magnitude 2) two (by decide)))
    (.text "a")

end Tree

end Script

end Potfile
