import Potfile.Decimal.Shortest
import Potfile.Proofs.Decimal.Rounding

/-! # Magnitudes on grids of powers of ten

A natural number that is a magnitude, and which decimals read as this magnitude. They are looked for
on grids: the multiples of a power of ten.

* `Binary64.Holds`: the magnitude is a natural number of at most twenty-one digits.
* `Holds.rounds_of_reads`, `Holds.reads_of_rounds`: a decimal reads as the magnitude if its number is
  rounded to it.
* `Holds.not_rounds_of_onGrid?`, `Holds.nearest_of_onGrid?`: on each grid the nearest decimal of the
  magnitude is found, if there is one.
* `Holds.digitsBefore_eq`, `exists_of_search`: the search begins in front of the first digit, and ends
  on the coarsest grid with a decimal.
-/

namespace Potfile.Binary64

/-! ## Decimals -/

namespace Decimal

/-- The number that a decimal stands for. -/
def value (d : Decimal) : ℚ := d.digits * 10 ^ d.exponent

def length (d : Decimal) : Nat := (Nat.toDigits 10 d.digits).length

theorem lt_ten_pow_length (n : Nat) : n < 10 ^ (Nat.toDigits 10 n).length :=
  (Nat.length_toDigits_le_iff (by decide) Nat.length_toDigits_pos).mp le_rfl

theorem ten_pow_length_le {n : Nat} (pos : 0 < n) :
    10 ^ ((Nat.toDigits 10 n).length - 1) ≤ n := by
  rcases Nat.eq_zero_or_pos ((Nat.toDigits 10 n).length - 1) with one | more
  · rw [one]
    exact pos
  · by_contra less
    have shorter := (Nat.length_toDigits_le_iff (by decide) more).mpr (not_le.mp less)
    omega

theorem value_natCast (digits k : Nat) :
    (⟨digits, (k : Int)⟩ : Decimal).value = (digits * 10 ^ k : Nat) := by
  rw [value, zpow_natCast]
  norm_cast

/-- A decimal whose last digit stands left of a grid's is on that grid. -/
theorem exists_value_eq {d : Decimal} {k : Nat} (left : (k : Int) ≤ d.exponent) :
    ∃ c : Nat, d.value = (c * 10 ^ k : Nat) := by
  obtain ⟨j, exponent⟩ := Int.le.dest left
  refine ⟨d.digits * 10 ^ j, ?_⟩
  rw [value, ← exponent, ← Nat.cast_add, zpow_natCast, pow_add]
  push_cast
  ring

end Decimal

/-- The decimal reads as the magnitude `m * 2 ^ e`. -/
def Reads (m : Nat) (e : Int) (d : Decimal) : Prop :=
  ofDecimal d.digits d.exponent = .finite m e

/-- The magnitude is the natural number, without any rounding. -/
def isNatural : Binary64 → Nat → Bool
  | finite m e, n => (ratio m e).1 == n * (ratio m e).2
  | infinite, _ => false

theorem isNatural_finite_iff {m n : Nat} {e : Int} :
    (finite m e).isNatural n = true ↔ (m : ℚ) * 2 ^ e = n := by
  have denNe : ((scale m 1 e).2 : ℚ) ≠ 0 := by
    exact_mod_cast (scale_pos (by decide : 0 < 1) m e).ne'
  rw [isNatural, ratio, beq_iff_eq, ← @Nat.cast_inj ℚ, scale_one, Nat.cast_mul]
  exact mul_left_inj' denNe

/-- The magnitude `m * 2 ^ e` is a natural number of at most twenty-one digits. All its bits are in
    use, as those of any magnitude but the least ones. -/
structure Holds (m : Nat) (e : Int) (n : Nat) : Prop where
  low : 2 ^ 52 ≤ m
  high : m < 2 ^ 53
  exact : (m : ℚ) * 2 ^ e = n
  small : n < 10 ^ 21

/-- The magnitude is one of the format: some quotient is rounded to it. -/
def IsMagnitude (x : Binary64) : Prop := ∃ num den : Nat, 0 < den ∧ ofRatio num den = x

theorem holds_of_isNatural {m n : Nat} {e : Int} (magnitude : IsMagnitude (.finite m e))
    (natural : (finite m e).isNatural n = true) (pos : 0 < n) (small : n < 10 ^ 21) :
    Holds m e n := by
  obtain ⟨num, den, denPos, rounded⟩ := magnitude
  have exact := isNatural_finite_iff.mp natural
  have one : (1 : ℚ) ≤ m * 2 ^ e := by
    rw [exact]
    exact_mod_cast pos
  have numPos : 0 < num := by
    rcases Nat.eq_zero_or_pos num with zero | numPos
    · rw [ofRatio, if_pos zero] at rounded
      obtain ⟨rfl, -⟩ := finite.inj rounded
      norm_num at one
    · exact numPos
  obtain ⟨low, high⟩ := mantissa_bounds_of_ofRatio numPos denPos rounded one
  exact ⟨low, high, exact, small⟩

namespace Holds

variable {m n : Nat} {e : Int} (holds : Holds m e n)

include holds

theorem pos : 0 < n := by
  have mPos : (0 : ℚ) < m := by exact_mod_cast lt_of_lt_of_le (by norm_num) holds.low
  have nPos : (0 : ℚ) < n := by
    rw [← holds.exact]
    positivity
  exact_mod_cast nPos

theorem exponent_bounds : minExponent + 1 < e ∧ e ≤ maxExponent := by
  constructor
  · -- A greater negative exponent leaves nothing of the mantissa.
    by_contra less
    have one : (1 : ℚ) ≤ n := by exact_mod_cast holds.pos
    have mLess : (m : ℚ) < 2 ^ 53 := by exact_mod_cast holds.high
    have tiny : (2 : ℚ) ^ e ≤ 2 ^ (-53 : Int) := by
      apply zpow_le_zpow_right₀ (by norm_num)
      rw [minExponent] at less
      omega
    have unit : (0 : ℚ) < 2 ^ e := by positivity
    have : (m : ℚ) * 2 ^ e < 2 ^ 53 * 2 ^ (-53 : Int) := by
      calc (m : ℚ) * 2 ^ e < 2 ^ 53 * 2 ^ e := by gcongr
        _ ≤ 2 ^ 53 * 2 ^ (-53 : Int) := by gcongr
    rw [holds.exact, two_pow_mul (by norm_num : (-53 : Int) + (53 : Nat) = 0), zpow_zero] at this
    linarith
  · by_contra more
    have less : (n : ℚ) < 10 ^ 21 := by exact_mod_cast holds.small
    have mMore : (2 ^ 52 : ℚ) ≤ m := by exact_mod_cast holds.low
    have great : (2 : ℚ) ^ (20 : Int) ≤ 2 ^ e := by
      apply zpow_le_zpow_right₀ (by norm_num)
      rw [maxExponent] at more
      omega
    have : (2 ^ 52 : ℚ) * 2 ^ (20 : Int) ≤ m * 2 ^ e := by gcongr
    rw [holds.exact] at this
    norm_num at this less
    linarith

/-- Rounding gives the magnitude for the numbers around it. -/
theorem ofRatio_iff {num den : Nat} (numPos : 0 < num) (denPos : 0 < den) :
    ofRatio num den = .finite m e ↔ Rounds m e (num / den) :=
  ofRatio_eq_finite_iff numPos denPos holds.low holds.high holds.exponent_bounds.1
    holds.exponent_bounds.2

/-! ## Decimals that read as the magnitude -/

theorem rounds_of_reads {d : Decimal} (reads : Reads m e d) : 0 < d.digits ∧ Rounds m e d.value := by
  have mPos : m ≠ 0 := by
    have := holds.low
    omega
  rw [Reads, ofDecimal] at reads
  simp only at reads
  split_ifs at reads with zero great small up
  · exact absurd (finite.inj reads).1 (Ne.symm mPos)
  · exact absurd (finite.inj reads).1 (Ne.symm mPos)
  · have digitsPos := Nat.pos_of_ne_zero zero
    refine ⟨digitsPos, ?_⟩
    obtain ⟨k, exponent⟩ := Int.eq_ofNat_of_zero_le up
    rw [exponent, Int.toNat_natCast, Nat.pow_eq, holds.ofRatio_iff (by positivity) (by decide)]
      at reads
    rw [Decimal.value, exponent, zpow_natCast]
    simpa using reads
  · have digitsPos := Nat.pos_of_ne_zero zero
    refine ⟨digitsPos, ?_⟩
    obtain ⟨k, exponent⟩ := Int.exists_eq_neg_ofNat (by omega : d.exponent ≤ 0)
    rw [exponent, neg_neg, Int.toNat_natCast, Nat.pow_eq,
      holds.ofRatio_iff digitsPos (by positivity)] at reads
    rw [Decimal.value, exponent, zpow_neg, zpow_natCast, ← div_eq_mul_inv]
    simpa using reads

theorem reads_of_rounds {digits k : Nat} (pos : 0 < digits) (small : digits * 10 ^ k < 10 ^ 22)
    (rounds : Rounds m e (digits * 10 ^ k : Nat)) : Reads m e ⟨digits, k⟩ := by
  have size : (Nat.toDigits 10 digits).length + k ≤ 22 := by
    by_contra more
    have least := Nat.mul_le_mul_right (10 ^ k) (Decimal.ten_pow_length_le pos)
    have positive := Nat.length_toDigits_pos (b := 10) (n := digits)
    rw [← Nat.pow_add] at least
    have := Nat.pow_le_pow_right (by decide : 0 < 10)
      (by omega : 22 ≤ (Nat.toDigits 10 digits).length - 1 + k)
    omega
  rw [Reads, ofDecimal]
  simp only
  rw [if_neg pos.ne', if_neg (by omega), if_neg (by omega), if_pos (by omega), Int.toNat_natCast,
    Nat.pow_eq, holds.ofRatio_iff (by positivity) (by decide)]
  simpa using rounds

end Holds

/-! ## Grids of powers of ten -/

/-- A number stands between two points of a grid, and every point is on one side of both. -/
theorem sides (n k : Nat) : n / 10 ^ k * 10 ^ k ≤ n ∧ n < (n / 10 ^ k + 1) * 10 ^ k ∧
    ∀ c : Nat, c * 10 ^ k ≤ n / 10 ^ k * 10 ^ k ∨ (n / 10 ^ k + 1) * 10 ^ k ≤ c * 10 ^ k := by
  refine ⟨Nat.div_mul_le_self n _, ?_, fun c => ?_⟩
  · rw [mul_comm]
    exact Nat.lt_mul_div_succ n (by positivity)
  · rcases Nat.lt_or_ge (n / 10 ^ k) c with above | below
    · exact .inr (Nat.mul_le_mul_right _ above)
    · exact .inl (Nat.mul_le_mul_right _ below)

theorem abs_lower_sub (n k : Nat) :
    |((n / 10 ^ k * 10 ^ k : Nat) : ℚ) - n| = (n - n / 10 ^ k * 10 ^ k : Nat) := by
  have low := (sides n k).1
  rw [Nat.cast_sub low, abs_sub_comm, abs_of_nonneg (sub_nonneg.mpr (by exact_mod_cast low))]

theorem abs_upper_sub (n k : Nat) :
    |(((n / 10 ^ k + 1) * 10 ^ k : Nat) : ℚ) - n| = ((n / 10 ^ k + 1) * 10 ^ k - n : Nat) := by
  have high := (sides n k).2.1.le
  rw [Nat.cast_sub high, abs_of_nonneg (sub_nonneg.mpr (by exact_mod_cast high))]

/-- Of the points on one side the neighbour is the nearest. -/
theorem abs_neighbour_le (n k c : Nat) :
    (c * 10 ^ k ≤ n / 10 ^ k * 10 ^ k ∧
      |((n / 10 ^ k * 10 ^ k : Nat) : ℚ) - n| ≤ |((c * 10 ^ k : Nat) : ℚ) - n|) ∨
    ((n / 10 ^ k + 1) * 10 ^ k ≤ c * 10 ^ k ∧
      |(((n / 10 ^ k + 1) * 10 ^ k : Nat) : ℚ) - n| ≤ |((c * 10 ^ k : Nat) : ℚ) - n|) := by
  obtain ⟨low, high, side⟩ := sides n k
  rcases side c with below | above
  · have lowQ : ((n / 10 ^ k * 10 ^ k : Nat) : ℚ) ≤ n := by exact_mod_cast low
    have belowQ : ((c * 10 ^ k : Nat) : ℚ) ≤ (n / 10 ^ k * 10 ^ k : Nat) := by
      exact_mod_cast below
    refine .inl ⟨below, ?_⟩
    rw [abs_of_nonpos (by linarith), abs_of_nonpos (by linarith)]
    linarith
  · have highQ : (n : ℚ) ≤ ((n / 10 ^ k + 1) * 10 ^ k : Nat) := by exact_mod_cast high.le
    have aboveQ : (((n / 10 ^ k + 1) * 10 ^ k : Nat) : ℚ) ≤ (c * 10 ^ k : Nat) := by
      exact_mod_cast above
    refine .inr ⟨above, ?_⟩
    rw [abs_of_nonneg (by linarith), abs_of_nonneg (by linarith)]
    linarith

theorem den_interval_pos (m : Nat) (e : Int) : 0 < (interval m e).den :=
  Nat.mul_pos (by decide) (scale_pos (by decide : 0 < 1) 1 e)

/-- The interval of a magnitude holds the natural numbers that are rounded to it. -/
theorem holds_interval_iff {m : Nat} (pos : 0 < m) (e : Int) (c : Nat) :
    (interval m e).holds (c * (interval m e).den) 1 = true ↔ Rounds m e c := by
  have unit : (0 : ℚ) < 2 ^ e := by positivity
  have wholePos : (0 : ℚ) < 2 ^ e * (interval m e).den := by
    have : (0 : ℚ) < (interval m e).den := by exact_mod_cast den_interval_pos m e
    positivity
  -- Everything is compared over one denominator.
  have whole : (4 : ℚ) * (scale 1 1 e).1 = 2 ^ e * (interval m e).den := by
    rw [scale_one, interval]
    push_cast
    ring
  have low : ((interval m e).low : ℚ) = (m - reach m e / 4) * (2 ^ e * (interval m e).den) := by
    have less : reach m e ≤ 4 * m := by
      have most : reach m e ≤ 2 := by exact_mod_cast (reach_bounds m e).2
      omega
    have low : (interval m e).low = (4 * m - reach m e) * (scale 1 1 e).1 := rfl
    rw [low, ← whole]
    push_cast [less]
    ring
  have high : ((interval m e).high : ℚ) = (m + 1 / 2) * (2 ^ e * (interval m e).den) := by
    have high : (interval m e).high = (4 * m + 2) * (scale 1 1 e).1 := rfl
    rw [high, ← whole]
    push_cast
    ring
  have point : ((c * (interval m e).den : Nat) : ℚ) =
      c / 2 ^ e * (2 ^ e * (interval m e).den) := by
    push_cast
    field_simp
  have closed : (interval m e).closed = (m % 2 == 0) := rfl
  rw [Interval.holds, closed, mul_one, mul_one, Rounds]
  by_cases even : m % 2 = 0
  · rw [if_pos (by simpa using even), Bool.and_eq_true, decide_eq_true_eq, decide_eq_true_eq,
      ← @Nat.cast_le ℚ, ← @Nat.cast_le ℚ, low, point, high, mul_le_mul_iff_left₀ wholePos,
      mul_le_mul_iff_left₀ wholePos]
    simp [even]
  · rw [if_neg (by simpa using even), Bool.and_eq_true, decide_eq_true_eq, decide_eq_true_eq,
      ← @Nat.cast_lt ℚ, ← @Nat.cast_lt ℚ, low, point, high, mul_lt_mul_iff_left₀ wholePos,
      mul_lt_mul_iff_left₀ wholePos]
    simp only [even, imp_false, not_or]
    constructor
    · rintro ⟨above, below⟩
      exact ⟨above.le, below.le, above.ne', below.ne⟩
    · rintro ⟨above, below, notLow, notHigh⟩
      exact ⟨lt_of_le_of_ne above (Ne.symm notLow), lt_of_le_of_ne below notHigh⟩

namespace Holds

variable {m n : Nat} {e : Int} (holds : Holds m e n)

include holds

theorem rounds_self : Rounds m e n := by
  rw [← holds.exact]
  exact Binary64.rounds_self m e

theorem value_interval : (interval m e).value = (interval m e).den * n := by
  have value : ((interval m e).value : ℚ) = ((interval m e).den * n : Nat) := by
    have value : (interval m e).value = 4 * m * (scale 1 1 e).1 := rfl
    have den : (interval m e).den = 4 * (scale 1 1 e).2 := rfl
    rw [value, den]
    push_cast
    rw [scale_one, ← holds.exact]
    push_cast
    ring
  exact_mod_cast value

/-- On the grid of step `10 ^ k`, the two points around the number are tried. -/
theorem onGrid?_eq (k : Nat) : (interval m e).onGrid? k =
    if Rounds m e ((n / 10 ^ k + 1) * 10 ^ k : Nat) ∧
        (¬ Rounds m e (n / 10 ^ k * 10 ^ k : Nat) ∨
          (n / 10 ^ k + 1) * 10 ^ k - n ≤ n - n / 10 ^ k * 10 ^ k) then some (n / 10 ^ k + 1)
    else if Rounds m e (n / 10 ^ k * 10 ^ k : Nat) then some (n / 10 ^ k)
    else none := by
  have mPos : 0 < m := lt_of_lt_of_le (by norm_num) holds.low
  have denPos := den_interval_pos m e
  have point (q : Nat) : q * ((interval m e).den * 10 ^ k) = q * 10 ^ k * (interval m e).den := by
    ring
  have quotient : (interval m e).den * n / ((interval m e).den * 10 ^ k) = n / 10 ^ k :=
    Nat.mul_div_mul_left _ _ denPos
  -- The interval has everything over its denominator, which cancels.
  rw [Interval.onGrid?]
  simp only [Int.natCast_nonneg, if_true, Int.toNat_natCast, Nat.pow_eq, mul_one,
    holds.value_interval, quotient, point]
  have nearer : ((n / 10 ^ k + 1) * 10 ^ k * (interval m e).den - (interval m e).den * n ≤
      (interval m e).den * n - n / 10 ^ k * 10 ^ k * (interval m e).den) ↔
      ((n / 10 ^ k + 1) * 10 ^ k - n ≤ n - n / 10 ^ k * 10 ^ k) := by
    rw [mul_comm _ n, ← Nat.sub_mul, ← Nat.sub_mul]
    exact Nat.mul_le_mul_right_iff denPos
  simp only [Bool.and_eq_true, Bool.or_eq_true, Bool.not_eq_true', Bool.eq_false_iff, ne_eq,
    decide_eq_true_eq, holds_interval_iff mPos, nearer]

theorem not_rounds_of_onGrid? {k : Nat} (none : (interval m e).onGrid? k = none) (c : Nat) :
    ¬ Rounds m e (c * 10 ^ k : Nat) := by
  obtain ⟨low, high, side⟩ := sides n k
  intro rounds
  rw [holds.onGrid?_eq] at none
  split_ifs at none with up down
  -- Between the point and the number itself stands the neighbour on the same side.
  rcases side c with below | above
  · refine down (rounds.between holds.rounds_self ?_ ?_)
    · exact_mod_cast below
    · exact_mod_cast low
  · refine up ⟨holds.rounds_self.between rounds ?_ ?_, .inl down⟩
    · exact_mod_cast high.le
    · exact_mod_cast above

theorem nearest_of_onGrid? {k q : Nat} (found : (interval m e).onGrid? k = some q) :
    Rounds m e (q * 10 ^ k : Nat) ∧ ∀ c : Nat, Rounds m e (c * 10 ^ k : Nat) →
      |((q * 10 ^ k : Nat) : ℚ) - n| ≤ |((c * 10 ^ k : Nat) : ℚ) - n| := by
  obtain ⟨low, high, -⟩ := sides n k
  have lowQ : ((n / 10 ^ k * 10 ^ k : Nat) : ℚ) ≤ n := by exact_mod_cast low
  have highQ : (n : ℚ) ≤ ((n / 10 ^ k + 1) * 10 ^ k : Nat) := by exact_mod_cast high.le
  rw [holds.onGrid?_eq] at found
  split_ifs at found with up down
  · obtain ⟨rounds, nearer⟩ := up
    obtain rfl := Option.some.inj found
    refine ⟨rounds, fun c rounds' => ?_⟩
    rcases abs_neighbour_le n k c with ⟨below, farther⟩ | ⟨-, farther⟩
    · -- With a point farther below, the lower neighbour is rounded to the magnitude too, and it was
      -- not taken because the upper one is nearer.
      have down := rounds'.between holds.rounds_self (by exact_mod_cast below) lowQ
      refine le_trans ?_ farther
      rw [abs_upper_sub, abs_lower_sub]
      exact_mod_cast nearer.resolve_left (not_not.mpr down)
    · exact farther
  · obtain rfl := Option.some.inj found
    refine ⟨down, fun c rounds' => ?_⟩
    rcases abs_neighbour_le n k c with ⟨-, farther⟩ | ⟨above, farther⟩
    · exact farther
    · have rounds := holds.rounds_self.between rounds' highQ (by exact_mod_cast above)
      refine le_trans ?_ farther
      rw [abs_upper_sub, abs_lower_sub]
      exact_mod_cast le_of_not_ge fun closer => up ⟨rounds, .inr closer⟩

/-! ## How many digits there are -/

/-- The number of digits is found from any estimate that is not too great, if it is near enough. -/
theorem digitsBefore_eq {fuel : Nat} {p : Int} (low : p ≤ (Nat.toDigits 10 n).length)
    (high : (Nat.toDigits 10 n).length ≤ p + fuel) :
    digitsBefore (interval m e).value (interval m e).den fuel p = (Nat.toDigits 10 n).length := by
  induction fuel generalizing p with
  | zero =>
    rw [digitsBefore]
    omega
  | succ fuel inductionHypothesis =>
    rw [digitsBefore, holds.value_interval]
    by_cases reached : p = (Nat.toDigits 10 n).length
    · have below := Nat.mul_lt_mul_of_pos_left (Decimal.lt_ten_pow_length n)
        (den_interval_pos m e)
      simp only [reached, Int.natCast_nonneg, if_true, Int.toNat_natCast, Nat.pow_eq, below]
    · -- The number does not stand below this power of ten.
      have next : digitsBefore (interval m e).value (interval m e).den fuel (p + 1) =
          (Nat.toDigits 10 n).length :=
        inductionHypothesis (by omega) (by push_cast at high; omega)
      rw [← holds.value_interval, next]
      rcases lt_or_ge p 0 with negative | nonneg
      · have above : ¬ (interval m e).den * n * 10 ^ (-p).toNat < (interval m e).den := by
          rw [not_lt, mul_assoc]
          exact Nat.le_mul_of_pos_right _ (Nat.mul_pos holds.pos (by positivity))
        simp only [holds.value_interval, not_le.mpr negative, if_false, Nat.pow_eq, above]
      · obtain ⟨k, rfl⟩ := Int.eq_ofNat_of_zero_le nonneg
        have above : ¬ (interval m e).den * n < (interval m e).den * 10 ^ k := by
          rw [not_lt]
          refine Nat.mul_le_mul_left _ (le_trans ?_ (Decimal.ten_pow_length_le holds.pos))
          exact Nat.pow_le_pow_right (by decide) (by omega)
        simp only [holds.value_interval, nonneg, if_true, Int.toNat_natCast, Nat.pow_eq, above,
          if_false]

theorem log2_value : ((interval m e).value.log2 : Int) - (interval m e).den.log2 = n.log2 := by
  -- The denominator is a power of two.
  obtain ⟨t, power⟩ : ∃ t, (interval m e).den = 2 ^ t := by
    have den : (interval m e).den = 4 * (scale 1 1 e).2 := rfl
    rw [den, scale]
    split
    · exact ⟨2, rfl⟩
    · refine ⟨2 + (-e).toNat, ?_⟩
      rw [Nat.pow_add, Nat.pow_eq]
      norm_num
  have value : (2 ^ t * n).log2 = t + n.log2 := by
    rw [Nat.log2_eq_iff (Nat.mul_ne_zero (by positivity) holds.pos.ne'), Nat.pow_add, add_assoc,
      Nat.pow_add]
    exact ⟨Nat.mul_le_mul_left _ (Nat.log2_self_le holds.pos.ne'),
      Nat.mul_lt_mul_of_pos_left Nat.lt_log2_self (by positivity)⟩
  rw [holds.value_interval, power, value, Nat.log2_two_pow]
  push_cast
  ring

/-- The search begins at most five places in front of the first digit. -/
theorem start_bounds :
    ((n.log2 : Int) - 1) * 30103 / 100000 ≤ (Nat.toDigits 10 n).length ∧
      (Nat.toDigits 10 n).length ≤ ((n.log2 : Int) - 1) * 30103 / 100000 + 5 := by
  have table : ∀ l : Nat, l < 70 →
      10 ^ ((((l : Int) - 1) * 30103 / 100000).toNat - 1) ≤ 2 ^ l ∧
      2 ^ (l + 1) ≤ 10 ^ ((((l : Int) - 1) * 30103 / 100000 + 5).toNat) := by
    decide +kernel
  -- Twenty-one digits have no more than seventy bits, and the table holds for each number of bits.
  have bits : n.log2 < 70 := by
    rw [Nat.log2_lt holds.pos.ne']
    exact lt_trans holds.small (by norm_num)
  obtain ⟨low, high⟩ := table n.log2 bits
  have start : -1 ≤ ((n.log2 : Int) - 1) * 30103 / 100000 := by omega
  constructor
  · by_contra beyond
    have less : 10 ^ (Nat.toDigits 10 n).length ≤
        10 ^ ((((n.log2 : Int) - 1) * 30103 / 100000).toNat - 1) :=
      Nat.pow_le_pow_right (by decide) (by omega)
    have := Nat.log2_self_le holds.pos.ne'
    have := Decimal.lt_ten_pow_length n
    omega
  · by_contra before
    have less : 10 ^ ((((n.log2 : Int) - 1) * 30103 / 100000 + 5).toNat) ≤
        10 ^ ((Nat.toDigits 10 n).length - 1) :=
      Nat.pow_le_pow_right (by decide) (by omega)
    have := @Nat.lt_log2_self n
    have := Decimal.ten_pow_length_le holds.pos
    omega

/-! ## Which grids hold a decimal -/

theorem rounds_of_close {v : ℚ} (close : |v - n| < reach m e / 4 * 2 ^ e) : Rounds m e v := by
  have unit : (0 : ℚ) < 2 ^ e := by positivity
  have most := (reach_bounds m e).2
  have center : (n : ℚ) / 2 ^ e = m := by
    rw [← holds.exact, mul_div_cancel_right₀ _ unit.ne']
  have scaled : |v / 2 ^ e - m| < reach m e / 4 := by
    rw [← center, ← sub_div, abs_div, abs_of_pos unit, div_lt_iff₀ unit]
    exact close
  rw [abs_lt] at scaled
  refine ⟨by linarith, by linarith, ?_⟩
  rintro (low | high) <;> linarith

/-- With seventeen digits the points of the grid are less far apart than the interval is wide. -/
theorem dense_of_seventeen {k : Nat} (long : k + 17 = (Nat.toDigits 10 n).length) :
    (2 : ℚ) * 10 ^ k < reach m e * 2 ^ e := by
  have unit : (0 : ℚ) < 2 ^ e := by positivity
  have great : (10 : ℚ) ^ k * 10 ^ 16 ≤ n := by
    have digits := Decimal.ten_pow_length_le holds.pos
    rw [← long, Nat.add_sub_assoc (by decide), Nat.pow_add] at digits
    exact_mod_cast digits
  rw [← holds.exact] at great
  by_cases power : m = 2 ^ (precision - 1) ∧ minExponent < e
  · have isPower : m = 2 ^ 52 := power.1
    rw [reach, if_pos power]
    rw [isPower] at great
    push_cast at great ⊢
    norm_num at great
    linarith
  · have below : (m : ℚ) * 2 ^ e < 2 ^ 53 * 2 ^ e := by
      have : (m : ℚ) < 2 ^ 53 := by exact_mod_cast holds.high
      gcongr
    rw [reach, if_neg power]
    push_cast
    norm_num at great below
    linarith

theorem onGrid?_of_seventeen {k : Nat} (long : k + 17 = (Nat.toDigits 10 n).length) :
    (interval m e).onGrid? k ≠ none := by
  have dense := holds.dense_of_seventeen long
  intro none
  obtain ⟨low, high, -⟩ := sides n k
  have lowQ : ((n / 10 ^ k * 10 ^ k : Nat) : ℚ) ≤ n := by exact_mod_cast low
  have highQ : (n : ℚ) ≤ ((n / 10 ^ k + 1) * 10 ^ k : Nat) := by exact_mod_cast high.le
  have step : (((n / 10 ^ k + 1) * 10 ^ k : Nat) : ℚ) = (n / 10 ^ k * 10 ^ k : Nat) + 10 ^ k := by
    push_cast
    ring
  rcases le_total ((n : ℚ) - (n / 10 ^ k * 10 ^ k : Nat))
      (((n / 10 ^ k + 1) * 10 ^ k : Nat) - n) with near | near
  · refine holds.not_rounds_of_onGrid? none (n / 10 ^ k) (holds.rounds_of_close ?_)
    rw [abs_of_nonpos (by linarith)]
    linarith
  · refine holds.not_rounds_of_onGrid? none (n / 10 ^ k + 1) (holds.rounds_of_close ?_)
    rw [abs_of_nonneg (by linarith)]
    linarith

theorem onGrid?_of_rounds {k c : Nat} (rounds : Rounds m e (c * 10 ^ k : Nat)) :
    (interval m e).onGrid? k ≠ none :=
  fun none => holds.not_rounds_of_onGrid? none c rounds

/-- Powers of ten of this size are magnitudes themselves. -/
theorem eq_ten_pow_of_rounds {k : Nat} (small : k ≤ 22) (rounds : Rounds m e (10 ^ k : Nat)) :
    n = 10 ^ k := by
  have table : ∀ k : Nat, k < 23 → (ofRatio (10 ^ k) 1).isNatural (10 ^ k) = true := by
    decide +kernel
  have natural := table k (by omega)
  rw [(holds.ofRatio_iff (by positivity) (by decide)).mpr (by simpa using rounds),
    isNatural_finite_iff, holds.exact] at natural
  exact_mod_cast natural

end Holds

/-- The search ends with the coarsest grid that holds a decimal. -/
theorem exists_of_search (i : Interval) {p fuel digits c : Nat} (first : digits ≤ c) (last : c ≤ p)
    (enough : c < digits + fuel) (found : i.onGrid? (p - c : Nat) ≠ none) :
    ∃ c' q : Nat, digits ≤ c' ∧ c' ≤ c ∧ search i p fuel digits = ⟨q, (p - c' : Nat)⟩ ∧
      i.onGrid? (p - c' : Nat) = some q ∧
      ∀ d, digits ≤ d → d < c' → i.onGrid? (p - d : Nat) = none := by
  induction fuel generalizing digits with
  | zero => omega
  | succ fuel inductionHypothesis =>
    have grid : (p : Int) - digits = (p - digits : Nat) := by omega
    rw [search, grid]
    cases here : i.onGrid? (p - digits : Nat) with
    | some q => exact ⟨digits, q, le_rfl, first, rfl, here, by omega⟩
    | none =>
      -- The search goes on, since the grid on which there is a decimal was not reached.
      have other : digits ≠ c := by
        rintro rfl
        exact found here
      obtain ⟨c', q, least, most, result, holds, before⟩ :=
        inductionHypothesis (by omega : digits + 1 ≤ c) (by omega)
      refine ⟨c', q, by omega, most, result, holds, ?_⟩
      intro d above below
      rcases Nat.eq_or_lt_of_le above with rfl | later
      · exact here
      · exact before d later below

end Potfile.Binary64
