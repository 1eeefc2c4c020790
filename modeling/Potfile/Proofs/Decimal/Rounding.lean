import Potfile.Decimal.Binary64
import Mathlib.Algebra.Order.Field.Power
import Mathlib.Data.Nat.Log
import Mathlib.Data.Rat.Cast.Order
import Mathlib.Tactic.FieldSimp
import Mathlib.Tactic.Linarith
import Mathlib.Tactic.NormNum
import Mathlib.Tactic.Positivity
import Mathlib.Tactic.Ring

/-! # Rounding to a magnitude

Which quotients are rounded to a magnitude.

* `Binary64.Rounds`: the numbers that are nearer to a magnitude than to its neighbours, with those
  half-way to them if the magnitude's last bit is zero.
* `Binary64.ofRatio_eq_finite_iff`: rounding a quotient gives a magnitude exactly if the quotient is
  one of these numbers.
-/

namespace Potfile.Binary64

/-! ## Quotients that are scaled -/

theorem two_pow_mul {k : Nat} {e l : Int} (sum : e + k = l) : (2 : ℚ) ^ k * 2 ^ e = 2 ^ l := by
  rw [← zpow_natCast, ← zpow_add₀ (by norm_num), add_comm, sum]

/-- In a place half as great, a number is twice as great. -/
theorem div_two_zpow_pred (v : ℚ) (e : Int) : v / 2 ^ (e - 1) = 2 * (v / 2 ^ e) := by
  have half : (2 : ℚ) ^ 1 * 2 ^ (e - 1) = 2 ^ e := two_pow_mul (by omega)
  rw [← half]
  field_simp

theorem scale_pos {den : Nat} (pos : 0 < den) (num : Nat) (k : Int) : 0 < (scale num den k).2 := by
  rw [scale]
  split
  · exact pos
  · exact Nat.mul_pos pos (Nat.pow_pos (by decide))

theorem scale_div (num den : Nat) (k : Int) :
    ((scale num den k).1 : ℚ) / (scale num den k).2 = num / den * 2 ^ k := by
  rw [scale]
  split
  · next up =>
    obtain ⟨n, rfl⟩ := Int.eq_ofNat_of_zero_le up
    simp only [Int.toNat_natCast, Nat.pow_eq, Nat.cast_mul, Nat.cast_pow, Nat.cast_ofNat,
      zpow_natCast]
    ring
  · next down =>
    obtain ⟨n, rfl⟩ := Int.exists_eq_neg_ofNat (by omega : k ≤ 0)
    simp only [neg_neg, Int.toNat_natCast, Nat.pow_eq, Nat.cast_mul, Nat.cast_pow, Nat.cast_ofNat,
      zpow_neg, zpow_natCast]
    rw [div_mul_eq_div_div, div_eq_mul_inv (_ / _)]

theorem scale_one (m : Nat) (e : Int) :
    ((scale m 1 e).1 : ℚ) = m * 2 ^ e * (scale m 1 e).2 := by
  have scaled := scale_div m 1 e
  have denNe : ((scale m 1 e).2 : ℚ) ≠ 0 := by
    exact_mod_cast (scale_pos (by decide : 0 < 1) m e).ne'
  rw [Nat.cast_one, div_one, div_eq_iff denNe] at scaled
  exact scaled

/-- Both numbers lie between powers of two, and so does their quotient. -/
theorem quotient_bounds {num den : Nat} (numPos : 0 < num) (denPos : 0 < den) :
    (2 : ℚ) ^ ((num.log2 : Int) - den.log2 - 1) ≤ num / den ∧
      (num : ℚ) / den < 2 ^ ((num.log2 : Int) - den.log2 + 1) := by
  have denPos' : (0 : ℚ) < den := by exact_mod_cast denPos
  have numLow : ((2 : ℚ) ^ num.log2) ≤ num := by exact_mod_cast Nat.log2_self_le numPos.ne'
  have numHigh : (num : ℚ) < 2 ^ (num.log2 + 1) := by exact_mod_cast Nat.lt_log2_self
  have denLow : ((2 : ℚ) ^ den.log2) ≤ den := by exact_mod_cast Nat.log2_self_le denPos.ne'
  have denHigh : (den : ℚ) < 2 ^ (den.log2 + 1) := by exact_mod_cast Nat.lt_log2_self
  constructor
  · rw [le_div_iff₀ denPos']
    calc (2 : ℚ) ^ ((num.log2 : Int) - den.log2 - 1) * den
        ≤ 2 ^ ((num.log2 : Int) - den.log2 - 1) * 2 ^ (den.log2 + 1) := by
          gcongr
      _ = 2 ^ num.log2 := by
          rw [mul_comm, two_pow_mul (by omega : _ = (num.log2 : Int)), zpow_natCast]
      _ ≤ num := numLow
  · rw [div_lt_iff₀ denPos']
    calc (num : ℚ) < 2 ^ (num.log2 + 1) := numHigh
      _ = 2 ^ ((num.log2 : Int) - den.log2 + 1) * 2 ^ den.log2 := by
          rw [mul_comm, two_pow_mul (by omega : _ = ((num.log2 + 1 : Nat) : Int)), zpow_natCast]
      _ ≤ 2 ^ ((num.log2 : Int) - den.log2 + 1) * den := by gcongr

theorem log2Ratio_spec {num den : Nat} (numPos : 0 < num) (denPos : 0 < den) :
    (2 : ℚ) ^ log2Ratio num den ≤ num / den ∧
      (num : ℚ) / den < 2 ^ (log2Ratio num den + 1) := by
  -- The difference of the logarithms is right, or it is one too great.
  obtain ⟨low, high⟩ := quotient_bounds numPos denPos
  have guessPos : (0 : ℚ) < 2 ^ ((num.log2 : Int) - den.log2) := by positivity
  have pos := scale_pos denPos num (-((num.log2 : Int) - den.log2))
  have scaled := scale_div num den (-((num.log2 : Int) - den.log2))
  rw [log2Ratio]
  simp only
  generalize scale num den (-((num.log2 : Int) - den.log2)) = pair at pos scaled ⊢
  obtain ⟨n, d⟩ := pair
  simp only at pos scaled ⊢
  have pos' : (0 : ℚ) < d := by exact_mod_cast pos
  rw [zpow_neg] at scaled
  split
  · next reached =>
    have reached' : (1 : ℚ) ≤ n / d := by
      rw [one_le_div pos']
      exact_mod_cast reached
    rw [scaled, ← div_eq_mul_inv, one_le_div guessPos] at reached'
    exact ⟨reached', high⟩
  · next missed =>
    have missed' : (n : ℚ) / d < 1 := by
      rw [div_lt_one pos']
      exact_mod_cast not_le.mp missed
    rw [scaled, ← div_eq_mul_inv, div_lt_one guessPos] at missed'
    exact ⟨low, by simpa using missed'⟩

/-! ## The nearest natural number -/

/-- No natural number is nearer, and an odd one is not as near as its neighbours. -/
def Nearest (v : ℚ) (n : Nat) : Prop :=
  (n : ℚ) - 1 / 2 ≤ v ∧ v ≤ n + 1 / 2 ∧ (v = n - 1 / 2 ∨ v = n + 1 / 2 → n % 2 = 0)

theorem nearest_roundHalfEven (num : Nat) {den : Nat} (pos : 0 < den) :
    Nearest (num / den) (roundHalfEven num den) := by
  have pos' : (0 : ℚ) < den := by exact_mod_cast pos
  have split : (num : ℚ) / den = (num / den : Nat) + ((num % den : Nat) : ℚ) / den := by
    rw [eq_comm, ← mul_right_inj' pos'.ne', mul_add, mul_div_cancel₀ _ pos'.ne',
      mul_div_cancel₀ _ pos'.ne']
    exact_mod_cast Nat.div_add_mod num den
  have fractionNonneg : (0 : ℚ) ≤ ((num % den : Nat) : ℚ) / den := by positivity
  rw [split, roundHalfEven, Nearest]
  split_ifs with below above
  · have less : ((num % den : Nat) : ℚ) / den < 1 / 2 := by
      rw [div_lt_div_iff₀ pos' (by norm_num)]
      exact_mod_cast (by omega : num % den * 2 < 1 * den)
    refine ⟨by linarith, by linarith, ?_⟩
    rintro (low | high) <;> linarith
  · have more : 1 / 2 < ((num % den : Nat) : ℚ) / den := by
      rw [div_lt_div_iff₀ (by norm_num) pos']
      exact_mod_cast (by omega : 1 * den < num % den * 2)
    have less : ((num % den : Nat) : ℚ) / den < 1 := by
      rw [div_lt_one pos']
      exact_mod_cast Nat.mod_lt num pos
    push_cast
    refine ⟨by linarith, by linarith, ?_⟩
    rintro (low | high) <;> linarith
  · -- Half-way, and the even one of the two neighbours is taken.
    have half : ((num % den : Nat) : ℚ) / den = 1 / 2 := by
      rw [div_eq_div_iff pos'.ne' (by norm_num)]
      exact_mod_cast (by omega : num % den * 2 = 1 * den)
    rw [half]
    rcases Nat.mod_two_eq_zero_or_one (num / den) with even | odd
    · rw [even, Nat.add_zero]
      exact ⟨by linarith, by linarith, fun _ => even⟩
    · rw [odd]
      push_cast
      exact ⟨by linarith, by linarith, fun _ => by omega⟩

theorem Nearest.unique {v : ℚ} {n n' : Nat} (nearest : Nearest v n) (nearest' : Nearest v n') :
    n = n' := by
  have ordered {n n' : Nat} (nearest : Nearest v n) (nearest' : Nearest v n') : n ≤ n' := by
    by_contra above
    -- The greater one can only be the next one, and then both would be even.
    obtain ⟨low, -, even⟩ := nearest
    obtain ⟨-, high', even'⟩ := nearest'
    have next : (n' : ℚ) + 1 ≤ n := by exact_mod_cast not_le.mp above
    have tie : v = (n : ℚ) - 1 / 2 := by linarith
    have tie' : v = (n' : ℚ) + 1 / 2 := by linarith
    have step : n = n' + 1 := by
      have step : (n : ℚ) = (n' + 1 : Nat) := by push_cast; linarith
      exact_mod_cast step
    have := even (.inl tie)
    have := even' (.inr tie')
    omega
  exact Nat.le_antisymm (ordered nearest nearest') (ordered nearest' nearest)

/-! ## The numbers that round to a magnitude -/

/-- How far the numbers reach that are rounded up to a magnitude, in quarters of its last place. Below
    a power of two the next magnitude is only half as far. -/
def reach (m : Nat) (e : Int) : Nat :=
  if m = 2 ^ (precision - 1) ∧ minExponent < e then 1 else 2

/-- The number is rounded to the magnitude `m * 2 ^ e`. -/
def Rounds (m : Nat) (e : Int) (v : ℚ) : Prop :=
  (m : ℚ) - reach m e / 4 ≤ v / 2 ^ e ∧ v / 2 ^ e ≤ m + 1 / 2 ∧
    (v / 2 ^ e = m - reach m e / 4 ∨ v / 2 ^ e = m + 1 / 2 → m % 2 = 0)

instance (m : Nat) (e : Int) (v : ℚ) : Decidable (Rounds m e v) :=
  inferInstanceAs (Decidable (_ ∧ _ ∧ (_ → _)))

theorem reach_bounds (m : Nat) (e : Int) : (1 : ℚ) ≤ reach m e ∧ (reach m e : ℚ) ≤ 2 := by
  rw [reach]
  split <;> norm_num

theorem rounds_self (m : Nat) (e : Int) : Rounds m e (m * 2 ^ e) := by
  have least := (reach_bounds m e).1
  rw [Rounds, mul_div_cancel_right₀ _ (by positivity)]
  refine ⟨by linarith, by linarith, ?_⟩
  rintro (low | high) <;> linarith

theorem Rounds.between {m : Nat} {e : Int} {u v w : ℚ} (first : Rounds m e u)
    (last : Rounds m e w) (low : u ≤ v) (high : v ≤ w) : Rounds m e v := by
  have unit : (0 : ℚ) < 2 ^ e := by positivity
  have low' : u / 2 ^ e ≤ v / 2 ^ e := by gcongr
  have high' : v / 2 ^ e ≤ w / 2 ^ e := by gcongr
  refine ⟨first.1.trans low', high'.trans last.2.1, ?_⟩
  rintro (tie | tie)
  · exact first.2.2 (.inl (le_antisymm (low'.trans_eq tie) first.1))
  · exact last.2.2 (.inr (le_antisymm last.2.1 (tie.symm.trans_le high')))

/-- The exponent of the last bit that is kept of a quotient. -/
def lastPlace (num den : Nat) : Int := max (log2Ratio num den - 52) minExponent

/-- The quotient is rounded to its last place. If it is rounded up to the next power of two, it keeps
    one bit less. -/
theorem ofRatio_eq_ite {num den : Nat} (numPos : 0 < num) (denPos : 0 < den) :
    ∃ m, Nearest (num / den / 2 ^ lastPlace num den) m ∧
      ofRatio num den =
        if m = 2 ^ 53 then
          if maxExponent < lastPlace num den + 1 then .infinite
          else .finite (2 ^ 52) (lastPlace num den + 1)
        else
          if maxExponent < lastPlace num den then .infinite
          else .finite m (lastPlace num den) := by
  have near := nearest_roundHalfEven (scale num den (-lastPlace num den)).1
    (scale_pos denPos num (-lastPlace num den))
  rw [scale_div, zpow_neg, ← div_eq_mul_inv] at near
  refine ⟨_, near, ?_⟩
  have place : max (log2Ratio num den - (precision - 1 : Nat)) minExponent = lastPlace num den := rfl
  have power : Nat.pow 2 precision = 2 ^ 53 := rfl
  have half : Nat.pow 2 (precision - 1) = 2 ^ 52 := rfl
  rw [ofRatio, if_neg numPos.ne', place]
  simp only [power, half]
  by_cases carry : roundHalfEven (scale num den (-lastPlace num den)).1
      (scale num den (-lastPlace num den)).2 = 2 ^ 53
  · rw [if_pos carry, if_pos carry]
  · rw [if_neg carry, if_neg carry]

theorem div_lastPlace_lt {num den : Nat} (numPos : 0 < num) (denPos : 0 < den) :
    (num : ℚ) / den / 2 ^ lastPlace num den < 2 ^ 53 := by
  have unit : (0 : ℚ) < 2 ^ lastPlace num den := by positivity
  rw [div_lt_iff₀ unit, two_pow_mul (rfl : lastPlace num den + (53 : Nat) = _)]
  refine (log2Ratio_spec numPos denPos).2.trans_le (zpow_le_zpow_right₀ (by norm_num) ?_)
  rw [lastPlace]
  omega

theorem le_div_lastPlace {num den : Nat} (numPos : 0 < num) (denPos : 0 < den)
    (normal : minExponent ≤ log2Ratio num den - 52) :
    (2 : ℚ) ^ 52 ≤ num / den / 2 ^ lastPlace num den := by
  have unit : (0 : ℚ) < 2 ^ lastPlace num den := by positivity
  have place : lastPlace num den = log2Ratio num den - 52 := max_eq_left normal
  rw [le_div_iff₀ unit, two_pow_mul (by omega : _ = log2Ratio num den)]
  exact (log2Ratio_spec numPos denPos).1

/-- All bits of a magnitude are in use, unless it is one of the least. -/
theorem mantissa_bounds_of_ofRatio {num den m : Nat} {e : Int} (numPos : 0 < num) (denPos : 0 < den)
    (equal : ofRatio num den = .finite m e) (one : (1 : ℚ) ≤ m * 2 ^ e) :
    2 ^ 52 ≤ m ∧ m < 2 ^ 53 := by
  obtain ⟨r, near, value⟩ := ofRatio_eq_ite numPos denPos
  have most : r ≤ 2 ^ 53 := by
    have most : (r : ℚ) < (2 ^ 53 + 1 : Nat) := by
      push_cast
      linarith [near.1, div_lastPlace_lt numPos denPos]
    exact Nat.le_of_lt_succ (by exact_mod_cast most)
  rw [value] at equal
  split_ifs at equal with carry
  · obtain ⟨rfl, -⟩ := finite.inj equal
    decide
  · obtain ⟨rfl, rfl⟩ := finite.inj equal
    have less : r < 2 ^ 53 := Nat.lt_of_le_of_ne most carry
    refine ⟨?_, less⟩
    rcases le_total minExponent (log2Ratio num den - 52) with normal | least
    · have last : ((2 ^ 52 : Nat) : ℚ) < (r + 1 : Nat) := by
        push_cast
        linarith [near.2.1, le_div_lastPlace numPos denPos normal]
      exact Nat.le_of_lt_succ (by exact_mod_cast last)
    · -- The least magnitudes are far from one.
      have place : lastPlace num den = minExponent := max_eq_right least
      have less' : (r : ℚ) < 2 ^ 53 := by exact_mod_cast less
      have tiny : (r : ℚ) * 2 ^ minExponent < 2 ^ 53 * 2 ^ minExponent := by gcongr
      rw [two_pow_mul (by decide : minExponent + (53 : Nat) = -1021)] at tiny
      rw [place] at one
      have small : (2 : ℚ) ^ (-1021 : Int) ≤ 2 ^ (0 : Int) :=
        zpow_le_zpow_right₀ (by norm_num) (by norm_num)
      rw [zpow_zero] at small
      linarith

/-- Two powers of two that follow each other enclose a number in one way only. -/
theorem exponent_unique {v : ℚ} {k l : Int} (low : (2 : ℚ) ^ k ≤ v) (high : v < 2 ^ (k + 1))
    (low' : (2 : ℚ) ^ l ≤ v) (high' : v < 2 ^ (l + 1)) : k = l := by
  have below := (zpow_lt_zpow_iff_right₀ (by norm_num : (1 : ℚ) < 2)).mp (low.trans_lt high')
  have above := (zpow_lt_zpow_iff_right₀ (by norm_num : (1 : ℚ) < 2)).mp (low'.trans_lt high)
  omega

theorem nearest_of_rounds {m : Nat} {e : Int} {v : ℚ} (rounds : Rounds m e v)
    (above : (2 : ℚ) ^ 52 ≤ v / 2 ^ e) : Nearest (v / 2 ^ e) m := by
  obtain ⟨low, high, even⟩ := rounds
  by_cases power : m = 2 ^ (precision - 1) ∧ minExponent < e
  · -- A power of two is even, and nothing below it is meant.
    have isPower : m = 2 ^ 52 := power.1
    subst isPower
    push_cast at high ⊢
    exact ⟨by push_cast; linarith, by push_cast; exact high, fun _ => by norm_num⟩
  · rw [reach, if_neg power] at low even
    push_cast at low even
    refine ⟨by linarith, high, fun tie => even ?_⟩
    rcases tie with below | above
    · exact .inl (by linarith)
    · exact .inr above

theorem rounds_of_nearest {m : Nat} {e : Int} {v : ℚ} (nearest : Nearest (v / 2 ^ e) m)
    (above : (2 : ℚ) ^ 52 ≤ v / 2 ^ e) : Rounds m e v := by
  obtain ⟨low, high, even⟩ := nearest
  by_cases power : m = 2 ^ (precision - 1) ∧ minExponent < e
  · have isPower : m = 2 ^ 52 := power.1
    rw [Rounds, reach, if_pos power]
    subst isPower
    push_cast at high ⊢
    exact ⟨by linarith, high, fun _ => by norm_num⟩
  · rw [Rounds, reach, if_neg power]
    push_cast
    refine ⟨by linarith, high, fun tie => even ?_⟩
    rcases tie with below | above
    · exact .inl (by linarith)
    · exact .inr above

/-- Only the numbers of a power of two reach below a power of two. -/
theorem Rounds.eq_power_of_lt {m : Nat} {e : Int} {v : ℚ} (low : 2 ^ 52 ≤ m)
    (rounds : Rounds m e v) (below : v / 2 ^ e < 2 ^ 52) : m = 2 ^ 52 := by
  by_contra other
  have above : (2 ^ 52 : ℚ) + 1 ≤ m := by exact_mod_cast Nat.lt_of_le_of_ne low (Ne.symm other)
  have within := (reach_bounds m e).2
  linarith [rounds.1]

section Quotients

variable {num den m : Nat} {e : Int} (numPos : 0 < num) (denPos : 0 < den)

include numPos denPos

theorem rounds_of_ofRatio (least : minExponent + 1 < e) (equal : ofRatio num den = .finite m e) :
    Rounds m e (num / den) := by
  have unit : (0 : ℚ) < 2 ^ e := by positivity
  obtain ⟨r, near, value⟩ := ofRatio_eq_ite numPos denPos
  have place : minExponent < lastPlace num den → lastPlace num den = log2Ratio num den - 52 := by
    rw [lastPlace]
    omega
  rw [value] at equal
  split_ifs at equal with carry
  · -- The quotient lies less than half a place below a power of two.
    obtain ⟨rfl, rfl⟩ := finite.inj equal
    subst carry
    have finer : lastPlace num den = lastPlace num den + 1 - 1 := by ring
    have below : (num : ℚ) / den / 2 ^ (lastPlace num den + 1) < 2 ^ 52 := by
      rw [div_lt_iff₀ unit, two_pow_mul (by omega : _ = log2Ratio num den + 1)]
      exact (log2Ratio_spec numPos denPos).2
    rw [finer, div_two_zpow_pred] at near
    have near' := near.1
    rw [Rounds, reach, if_pos ⟨rfl, by omega⟩]
    push_cast at near' ⊢
    exact ⟨by linarith, by linarith, fun _ => by norm_num⟩
  · obtain ⟨rfl, rfl⟩ := finite.inj equal
    exact rounds_of_nearest near (le_div_lastPlace numPos denPos (by omega))

/-- From the power of two on that has the same exponent as the magnitude. -/
theorem ofRatio_of_rounds_above (high : m < 2 ^ 53) (least : minExponent + 1 < e)
    (greatest : e ≤ maxExponent) (rounds : Rounds m e (num / den))
    (above : (2 : ℚ) ^ 52 ≤ num / den / 2 ^ e) : ofRatio num den = .finite m e := by
  obtain ⟨logLow, logHigh⟩ := log2Ratio_spec numPos denPos
  have unit : (0 : ℚ) < 2 ^ e := by positivity
  have log : log2Ratio num den = e + 52 := by
    have below : (num : ℚ) / den / 2 ^ e < 2 ^ 53 := by
      have last : (m : ℚ) + 1 ≤ 2 ^ 53 := by exact_mod_cast high
      linarith [rounds.2.1]
    refine exponent_unique logLow logHigh ?_ ?_
    · rwa [le_div_iff₀ unit, two_pow_mul (by omega : _ = e + 52)] at above
    · rwa [div_lt_iff₀ unit, two_pow_mul (by omega : _ = e + 52 + 1)] at below
  have place : lastPlace num den = e := by
    rw [lastPlace]
    omega
  obtain ⟨r, near, value⟩ := ofRatio_eq_ite numPos denPos
  rw [place] at near value
  rw [value, near.unique (nearest_of_rounds rounds above), if_neg (by omega), if_neg (by omega)]

/-- Below this power of two, so that it is the magnitude. The quotient is rounded in places half as
    great, and up. -/
theorem ofRatio_of_rounds_below (least : minExponent + 1 < e) (greatest : e ≤ maxExponent)
    (rounds : Rounds (2 ^ 52) e (num / den)) (below : (num : ℚ) / den / 2 ^ e < 2 ^ 52) :
    ofRatio num den = .finite (2 ^ 52) e := by
  obtain ⟨logLow, logHigh⟩ := log2Ratio_spec numPos denPos
  have unit : (0 : ℚ) < 2 ^ e := by positivity
  have reached := rounds.1
  rw [reach, if_pos ⟨rfl, by omega⟩] at reached
  push_cast at reached
  have log : log2Ratio num den = e + 51 := by
    refine exponent_unique logLow logHigh ?_ ?_
    · rw [← two_pow_mul (by omega : e + (51 : Nat) = e + 51), ← le_div_iff₀ unit]
      linarith
    · rwa [div_lt_iff₀ unit, two_pow_mul (by omega : _ = e + 51 + 1)] at below
  have place : lastPlace num den = e - 1 := by
    rw [lastPlace]
    omega
  have next : e - 1 + 1 = e := by ring
  have carry : Nearest (num / den / 2 ^ (e - 1)) (2 ^ 53) := by
    rw [div_two_zpow_pred]
    refine ⟨?_, ?_, fun _ => by norm_num⟩
    · push_cast
      linarith
    · push_cast
      linarith
  obtain ⟨r, near, value⟩ := ofRatio_eq_ite numPos denPos
  rw [place] at near value
  rw [value, near.unique carry, if_pos rfl, next, if_neg (by omega)]

/-- A quotient is rounded to a magnitude exactly if it is one of the numbers around it. -/
theorem ofRatio_eq_finite_iff (low : 2 ^ 52 ≤ m) (high : m < 2 ^ 53) (least : minExponent + 1 < e)
    (greatest : e ≤ maxExponent) :
    ofRatio num den = .finite m e ↔ Rounds m e (num / den) := by
  constructor
  · exact rounds_of_ofRatio numPos denPos least
  · intro rounds
    rcases le_or_gt ((2 : ℚ) ^ 52) (num / den / 2 ^ e) with above | below
    · exact ofRatio_of_rounds_above numPos denPos high least greatest rounds above
    · obtain rfl := rounds.eq_power_of_lt low below
      exact ofRatio_of_rounds_below numPos denPos least greatest rounds below

end Quotients

end Potfile.Binary64
