import Potfile.Proofs.Decimal.Grid

/-! # The shortest decimal of a natural number

A natural number that is a magnitude is written with the fewest digits that read as this magnitude,
and of the decimals with so few digits with the nearest one.

* `Binary64.IsShortest`: what is required of a decimal.
* `Holds.exists_coarsest`, `Holds.isShortest_of_coarsest`: the search finds such a decimal, for natural
  numbers of up to twenty-one digits.
* `Holds.eq_of_isShortest`: there is only one, but for zeros at the end of its digits.
-/

namespace Potfile.Binary64

/-- Of the decimals that read as `m * 2 ^ e`, the decimal has the fewest digits, and it is as near as
    any that has so few. -/
structure IsShortest (m : Nat) (e : Int) (d : Decimal) : Prop where
  reads : Reads m e d
  fewest : ∀ other : Decimal, Reads m e other → d.length ≤ other.length
  nearest : ∀ other : Decimal, Reads m e other → other.length = d.length →
    |d.value - m * 2 ^ e| ≤ |other.value - m * 2 ^ e|

namespace Holds

variable {m n : Nat} {e : Int} (holds : Holds m e n)

include holds

/-! ## Decimals with few digits -/

/-- A decimal that reads as the number has more digits than the number, or it stands on the grid of
    the numbers with as many digits in front; or it is less than the number, which is a power of
    ten then. -/
theorem cases_of_reads {d : Decimal} (reads : Reads m e d) :
    (Nat.toDigits 10 n).length < d.length ∨
      (d.length ≤ (Nat.toDigits 10 n).length ∧
        (((Nat.toDigits 10 n).length - d.length : Nat) : Int) ≤ d.exponent) ∨
      (d.value < n ∧ n = 10 ^ ((Nat.toDigits 10 n).length - 1)) := by
  obtain ⟨digitsPos, rounds⟩ := holds.rounds_of_reads reads
  have some := Nat.length_toDigits_pos (b := 10) (n := n)
  rcases le_or_gt ((Nat.toDigits 10 n).length : Int) (d.length + d.exponent) with great | small
  · rcases Nat.lt_or_ge (Nat.toDigits 10 n).length d.length with more | few
    · exact .inl more
    · exact .inr (.inl ⟨few, by omega⟩)
  · -- The first power of ten of the same length stands between the decimal and the number.
    have below : d.value < (10 ^ ((Nat.toDigits 10 n).length - 1) : Nat) := by
      have digits : (d.digits : ℚ) < 10 ^ d.length := by
        exact_mod_cast Decimal.lt_ten_pow_length d.digits
      calc d.value = d.digits * 10 ^ d.exponent := rfl
        _ < 10 ^ d.length * 10 ^ d.exponent := by gcongr
        _ = 10 ^ (d.length + d.exponent) := by
            rw [← zpow_natCast, ← zpow_add₀ (by norm_num)]
        _ ≤ 10 ^ (((Nat.toDigits 10 n).length - 1 : Nat) : Int) :=
            zpow_le_zpow_right₀ (by norm_num) (by omega)
        _ = (10 ^ ((Nat.toDigits 10 n).length - 1) : Nat) := by
            rw [zpow_natCast]
            norm_cast
    have above : ((10 ^ ((Nat.toDigits 10 n).length - 1) : Nat) : ℚ) ≤ n := by
      exact_mod_cast Decimal.ten_pow_length_le holds.pos
    have short : (Nat.toDigits 10 n).length ≤ 21 :=
      (Nat.length_toDigits_le_iff (by decide) (by decide)).mpr holds.small
    have equal := holds.eq_ten_pow_of_rounds (by omega)
      (rounds.between holds.rounds_self below.le above)
    refine .inr (.inr ⟨below.trans_le above, equal⟩)

end Holds

/-- Of the grids that hold a decimal of a magnitude the coarsest one, where decimals have the digits
    in front of the others, and the point on it that is nearest to the magnitude. -/
structure Coarsest (m : Nat) (e : Int) (n count point : Nat) : Prop where
  pos : 1 ≤ count
  le : count ≤ (Nat.toDigits 10 n).length
  found : (interval m e).onGrid? ((Nat.toDigits 10 n).length - count : Nat) = some point
  least : ∀ other, 1 ≤ other → other < count →
    (interval m e).onGrid? ((Nat.toDigits 10 n).length - other : Nat) = none

namespace Holds

variable {m n count point : Nat} {e : Int} (holds : Holds m e n)

include holds

theorem exists_coarsest : ∃ count point, Coarsest m e n count point ∧
    shortest m e = ⟨point, ((Nat.toDigits 10 n).length - count : Nat)⟩ := by
  have mNe : m ≠ 0 := by
    have := holds.low
    omega
  have some := Nat.length_toDigits_pos (b := 10) (n := n)
  have enough : (interval m e).onGrid?
      ((Nat.toDigits 10 n).length - min (Nat.toDigits 10 n).length 17 : Nat) ≠ none := by
    rcases le_total (Nat.toDigits 10 n).length 17 with short | long
    · -- The number itself stands on the grid of the natural numbers.
      rw [min_eq_left short, Nat.sub_self]
      refine holds.onGrid?_of_rounds (c := n) ?_
      rw [pow_zero, mul_one]
      exact holds.rounds_self
    · rw [min_eq_right long]
      exact holds.onGrid?_of_seventeen (by omega)
  obtain ⟨low, high⟩ := holds.start_bounds
  obtain ⟨count, point, first, last, result, found, least⟩ :=
    exists_of_search (interval m e) (by omega : 1 ≤ min (Nat.toDigits 10 n).length 17)
      (min_le_left _ _) (by omega : min (Nat.toDigits 10 n).length 17 < 1 + 18) enough
  refine ⟨count, point, ⟨first, last.trans (min_le_left _ _), found, least⟩, ?_⟩
  rw [shortest, if_neg mNe]
  simp only [holds.log2_value, holds.digitsBefore_eq low high]
  exact result

/-- A number that is a power of ten stands on the coarsest grid of all. -/
theorem count_eq_one (coarsest : Coarsest m e n count point)
    (power : n = 10 ^ ((Nat.toDigits 10 n).length - 1)) : count = 1 := by
  by_contra other
  have missed := coarsest.least 1 le_rfl (by have := coarsest.pos; omega)
  refine holds.onGrid?_of_rounds (c := 1) ?_ missed
  rw [one_mul, ← power]
  exact holds.rounds_self

theorem count_le_length (coarsest : Coarsest m e n count point) {d : Decimal}
    (reads : Reads m e d) : count ≤ d.length := by
  have some : 1 ≤ d.length := Nat.length_toDigits_pos
  have counted := coarsest.le
  rcases holds.cases_of_reads reads with more | ⟨few, on⟩ | ⟨-, power⟩
  · omega
  · by_contra less
    obtain ⟨c, value⟩ := Decimal.exists_value_eq on
    have rounds := (holds.rounds_of_reads reads).2
    rw [value] at rounds
    exact holds.onGrid?_of_rounds rounds (coarsest.least d.length some (by omega))
  · rw [holds.count_eq_one coarsest power]
    exact some

/-- What else has as few digits stands on the same grid, or the number does. -/
theorem cases_of_length_eq (coarsest : Coarsest m e n count point) {d : Decimal}
    (reads : Reads m e d) (length : d.length = count) :
    (((Nat.toDigits 10 n).length - count : Nat) : Int) ≤ d.exponent ∨
      (d.value < n ∧ point * 10 ^ ((Nat.toDigits 10 n).length - count) = n) := by
  have counted := coarsest.le
  rcases holds.cases_of_reads reads with more | ⟨-, on⟩ | ⟨below, power⟩
  · omega
  · rw [length] at on
    exact .inl on
  · refine .inr ⟨below, ?_⟩
    have one := holds.count_eq_one coarsest power
    subst one
    -- Nothing is nearer to the number than the number itself.
    have self : ((1 * 10 ^ ((Nat.toDigits 10 n).length - 1) : Nat) : ℚ) = n := by
      rw [one_mul, ← power]
    have nearest := (holds.nearest_of_onGrid? coarsest.found).2 1
      (by rw [self]; exact holds.rounds_self)
    rw [self, sub_self, abs_zero, abs_nonpos_iff, sub_eq_zero] at nearest
    exact_mod_cast nearest

theorem point_pos (coarsest : Coarsest m e n count point) : 0 < point := by
  have rounds := (holds.nearest_of_onGrid? coarsest.found).1
  by_contra zero
  rw [Nat.eq_zero_of_not_pos zero, zero_mul] at rounds
  -- Zero is farther from the magnitude than its last place.
  have most := (reach_bounds m e).2
  have low : (2 ^ 52 : ℚ) ≤ m := by exact_mod_cast holds.low
  have reached := rounds.1
  rw [Nat.cast_zero, zero_div] at reached
  linarith

theorem length_le_21 : (Nat.toDigits 10 n).length ≤ 21 :=
  (Nat.length_toDigits_le_iff (by decide) (by decide)).mpr holds.small

/-- The nearest point is no power of ten above the number, for that is a magnitude of its own. -/
theorem point_lt (coarsest : Coarsest m e n count point) : point < 10 ^ count := by
  have rounds := (holds.nearest_of_onGrid? coarsest.found).1
  have split : 10 ^ (Nat.toDigits 10 n).length =
      10 ^ count * 10 ^ ((Nat.toDigits 10 n).length - count) := by
    rw [← Nat.pow_add, Nat.add_sub_cancel' coarsest.le]
  have less := Decimal.lt_ten_pow_length n
  by_contra above
  have above' : 10 ^ (Nat.toDigits 10 n).length ≤
      point * 10 ^ ((Nat.toDigits 10 n).length - count) := by
    rw [split]
    exact Nat.mul_le_mul_right _ (not_lt.mp above)
  have between : Rounds m e (10 ^ (Nat.toDigits 10 n).length : Nat) := by
    refine holds.rounds_self.between rounds ?_ ?_
    · exact_mod_cast less.le
    · exact_mod_cast above'
  have short := holds.length_le_21
  have equal := holds.eq_ten_pow_of_rounds (by omega) between
  omega

theorem coarsest_lt (coarsest : Coarsest m e n count point) :
    point * 10 ^ ((Nat.toDigits 10 n).length - count) < 10 ^ (Nat.toDigits 10 n).length := by
  calc point * 10 ^ ((Nat.toDigits 10 n).length - count)
      < 10 ^ count * 10 ^ ((Nat.toDigits 10 n).length - count) :=
        Nat.mul_lt_mul_of_pos_right (holds.point_lt coarsest) (by positivity)
    _ = 10 ^ (Nat.toDigits 10 n).length := by
        rw [← Nat.pow_add, Nat.add_sub_cancel' coarsest.le]

theorem reads_of_coarsest (coarsest : Coarsest m e n count point) :
    Reads m e ⟨point, ((Nat.toDigits 10 n).length - count : Nat)⟩ := by
  refine holds.reads_of_rounds (holds.point_pos coarsest) ?_
    (holds.nearest_of_onGrid? coarsest.found).1
  have short := holds.length_le_21
  exact (holds.coarsest_lt coarsest).trans_le (Nat.pow_le_pow_right (by decide) (by omega))

theorem length_of_coarsest (coarsest : Coarsest m e n count point) :
    (⟨point, ((Nat.toDigits 10 n).length - count : Nat)⟩ : Decimal).length = count := by
  refine le_antisymm ?_ (holds.count_le_length coarsest (holds.reads_of_coarsest coarsest))
  exact (Nat.length_toDigits_le_iff (by decide) coarsest.pos).mpr (holds.point_lt coarsest)

/-- The search finds a decimal of the least length, and no other of that length is nearer. -/
theorem isShortest_of_coarsest (coarsest : Coarsest m e n count point) :
    IsShortest m e ⟨point, ((Nat.toDigits 10 n).length - count : Nat)⟩ := by
  have length := holds.length_of_coarsest coarsest
  refine ⟨holds.reads_of_coarsest coarsest, ?_, ?_⟩
  · intro other reads
    rw [length]
    exact holds.count_le_length coarsest reads
  · intro other reads equal
    rw [length] at equal
    rw [Decimal.value_natCast, holds.exact]
    rcases holds.cases_of_length_eq coarsest reads equal with on | ⟨-, self⟩
    · obtain ⟨c, value⟩ := Decimal.exists_value_eq on
      have rounds := (holds.rounds_of_reads reads).2
      rw [value] at rounds ⊢
      exact (holds.nearest_of_onGrid? coarsest.found).2 c rounds
    · rw [self, sub_self, abs_zero]
      exact abs_nonneg _

/-- The number is not half-way between two points that read as it: such points are no farther apart
    than the last place of the mantissa, so the number has more factors two than what is half-way
    between them. -/
theorem not_tie {q k : Nat} (second : Rounds m e ((q + 1) * 10 ^ k : Nat)) :
    2 * n ≠ (2 * q + 1) * 10 ^ k := by
  intro tie
  have unit : (0 : ℚ) < 2 ^ e := by positivity
  have exact := holds.exact
  have narrow : (10 : ℚ) ^ k ≤ 2 ^ e := by
    have tie' : (2 : ℚ) * n = (2 * q + 1) * 10 ^ k := by exact_mod_cast tie
    have upper := second.2.1
    rw [div_le_iff₀ unit] at upper
    push_cast at upper
    linarith
  have wide : (2 : ℚ) ^ (k : Int) ≤ 2 ^ e := by
    rw [zpow_natCast]
    exact le_trans (by gcongr; norm_num) narrow
  have exponent := (zpow_le_zpow_iff_right₀ (by norm_num : (1 : ℚ) < 2)).mp wide
  obtain ⟨j, rfl⟩ := Int.le.dest exponent
  -- In twice the number there is a factor two more than in the odd multiple of the power of ten.
  have factors : n = m * 2 ^ j * 2 ^ k := by
    have factors : (n : ℚ) = (m * 2 ^ j * 2 ^ k : Nat) := by
      rw [← exact, ← Nat.cast_add, zpow_natCast, pow_add]
      push_cast
      ring
    exact_mod_cast factors
  have parity : 2 * (m * 2 ^ j) = (2 * q + 1) * 5 ^ k := by
    have positive : 0 < 2 ^ k := by positivity
    apply Nat.eq_of_mul_eq_mul_right positive
    calc 2 * (m * 2 ^ j) * 2 ^ k = 2 * n := by rw [factors]; ring
      _ = (2 * q + 1) * 10 ^ k := tie
      _ = (2 * q + 1) * 5 ^ k * 2 ^ k := by
          rw [mul_assoc, ← Nat.mul_pow]
  have odd : Odd ((2 * q + 1) * 5 ^ k) :=
    Odd.mul ⟨q, rfl⟩ (Odd.pow (by decide))
  rw [← parity] at odd
  exact Nat.not_odd_iff_even.mpr (even_two_mul _) odd

/-- Of two points on different sides of the number, one is nearer or a third one is. -/
theorem abs_ne_of_lt {q q' k : Nat} (less : q < q') (rounds : Rounds m e (q * 10 ^ k : Nat))
    (rounds' : Rounds m e (q' * 10 ^ k : Nat))
    (nearest : ∀ c : Nat, Rounds m e (c * 10 ^ k : Nat) →
      |((q * 10 ^ k : Nat) : ℚ) - n| ≤ |((c * 10 ^ k : Nat) : ℚ) - n|) :
    |((q * 10 ^ k : Nat) : ℚ) - n| ≠ |((q' * 10 ^ k : Nat) : ℚ) - n| := by
  intro equal
  have firstNext : ((q * 10 ^ k : Nat) : ℚ) < ((q + 1) * 10 ^ k : Nat) := by
    exact_mod_cast Nat.mul_lt_mul_of_pos_right (Nat.lt_succ_self q) (by positivity)
  have nextLast : (((q + 1) * 10 ^ k : Nat) : ℚ) ≤ (q' * 10 ^ k : Nat) := by
    exact_mod_cast Nat.mul_le_mul_right _ less
  have next := rounds.between rounds' firstNext.le nextLast
  have nearer := nearest (q + 1) next
  rcases abs_eq_abs.mp equal with same | mirrored
  · linarith
  · -- The point that follows the first one is the second one, and the number is half-way.
    have half : (2 : ℚ) * n = (q * 10 ^ k : Nat) + (q' * 10 ^ k : Nat) := by linarith
    rw [abs_of_nonpos (by linarith), le_abs] at nearer
    rcases nearer with above | below
    · have last : (((q + 1) * 10 ^ k : Nat) : ℚ) = (q' * 10 ^ k : Nat) := by linarith
      rw [← last] at half
      refine holds.not_tie next ?_
      have tie : 2 * n = q * 10 ^ k + (q + 1) * 10 ^ k := by exact_mod_cast half
      rw [tie]
      ring
    · linarith

/-- There is only one shortest decimal, but for zeros at the end of its digits. -/
theorem eq_of_isShortest (coarsest : Coarsest m e n count point) {d : Decimal}
    (shortest : IsShortest m e d) :
    ((Nat.toDigits 10 n).length - count : Nat) ≤ d.exponent ∧
      d.value = (point * 10 ^ ((Nat.toDigits 10 n).length - count) : Nat) := by
  have found := holds.isShortest_of_coarsest coarsest
  have length := holds.length_of_coarsest coarsest
  have equal : d.length = count := by
    have := shortest.fewest _ found.reads
    have := found.fewest _ shortest.reads
    omega
  have near := le_antisymm (shortest.nearest _ found.reads (by rw [length, equal]))
    (found.nearest _ shortest.reads (by rw [length, equal]))
  rw [Decimal.value_natCast, holds.exact] at near
  rcases holds.cases_of_length_eq coarsest shortest.reads equal with on | ⟨below, self⟩
  · refine ⟨on, ?_⟩
    obtain ⟨c, value⟩ := Decimal.exists_value_eq on
    have rounds := (holds.rounds_of_reads shortest.reads).2
    obtain ⟨rounds', nearest⟩ := holds.nearest_of_onGrid? coarsest.found
    rw [value] at near rounds ⊢
    -- Neither can stand in front of the other, since both are equally near.
    rcases Nat.lt_trichotomy point c with less | same | more
    · exact absurd near.symm (holds.abs_ne_of_lt less rounds' rounds nearest)
    · rw [same]
    · refine absurd near (holds.abs_ne_of_lt more rounds rounds' ?_)
      intro other rounds''
      rw [near]
      exact nearest other rounds''
  · rw [self, sub_self, abs_zero, abs_eq_zero, sub_eq_zero] at near
    exact absurd near below.ne

end Holds

/-! ## Written out -/

theorem toDigits_mul_ten_pow {n : Nat} (pos : 0 < n) (k : Nat) :
    Nat.toDigits 10 (n * 10 ^ k) = Nat.toDigits 10 n ++ List.replicate k '0' := by
  induction k with
  | zero => simp
  | succ k inductionHypothesis =>
    have zero : Nat.toDigits 10 0 = ['0'] := by decide
    have split := Nat.toDigits_append_toDigits (by decide : 1 < 10)
      (by positivity : 0 < n * 10 ^ k) (by decide : 0 < 10)
    have product : 10 * (n * 10 ^ k) + 0 = n * 10 ^ (k + 1) := by ring
    rw [inductionHypothesis, zero, product] at split
    rw [← split, List.append_assoc, List.replicate_succ']

/-- The zeros at the end of the digits, put back behind the other digits. -/
theorem reverse_drop_append_replicate (digits : List Char) :
    (digits.reverse.drop (digits.reverse.takeWhile (· == '0')).length).reverse ++
      List.replicate (digits.reverse.takeWhile (· == '0')).length '0' = digits := by
  have zeros : digits.reverse.takeWhile (· == '0') =
      List.replicate (digits.reverse.takeWhile (· == '0')).length '0' := by
    apply List.eq_replicate_of_mem
    intro c member
    exact eq_of_beq (List.all_eq_true.mp List.all_takeWhile c member)
  have taken := List.prefix_iff_eq_take.mp (List.takeWhile_prefix (l := digits.reverse) (· == '0'))
  have whole := List.take_append_drop (digits.reverse.takeWhile (· == '0')).length digits.reverse
  rw [← taken, zeros, List.length_replicate] at whole
  rw [← List.reverse_inj, List.reverse_append, List.reverse_reverse, List.reverse_replicate]
  exact whole

theorem Decimal.normalize_natCast {digits : Nat} (pos : 0 < digits) (k : Nat) :
    0 ≤ (Decimal.normalize ⟨digits, k⟩).2 ∧
      (Decimal.normalize ⟨digits, k⟩).1 ++
          List.replicate (Decimal.normalize ⟨digits, k⟩).2.toNat '0' =
        Nat.toDigits 10 (digits * 10 ^ k) := by
  rw [normalize]
  simp only [if_neg pos.ne']
  refine ⟨by omega, ?_⟩
  rw [← Nat.cast_add, Int.toNat_natCast, Nat.add_comm, ← List.replicate_append_replicate,
    ← List.append_assoc, reverse_drop_append_replicate, toDigits_mul_ten_pow pos]

theorem positional_of_shortest {m : Nat} {e : Int} {digits k : Nat} (pos : 0 < digits)
    (found : shortest m e = ⟨digits, k⟩) :
    positional (.finite m e) = Nat.toDigits 10 (digits * 10 ^ k) := by
  obtain ⟨nonneg, written⟩ := Decimal.normalize_natCast pos k
  rw [positional, found]
  simp only [if_pos nonneg]
  exact written

/-- The digits of a natural number are those of its only shortest decimal. -/
theorem Holds.positional_eq {m n : Nat} {e : Int} (holds : Holds m e n) :
    ∃ total : Nat, total < 10 ^ 21 ∧ positional (.finite m e) = Nat.toDigits 10 total ∧
      (∃ d, IsShortest m e d) ∧ ∀ d, IsShortest m e d → 0 ≤ d.exponent ∧ d.value = total := by
  obtain ⟨count, point, coarsest, result⟩ := holds.exists_coarsest
  refine ⟨point * 10 ^ ((Nat.toDigits 10 n).length - count), ?_,
    positional_of_shortest (holds.point_pos coarsest) result,
    ⟨_, holds.isShortest_of_coarsest coarsest⟩, ?_⟩
  · exact (holds.coarsest_lt coarsest).trans_le
      (Nat.pow_le_pow_right (by decide) holds.length_le_21)
  · intro d shortest
    obtain ⟨left, value⟩ := holds.eq_of_isShortest coarsest shortest
    exact ⟨(Int.natCast_nonneg _).trans left, value⟩

end Potfile.Binary64
