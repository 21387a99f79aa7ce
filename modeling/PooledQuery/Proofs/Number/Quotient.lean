/-
Ceilings of rounded quotients.

A quotient of two integers is rounded to binary64 before its ceiling is taken, and fails if
that is infinite.  Below 2^53 the spacing divides the integers, so that rounding can bring a
quotient down to the integer below it, but never up across an integer; and it does so if the
remainder does not outweigh half the spacing.  From 2^53 on all binary64 numbers are
integers, so that the ceiling is exact if it is one of these.
-/
import Mathlib.Algebra.Order.Floor.Div
import Mathlib.Data.Nat.Prime.Basic
import Mathlib.Data.Rat.Floor
import PooledQuery.Proofs.Number.Rounding

namespace PooledQuery

namespace Binary64

variable {total size : Nat}

/-! ### Below 2^53 -/

theorem spacing_dvd (few : total < 2 ^ 53 * size) (unit : Nat) :
    spacing (total * 2 ^ unit) size ∣ 2 ^ unit := by
  refine Nat.pow_dvd_pow 2 (Nat.sub_le_of_le_add ?_)
  have positive : 0 < size := Nat.pos_of_mul_pos_left (Nat.zero_lt_of_lt few)
  have bits : total * 2 ^ unit / size < 2 ^ (53 + unit) := by
    rw [Nat.div_lt_iff_lt_mul positive, Nat.pow_add, Nat.mul_right_comm]
    exact Nat.mul_lt_mul_of_pos_right few (Nat.two_pow_pos unit)
  rcases Nat.eq_zero_or_pos (total * 2 ^ unit / size) with zero | some
  · rw [zero]
    exact Nat.zero_le _
  · have log := (Nat.log2_lt some.ne').mpr bits
    omega

/-- Where the spacing divides the integers, a rounded quotient is compared with one of them by
comparing twice the quotient, moved by the spacing. -/
theorem rounded_le_bound_iff (few : total < 2 ^ 53 * size) (unit bound : Nat) :
    rounded (total * 2 ^ unit) size ≤ bound * 2 ^ unit ↔
      2 * (total * 2 ^ unit) < 2 * (bound * size * 2 ^ unit) + size * spacing (total * 2 ^ unit) size ∨
        2 * (total * 2 ^ unit) =
            2 * (bound * size * 2 ^ unit) + size * spacing (total * 2 ^ unit) size ∧
          bound * (2 ^ unit / spacing (total * 2 ^ unit) size) % 2 = 0 := by
  have positive : 0 < size := Nat.pos_of_mul_pos_left (Nat.zero_lt_of_lt few)
  have whole := Nat.div_mul_cancel (spacing_dvd few unit)
  have within := rounded_le_iff (total * 2 ^ unit) positive
    (bound * (2 ^ unit / spacing (total * 2 ^ unit) size))
  have moved : bound * (2 ^ unit / spacing (total * 2 ^ unit) size) *
      (size * spacing (total * 2 ^ unit) size) = bound * size * 2 ^ unit := by
    rw [Nat.mul_mul_mul_comm, whole]
  rwa [Nat.mul_assoc, whole, moved] at within

private theorem rounded_le_of_le (few : total < 2 ^ 53 * size) (unit : Nat) {bound : Nat}
    (below : total ≤ bound * size) : rounded (total * 2 ^ unit) size ≤ bound * 2 ^ unit := by
  have positive : 0 < size := Nat.pos_of_mul_pos_left (Nat.zero_lt_of_lt few)
  have room := Nat.mul_pos positive (spacing_pos (total * 2 ^ unit) size)
  have scaled := Nat.mul_le_mul_right (2 ^ unit) below
  exact (rounded_le_bound_iff few unit bound).mpr (.inl (by omega))

private theorem lt_rounded_of_le (few : total < 2 ^ 53 * size) (unit : Nat) {bound : Nat}
    (above : (bound + 1) * size ≤ total) : bound * 2 ^ unit < rounded (total * 2 ^ unit) size := by
  have positive : 0 < size := Nat.pos_of_mul_pos_left (Nat.zero_lt_of_lt few)
  have scaled := Nat.mul_le_mul_right (2 ^ unit) above
  rw [Nat.add_one_mul, Nat.add_mul] at scaled
  have fine := Nat.mul_le_mul_left size (Nat.le_of_dvd (Nat.two_pow_pos unit) (spacing_dvd few unit))
  have room := Nat.mul_pos positive (Nat.two_pow_pos unit)
  rw [← Nat.not_le, rounded_le_bound_iff few unit bound]
  omega

/-- The remainder of a quotient outweighs half the spacing at it, or is as much as that behind
an odd significand. -/
def RemainderCounts (total size unit : Nat) : Prop :=
  size * spacing (total * Nat.pow 2 unit) size < 2 * (total % size * Nat.pow 2 unit) ∨
    size * spacing (total * Nat.pow 2 unit) size = 2 * (total % size * Nat.pow 2 unit) ∧
      total / size * (Nat.pow 2 unit / spacing (total * Nat.pow 2 unit) size) % 2 = 1

instance (total size unit : Nat) : Decidable (RemainderCounts total size unit) :=
  inferInstanceAs (Decidable (_ ∨ _))

private theorem lt_rounded_iff (few : total < 2 ^ 53 * size) (unit : Nat) :
    total / size * 2 ^ unit < rounded (total * 2 ^ unit) size ↔ RemainderCounts total size unit := by
  have parts : total / size * size * 2 ^ unit + total % size * 2 ^ unit = total * 2 ^ unit := by
    rw [← Nat.add_mul, Nat.div_add_mod']
  unfold RemainderCounts
  rw [← Nat.not_le, rounded_le_bound_iff few unit, Nat.pow_eq]
  omega

theorem ceilDiv_eq_of_not_dvd (positive : 0 < size) (parts : ¬ size ∣ total) :
    total ⌈/⌉ size = total / size + 1 := by
  have remainder := Nat.pos_of_ne_zero fun none => parts (Nat.dvd_of_mod_eq_zero none)
  have bounded := Nat.mod_lt total positive
  have whole := Nat.div_add_mod total size
  refine le_antisymm ((ceilDiv_le_iff_le_mul positive).mpr ?_) (Nat.lt_of_not_le fun fewer => ?_)
  · rw [Nat.mul_add_one]
    omega
  · have covered := (ceilDiv_le_iff_le_mul positive).mp fewer
    omega

theorem rounded_ceilDiv_le_iff (total size unit bound : Nat) :
    rounded (total * 2 ^ unit) size ⌈/⌉ 2 ^ unit ≤ bound ↔
      rounded (total * 2 ^ unit) size ≤ bound * 2 ^ unit := by
  rw [ceilDiv_le_iff_le_mul (Nat.two_pow_pos unit), Nat.mul_comm (2 ^ unit)]

theorem rounded_ceilDiv_le (few : total < 2 ^ 53 * size) (unit : Nat) :
    rounded (total * 2 ^ unit) size ⌈/⌉ 2 ^ unit ≤ total ⌈/⌉ size := by
  have positive : 0 < size := Nat.pos_of_mul_pos_left (Nat.zero_lt_of_lt few)
  have covered : total ≤ size * (total ⌈/⌉ size) := (ceilDiv_le_iff_le_mul positive).mp le_rfl
  rw [rounded_ceilDiv_le_iff]
  refine rounded_le_of_le few unit ?_
  rwa [Nat.mul_comm]

theorem le_rounded_ceilDiv (few : total < 2 ^ 53 * size) (unit : Nat) :
    total / size ≤ rounded (total * 2 ^ unit) size ⌈/⌉ 2 ^ unit := by
  by_contra below
  obtain ⟨bound, next⟩ : ∃ bound, total / size = bound + 1 := ⟨total / size - 1, by omega⟩
  have within := (rounded_ceilDiv_le_iff total size unit bound).mp (by omega)
  refine absurd within (Nat.not_le_of_lt (lt_rounded_of_le few unit ?_))
  rw [← next]
  exact Nat.div_mul_le_self total size

theorem rounded_ceilDiv_of_dvd (few : total < 2 ^ 53 * size) (whole : size ∣ total) (unit : Nat) :
    rounded (total * 2 ^ unit) size ⌈/⌉ 2 ^ unit = total ⌈/⌉ size := by
  have positive : 0 < size := Nat.pos_of_mul_pos_left (Nat.zero_lt_of_lt few)
  have upper := rounded_ceilDiv_le few unit
  have lower := le_rounded_ceilDiv few unit
  obtain ⟨count, rfl⟩ := whole
  have exactly : size * count ⌈/⌉ size = count := smul_ceilDiv positive count
  rw [exactly] at upper ⊢
  rw [Nat.mul_div_cancel_left count positive] at lower
  exact Nat.le_antisymm upper lower

/-- Below 2^53 the ceiling of the rounded quotient is the exact one, unless there is a
remainder that does not count. -/
theorem rounded_ceilDiv_iff_of_lt (few : total < 2 ^ 53 * size) (unit : Nat) :
    rounded (total * 2 ^ unit) size ⌈/⌉ 2 ^ unit = total ⌈/⌉ size ↔
      size ∣ total ∨ RemainderCounts total size unit := by
  have positive : 0 < size := Nat.pos_of_mul_pos_left (Nat.zero_lt_of_lt few)
  have upper := rounded_ceilDiv_le few unit
  by_cases whole : size ∣ total
  · exact iff_of_true (rounded_ceilDiv_of_dvd few whole unit) (.inl whole)
  · have next := ceilDiv_eq_of_not_dvd positive whole
    rw [or_iff_right whole, ← lt_rounded_iff few unit, ← Nat.not_le, ← rounded_ceilDiv_le_iff]
    omega

theorem rounded_ceilDiv_cases (few : total < 2 ^ 53 * size) (unit : Nat) :
    rounded (total * 2 ^ unit) size ⌈/⌉ 2 ^ unit = total ⌈/⌉ size ∨
      ¬ size ∣ total ∧ rounded (total * 2 ^ unit) size ⌈/⌉ 2 ^ unit + 1 = total ⌈/⌉ size := by
  have positive : 0 < size := Nat.pos_of_mul_pos_left (Nat.zero_lt_of_lt few)
  by_cases whole : size ∣ total
  · exact .inl (rounded_ceilDiv_of_dvd few whole unit)
  · have upper := rounded_ceilDiv_le few unit
    have lower := le_rounded_ceilDiv few unit
    have next := ceilDiv_eq_of_not_dvd positive whole
    omega

/-! ### From 2^53 on -/

theorem dvd_spacing (many : 2 ^ 53 * size ≤ total) (positive : 0 < size) (unit : Nat) :
    2 * 2 ^ unit ∣ spacing (total * 2 ^ unit) size := by
  have bits : 2 ^ (53 + unit) ≤ total * 2 ^ unit / size := by
    rw [Nat.le_div_iff_mul_le positive, Nat.pow_add, Nat.mul_right_comm]
    exact Nat.mul_le_mul_right _ many
  have nonzero : total * 2 ^ unit / size ≠ 0 := (Nat.lt_of_lt_of_le (Nat.two_pow_pos _) bits).ne'
  have log := (Nat.le_log2 nonzero).mpr bits
  unfold spacing
  rw [← Nat.pow_succ']
  exact Nat.pow_dvd_pow 2 (by omega)

private theorem mul_ceilDiv_lt (positive : 0 < size) (total : Nat) :
    size * (total ⌈/⌉ size) < total + size := by
  have within := Nat.mul_div_le (total + size - 1) size
  rw [Nat.ceilDiv_eq_add_pred_div]
  omega

private theorem rounded_of_near {numerator denominator significand : Nat}
    (positive : 0 < denominator)
    (below : 2 * numerator < 2 * (significand * (denominator * spacing numerator denominator)) +
      denominator * spacing numerator denominator)
    (above : 2 * (significand * (denominator * spacing numerator denominator)) <
      2 * numerator + denominator * spacing numerator denominator) :
    rounded numerator denominator = significand * spacing numerator denominator := by
  have proper := Nat.mul_pos positive (spacing_pos numerator denominator)
  have upper := (roundHalfEven_le_iff numerator proper significand).mpr (.inl below)
  unfold rounded
  rcases Nat.eq_zero_or_pos significand with rfl | some
  · rw [Nat.le_zero.mp upper]
  · obtain ⟨previous, rfl⟩ : ∃ previous, significand = previous + 1 := ⟨significand - 1, by omega⟩
    have lower := roundHalfEven_le_iff numerator proper previous
    rw [Nat.add_one_mul previous] at above
    congr 1
    omega

/-- From 2^53 on the ceiling of the rounded quotient is the exact one if that is a number. -/
theorem rounded_ceilDiv_iff_of_le (many : 2 ^ 53 * size ≤ total) (positive : 0 < size)
    (unit : Nat) :
    rounded (total * 2 ^ unit) size ⌈/⌉ 2 ^ unit = total ⌈/⌉ size ↔
      spacing (total * 2 ^ unit) size ∣ (total ⌈/⌉ size) * 2 ^ unit := by
  have coarse := dvd_spacing many positive unit
  obtain ⟨count, whole⟩ : 2 ^ unit ∣ rounded (total * 2 ^ unit) size :=
    Nat.dvd_mul_left_of_dvd (Nat.dvd_trans (Nat.dvd_mul_left _ 2) coarse) _
  have exactly : 2 ^ unit * count ⌈/⌉ 2 ^ unit = count := smul_ceilDiv (Nat.two_pow_pos unit) count
  rw [whole, exactly]
  constructor
  · rintro rfl
    rw [Nat.mul_comm (total ⌈/⌉ size), ← whole]
    exact Nat.dvd_mul_left _ _
  · rintro ⟨significand, multiple⟩
    refine Nat.eq_of_mul_eq_mul_left (Nat.two_pow_pos unit) ?_
    rw [← whole, Nat.mul_comm (2 ^ unit), multiple, Nat.mul_comm _ significand]
    -- The exact ceiling is less than half the spacing above the quotient.
    have covered : total ≤ size * (total ⌈/⌉ size) := (ceilDiv_le_iff_le_mul positive).mp le_rfl
    have scaled : size * (total ⌈/⌉ size) * 2 ^ unit =
        significand * (size * spacing (total * 2 ^ unit) size) := by
      rw [Nat.mul_assoc, multiple]
      ring
    have below := Nat.mul_le_mul_right (2 ^ unit) covered
    have above := Nat.mul_lt_mul_of_pos_right (mul_ceilDiv_lt positive total) (Nat.two_pow_pos unit)
    have half := Nat.mul_le_mul_left size (Nat.le_of_dvd (spacing_pos _ _) coarse)
    rw [Nat.add_mul] at above
    rw [scaled] at below above
    rw [Nat.mul_left_comm] at half
    have room := Nat.mul_pos positive (Nat.two_pow_pos unit)
    exact rounded_of_near positive (by omega) (by omega)

/-- The ceiling of a quotient is the same after the quotient has been rounded: it has no
remainder, or one that counts, or the ceiling is itself a binary64 number. -/
def CeilingSurvives (total size unit : Nat) : Prop :=
  if total < 2 ^ 53 * size then size ∣ total ∨ RemainderCounts total size unit
  else spacing (total * Nat.pow 2 unit) size ∣ (total ⌈/⌉ size) * Nat.pow 2 unit

instance (total size unit : Nat) : Decidable (CeilingSurvives total size unit) :=
  inferInstanceAs (Decidable (ite _ _ _))

theorem rounded_ceilDiv_iff (positive : 0 < size) (unit : Nat) :
    rounded (total * 2 ^ unit) size ⌈/⌉ 2 ^ unit = total ⌈/⌉ size ↔
      CeilingSurvives total size unit := by
  unfold CeilingSurvives
  split
  · rename_i few
    exact rounded_ceilDiv_iff_of_lt few unit
  · rename_i many
    exact rounded_ceilDiv_iff_of_le (Nat.le_of_not_lt many) positive unit

/-- The ceiling of a quotient of integers up to 2^53 survives, as long as the divisor does not
reach beyond twice the reciprocal of the least positive number. -/
theorem ceilingSurvives_of_le (few : total ≤ 2 ^ 53) (positive : 0 < size) {unit : Nat}
    (small : size < 2 * 2 ^ unit) : CeilingSurvives total size unit := by
  have one := Nat.two_pow_pos unit
  have scaled := Nat.mul_le_mul_right (2 ^ unit) few
  have bits := spacing_le (total * 2 ^ unit) size
  unfold CeilingSurvives RemainderCounts
  rw [Nat.pow_eq]
  split
  · rw [or_iff_not_imp_left, Nat.dvd_iff_mod_eq_zero]
    intro remains
    refine .inl ?_
    by_contra light
    have weight := Nat.mul_le_mul_right (2 ^ unit) (Nat.pos_of_ne_zero remains)
    have wide : spacing (total * 2 ^ unit) size ≠ 1 := by
      intro least
      rw [least, Nat.mul_one] at light
      omega
    have large := bits wide
    -- Only 2^53 is large enough, and has no divisor for which this remains.
    have exactly : size * spacing (total * 2 ^ unit) size = 2 * 2 ^ unit := by omega
    have greatest : total = 2 ^ 53 :=
      Nat.le_antisymm few (Nat.le_of_mul_le_mul_right (by omega) one)
    have remainder : total % size = 1 := by
      refine Nat.le_antisymm (Nat.le_of_mul_le_mul_right (?_ : _ * 2 ^ unit ≤ _) one) (by omega)
      omega
    have odd : Nat.Coprime 2 size := by
      refine Nat.Coprime.coprime_dvd_left (by decide : 2 ∣ 2 ^ 53) ?_
      rw [← greatest, Nat.coprime_comm, Nat.coprime_iff_gcd_eq_one, Nat.gcd_rec, remainder,
        Nat.gcd_one_left]
    have divides : size ∣ 2 ^ (unit + 1) := by
      rw [Nat.pow_succ, Nat.mul_comm, ← exactly]
      exact Nat.dvd_mul_right _ _
    have unitary := Nat.Coprime.eq_one_of_dvd (Nat.Coprime.pow_right _ odd.symm) divides
    rw [unitary, Nat.mod_one] at remains
    exact remains rfl
  · rename_i many
    have greatest : total = 2 ^ 53 ∧ size = 1 := by omega
    have coarse := dvd_spacing (Nat.le_of_not_lt many) positive unit
    obtain ⟨rfl, rfl⟩ := greatest
    have large := bits fun least => by
      rw [least] at coarse
      have small := Nat.le_of_dvd (by decide) coarse
      omega
    have exactly : spacing (2 ^ 53 * 2 ^ unit) 1 = 2 * 2 ^ unit :=
      Nat.le_antisymm (by omega) (Nat.le_of_dvd (spacing_pos _ _) coarse)
    rw [exactly, ceilDiv_one]
    exact Nat.mul_dvd_mul_right (by decide) _

/-! ### Overflow -/

theorem rounded_lt_two_pow_iff (positive : 0 < size) {unit low high top : Nat}
    (span : top = unit + 1 + low) (range : high = low + 54) :
    rounded (total * 2 ^ unit) size < 2 ^ (53 + top) ↔ total < (2 ^ high - 2 ^ low) * size := by
  have small : 2 ^ top * size = 2 ^ (unit + 1) * (2 ^ low * size) := by
    rw [span, Nat.pow_add, Nat.mul_assoc]
  have great : 2 ^ (54 + top) * size = 2 ^ (unit + 1) * (2 ^ high * size) := by
    rw [range, ← Nat.mul_assoc, ← Nat.pow_add]
    congr 2
    omega
  have doubled : 2 * (total * 2 ^ unit) = 2 ^ (unit + 1) * total := by
    rw [Nat.pow_succ]
    ring
  rw [rounded_lt_iff positive, small, great, doubled, ← Nat.mul_add,
    Nat.mul_lt_mul_left (Nat.two_pow_pos _), Nat.sub_mul]
  exact Nat.lt_sub_iff_add_lt.symm

theorem finite_of_le (few : total ≤ 2 ^ 53 * size) (positive : 0 < size) :
    total < (2 ^ 1024 - 2 ^ 970) * size :=
  Nat.lt_of_le_of_lt few (Nat.mul_lt_mul_of_pos_right (by decide +kernel) positive)

end Binary64

namespace Number

variable {total size : Nat}

private theorem div_le_natCast_iff (numerator count : Nat) {unit : Nat} (positive : 0 < unit) :
    ((numerator : Int) : ℚ) / (unit : ℚ) ≤ ((count : Int) : ℚ) ↔ numerator ≤ count * unit := by
  rw [div_le_iff₀ (by exact_mod_cast positive)]
  exact_mod_cast Iff.rfl

private theorem magnitude_le_iff (significand exponent count : Nat) {unit : Nat}
    (least : unit = 1074) :
    Binary64.magnitude significand exponent ≤ ((count : Int) : ℚ) ↔
      significand * Nat.pow 2 exponent ≤ count * Nat.pow 2 unit := by
  have positive : 0 < Nat.pow 2 unit := Nat.two_pow_pos unit
  have ratio : Binary64.magnitude significand exponent =
      ((significand * Nat.pow 2 exponent : Nat) : Int) / ((Nat.pow 2 unit : Nat) : ℚ) := by
    unfold Binary64.magnitude
    rw [← least]
    exact Rat.mkRat_eq_div _ _
  rw [ratio]
  exact div_le_natCast_iff _ _ positive

private theorem magnitude_nonneg (significand exponent : Nat) :
    0 ≤ Binary64.magnitude significand exponent :=
  Rat.mkRat_nonneg (Int.natCast_nonneg _) _

private theorem floatCeiling_finite (significand exponent : Nat)
    (canonical : Binary64.Canonical significand exponent) {unit : Nat} (least : unit = 1074) :
    floatCeiling (.finite false significand exponent canonical) =
      .ok ((significand * 2 ^ exponent ⌈/⌉ 2 ^ unit : Nat) : Int) := by
  have bounds (bound : Nat) : Binary64.magnitude significand exponent ≤ ((bound : Int) : ℚ) ↔
      significand * 2 ^ exponent ⌈/⌉ 2 ^ unit ≤ bound := by
    rw [magnitude_le_iff _ _ _ least, ceilDiv_le_iff_le_mul (Nat.two_pow_pos unit),
      Nat.mul_comm (2 ^ unit)]
    rfl
  have ceiling : (Binary64.magnitude significand exponent).ceil =
      (significand * 2 ^ exponent ⌈/⌉ 2 ^ unit : Nat) := by
    refine le_antisymm ?_ ?_
    · rw [Rat.ceil_le_iff, bounds]
    · by_contra below
      have nonnegative : 0 ≤ (Binary64.magnitude significand exponent).ceil :=
        Int.le_of_sub_one_lt (Rat.lt_ceil_iff.mpr
          (lt_of_lt_of_le (by norm_num) (magnitude_nonneg significand exponent)))
      obtain ⟨bound, reached⟩ := Int.eq_ofNat_of_zero_le nonnegative
      have within := (bounds bound).mp (Rat.ceil_le_iff.mp (le_of_eq reached))
      omega
  unfold floatCeiling Binary64.signed
  simp only [Bool.false_eq_true, if_false, ceiling]

private theorem lowestTerms (total : Nat) (positive : 0 < size) :
    (((total : Int) : ℚ) / ((size : Int) : ℚ)).num.natAbs * size =
      total * (((total : Int) : ℚ) / ((size : Int) : ℚ)).den := by
  have nonnegative : 0 ≤ ((total : Int) : ℚ) / ((size : Int) : ℚ) := by positivity
  have numerator := Int.natAbs_of_nonneg (Rat.num_nonneg.mpr nonnegative)
  have terms := Rat.num_div_den (((total : Int) : ℚ) / ((size : Int) : ℚ))
  rw [div_eq_div_iff (by positivity) (by positivity), ← numerator] at terms
  exact_mod_cast terms

private theorem rounded_lowestTerms (total : Nat) (positive : 0 < size) (unit : Nat) :
    Binary64.rounded ((((total : Int) : ℚ) / ((size : Int) : ℚ)).num.natAbs * 2 ^ unit)
        (((total : Int) : ℚ) / ((size : Int) : ℚ)).den =
      Binary64.rounded (total * 2 ^ unit) size := by
  have terms := lowestTerms total positive
  have proper := (((total : Int) : ℚ) / ((size : Int) : ℚ)).den_pos
  generalize ((total : Int) : ℚ) / ((size : Int) : ℚ) = value at terms proper ⊢
  rw [← Binary64.rounded_mul _ value.den positive, ← Binary64.rounded_mul _ size proper,
    Nat.mul_comm size value.den, ← Nat.mul_assoc, Nat.mul_comm size, terms, Nat.mul_comm total,
    Nat.mul_assoc]

theorem quotientCeiling_int (total : Nat) (positive : 0 < size) {unit : Nat}
    (least : unit = 1074) :
    quotientCeiling (.int total) (.int size) =
      if total < (2 ^ 1024 - 2 ^ 970) * size then
        .ok ((Binary64.rounded (total * 2 ^ unit) size ⌈/⌉ 2 ^ unit : Nat) : Int)
      else .error .quotientTooLarge := by
  obtain ⟨low, high, top, greatest, span, range, overflow⟩ : ∃ low high top, top = 2045 ∧
      top = unit + 1 + low ∧ high = low + 54 ∧ 2 ^ 1024 - 2 ^ 970 = 2 ^ high - 2 ^ low :=
    ⟨970, 1024, 2045, rfl, by rw [least], rfl, rfl⟩
  have sign : (decide ((total : Int) < 0) ^^ decide ((size : Int) < 0)) = false := by
    simp only [Int.natCast_nonneg, not_lt.mpr, decide_false, Bool.xor_false]
  have cases := Binary64.nearest_cases false (((total : Int) : ℚ) / ((size : Int) : ℚ)) least greatest
  rw [Nat.pow_eq, rounded_lowestTerms total positive,
    Binary64.rounded_lt_two_pow_iff positive span range] at cases
  change integerQuotient total size >>= floatCeiling = _
  unfold integerQuotient
  rw [if_neg (by omega), sign, overflow]
  rcases cases with ⟨small, significand, exponent, canonical, nearest, value⟩ | ⟨large, nearest⟩
  · rw [nearest, if_pos small, ← value]
    exact floatCeiling_finite significand exponent canonical least
  · rw [nearest, if_neg]
    · rfl
    · rw [← Binary64.rounded_lt_two_pow_iff positive span range]
      exact Nat.not_lt.mpr large

/-- Rounding does not show in the ceiling of a quotient of integers up to 2^53. -/
theorem quotientCeiling_of_within (few : total ≤ 2 ^ 53) (positive : 0 < size)
    (small : size < 2 ^ 1075) :
    quotientCeiling (.int total) (.int size) = .ok ((total ⌈/⌉ size : Nat) : Int) := by
  obtain ⟨unit, least, next⟩ : ∃ unit, unit = 1074 ∧ 1075 = unit + 1 := ⟨1074, rfl, rfl⟩
  rw [next, Nat.pow_succ'] at small
  have survives := Binary64.ceilingSurvives_of_le few positive small
  rw [quotientCeiling_int total positive least, if_pos,
    (Binary64.rounded_ceilDiv_iff positive unit).mpr survives]
  exact Binary64.finite_of_le (Nat.le_trans few (Nat.le_mul_of_pos_right _ positive)) positive

end Number
end PooledQuery
