/-
Rounding to binary64.

In units of the least positive number a binary64 number is a significand times its spacing,
the distance of the binary64 numbers around it.  A quotient is rounded to a multiple of the
spacing at it.  From which bound on a rounded quotient lies above a multiple of the spacing
can be told from the quotient itself, and so can from which bound on it is infinite.
-/
import Mathlib.Data.Nat.Log
import Mathlib.Tactic.Linarith
import Mathlib.Tactic.Ring
import PooledQuery.Number.Basic

namespace PooledQuery.Binary64

/-! ### Rounding to an integer -/

theorem div_le_roundHalfEven (numerator denominator : Nat) :
    numerator / denominator ≤ roundHalfEven numerator denominator := by
  unfold roundHalfEven
  dsimp only
  split
  · exact Nat.le_refl _
  · split <;> omega

/-- A rounded quotient is not above an integer if the quotient is less than a half above it,
or exactly a half above it and the integer is even. -/
theorem roundHalfEven_le_iff (numerator : Nat) {denominator : Nat} (positive : 0 < denominator)
    (count : Nat) :
    roundHalfEven numerator denominator ≤ count ↔
      2 * numerator < 2 * (count * denominator) + denominator ∨
        2 * numerator = 2 * (count * denominator) + denominator ∧ count % 2 = 0 := by
  have parts := Nat.div_add_mod' numerator denominator
  have bounded := Nat.mod_lt numerator positive
  unfold roundHalfEven
  dsimp only
  rcases Nat.lt_trichotomy count (numerator / denominator) with below | same | above
  · have next : (count + 1) * denominator ≤ numerator / denominator * denominator :=
      Nat.mul_le_mul_right _ below
    rw [Nat.add_one_mul] at next
    split
    · omega
    · split <;> omega
  · rw [← same] at parts ⊢
    split
    · omega
    · split <;> omega
  · have next : (numerator / denominator + 1) * denominator ≤ count * denominator :=
      Nat.mul_le_mul_right _ above
    rw [Nat.add_one_mul] at next
    split
    · omega
    · split <;> omega

private theorem roundHalfEven_mul (numerator denominator : Nat) {factor : Nat}
    (positive : 0 < factor) :
    roundHalfEven (factor * numerator) (factor * denominator) =
      roundHalfEven numerator denominator := by
  unfold roundHalfEven
  rw [Nat.mul_div_mul_left _ _ positive, Nat.mul_mod_mul_left]
  dsimp only
  simp only [Nat.mul_left_comm 2 factor, Nat.mul_lt_mul_left positive]

/-! ### Rounding to a multiple of the spacing -/

/-- The distance of the binary64 numbers around a quotient, in units of the least positive
number. -/
def spacing (numerator denominator : Nat) : Nat :=
  2 ^ ((numerator / denominator).log2 - 52)

def rounded (numerator denominator : Nat) : Nat :=
  roundHalfEven numerator (denominator * spacing numerator denominator) *
    spacing numerator denominator

variable {numerator denominator : Nat}

theorem spacing_pos (numerator denominator : Nat) : 0 < spacing numerator denominator :=
  Nat.two_pow_pos _

private theorem spacing_mul (numerator denominator : Nat) {factor : Nat} (positive : 0 < factor) :
    spacing (factor * numerator) (factor * denominator) = spacing numerator denominator := by
  unfold spacing
  rw [Nat.mul_div_mul_left _ _ positive]

theorem rounded_mul (numerator denominator : Nat) {factor : Nat} (positive : 0 < factor) :
    rounded (factor * numerator) (factor * denominator) = rounded numerator denominator := by
  unfold rounded
  rw [spacing_mul _ _ positive, Nat.mul_assoc, roundHalfEven_mul _ _ positive]

theorem rounded_le_iff (numerator : Nat) (positive : 0 < denominator) (count : Nat) :
    rounded numerator denominator ≤ count * spacing numerator denominator ↔
      2 * numerator < 2 * (count * (denominator * spacing numerator denominator)) +
          denominator * spacing numerator denominator ∨
        2 * numerator = 2 * (count * (denominator * spacing numerator denominator)) +
          denominator * spacing numerator denominator ∧ count % 2 = 0 := by
  have proper := Nat.mul_pos positive (spacing_pos numerator denominator)
  unfold rounded
  rw [Nat.mul_le_mul_right_iff (spacing_pos numerator denominator), roundHalfEven_le_iff _ proper]

theorem lt_spacing (numerator : Nat) (positive : 0 < denominator) :
    numerator < 2 ^ 53 * (denominator * spacing numerator denominator) := by
  have bits : numerator / denominator < 2 ^ 53 * spacing numerator denominator := by
    refine Nat.lt_of_lt_of_le Nat.lt_log2_self ?_
    unfold spacing
    rw [← Nat.pow_add]
    exact Nat.pow_le_pow_right (by decide) (by omega)
  rw [Nat.div_lt_iff_lt_mul positive] at bits
  rwa [Nat.mul_comm denominator, ← Nat.mul_assoc]

theorem spacing_le (numerator denominator : Nat) (wide : spacing numerator denominator ≠ 1) :
    2 ^ 52 * (denominator * spacing numerator denominator) ≤ numerator := by
  have large : 52 < (numerator / denominator).log2 := by
    by_contra small
    refine wide ?_
    unfold spacing
    rw [Nat.sub_eq_zero_of_le (by omega), Nat.pow_zero]
  have nonzero : numerator / denominator ≠ 0 := by
    intro zero
    rw [zero] at large
    exact absurd large (by decide)
  calc 2 ^ 52 * (denominator * spacing numerator denominator)
      = 2 ^ (numerator / denominator).log2 * denominator := by
        have split : 2 ^ (numerator / denominator).log2 =
            2 ^ 52 * 2 ^ ((numerator / denominator).log2 - 52) := by
          rw [← Nat.pow_add]
          congr 1
          omega
        unfold spacing
        rw [split]
        ring
    _ ≤ numerator / denominator * denominator :=
        Nat.mul_le_mul_right _ (Nat.log2_self_le nonzero)
    _ ≤ numerator := Nat.div_mul_le_self _ _

theorem significand_le (numerator : Nat) (positive : 0 < denominator) :
    roundHalfEven numerator (denominator * spacing numerator denominator) ≤ 2 ^ 53 := by
  have proper := Nat.mul_pos positive (spacing_pos numerator denominator)
  have bits := lt_spacing numerator positive
  generalize denominator * spacing numerator denominator = unit at proper bits ⊢
  rw [roundHalfEven_le_iff _ proper]
  omega

theorem le_significand (numerator : Nat) (positive : 0 < denominator)
    (wide : spacing numerator denominator ≠ 1) :
    2 ^ 52 ≤ roundHalfEven numerator (denominator * spacing numerator denominator) := by
  have proper := Nat.mul_pos positive (spacing_pos numerator denominator)
  refine Nat.le_trans ?_ (div_le_roundHalfEven _ _)
  exact (Nat.le_div_iff_mul_le proper).mpr (spacing_le numerator denominator wide)

/-! ### The nearest number -/

/-- The number nearest to a rational is the rounded quotient of its parts, unless that has too
many bits. -/
theorem nearest_cases (negative : Bool) (value : ℚ) {unit top : Nat} (least : unit = 1074)
    (greatest : top = 2045) :
    (rounded (value.num.natAbs * Nat.pow 2 unit) value.den < 2 ^ (53 + top) ∧
      ∃ significand exponent canonical,
        nearest negative value = .finite negative significand exponent canonical ∧
          significand * 2 ^ exponent = rounded (value.num.natAbs * Nat.pow 2 unit) value.den) ∨
    (2 ^ (53 + top) ≤ rounded (value.num.natAbs * Nat.pow 2 unit) value.den ∧
      nearest negative value = .infinite negative) := by
  have many := significand_le (value.num.natAbs * Nat.pow 2 unit) value.den_pos
  have enough := le_significand (value.num.natAbs * Nat.pow 2 unit) value.den_pos
  unfold nearest rounded
  unfold spacing at many enough ⊢
  rw [← least]
  simp only [Nat.pow_eq] at many enough ⊢
  generalize (value.num.natAbs * 2 ^ unit / value.den).log2 - 52 = exponent at many enough ⊢
  generalize roundHalfEven (value.num.natAbs * 2 ^ unit) (value.den * 2 ^ exponent) =
    significand at many enough ⊢
  have wide (beyond : top < exponent) : 2 ^ 52 ≤ significand :=
    enough (Nat.one_lt_two_pow (by omega)).ne'
  rw [Nat.pow_add]
  by_cases carries : significand = 2 ^ 53
  · -- All bits carry, so the result has the next exponent and the same value.
    have misfit : ¬ Canonical significand exponent := by
      intro fits
      have below := fits.1
      rw [carries] at below
      exact Nat.lt_irrefl _ below
    rw [dif_neg misfit, carries]
    by_cases room : exponent < top
    · have carried : Canonical (2 ^ 52) (exponent + 1) :=
        ⟨by decide, by omega, .inr (Nat.le_refl _)⟩
      refine .inl ⟨?_, 2 ^ 52, exponent + 1, carried, dif_pos carried, ?_⟩
      · exact Nat.mul_lt_mul_of_pos_left (Nat.pow_lt_pow_right (by decide) room) (by decide)
      · rw [Nat.pow_succ]
        omega
    · refine .inr ⟨?_, dif_neg fun carried => absurd carried.2.1 (by omega)⟩
      exact Nat.mul_le_mul_left _ (Nat.pow_le_pow_right (by decide) (by omega))
  · have fewer : significand < 2 ^ 53 := by omega
    by_cases room : exponent ≤ top
    · have fits : Canonical significand exponent := by
        refine ⟨fewer, by omega, ?_⟩
        rcases Nat.eq_zero_or_pos exponent with zero | some
        · exact .inl zero
        · exact .inr (enough (Nat.one_lt_two_pow (by omega)).ne')
      refine .inl ⟨?_, significand, exponent, fits, dif_pos fits, rfl⟩
      exact Nat.mul_lt_mul_of_lt_of_le fewer (Nat.pow_le_pow_right (by decide) room)
        (Nat.two_pow_pos top)
    · have misfit : ¬ Canonical significand exponent := fun fits => room (by
        rw [greatest]
        exact fits.2.1)
      refine .inr ⟨?_, ?_⟩
      · have next : 2 ^ (top + 1) ≤ 2 ^ exponent := Nat.pow_le_pow_right (by decide) (by omega)
        have scaled := Nat.mul_le_mul (wide (by omega)) next
        rw [Nat.pow_succ] at scaled
        omega
      · rw [dif_neg misfit, dif_neg fun carried => absurd carried.2.1 (by omega)]

/-- A quotient has too many bits if it is as near to the next power of two as to the largest
number, or nearer. -/
theorem rounded_lt_iff (positive : 0 < denominator) (top : Nat) :
    rounded numerator denominator < 2 ^ (53 + top) ↔
      2 * numerator + 2 ^ top * denominator < 2 ^ (54 + top) * denominator := by
  have many := significand_le numerator positive
  have enough := le_significand numerator positive
  have below := lt_spacing numerator positive
  have above := spacing_le numerator denominator
  have counted (count : Nat) := roundHalfEven_le_iff numerator
    (Nat.mul_pos positive (spacing_pos numerator denominator)) count
  unfold rounded
  unfold spacing at *
  generalize (numerator / denominator).log2 - 52 = exponent at *
  generalize roundHalfEven numerator (denominator * 2 ^ exponent) = significand at *
  rw [Nat.pow_add, Nat.pow_add, Nat.mul_assoc (2 ^ 54)]
  rcases Nat.lt_trichotomy exponent top with fine | same | coarse
  · have next : 2 ^ (exponent + 1) ≤ 2 ^ top := Nat.pow_le_pow_right (by decide) fine
    rw [Nat.pow_succ] at next
    have scaled := Nat.mul_le_mul_left denominator next
    have product := Nat.mul_le_mul_right (2 ^ exponent) many
    rw [← Nat.mul_assoc, Nat.mul_comm _ (2 ^ top)] at scaled
    have powers := Nat.two_pow_pos exponent
    constructor
    · intro _few
      omega
    · intro _few
      omega
  · -- At the greatest spacing the last significand is odd, so a half beyond it goes up.
    subst same
    obtain ⟨last, next, odd⟩ : ∃ last, last + 1 = 2 ^ 53 ∧ last % 2 = 1 :=
      ⟨2 ^ 53 - 1, by decide, by decide⟩
    have double : 2 ^ 54 = 2 * (last + 1) := by
      rw [next]
      decide
    rw [Nat.mul_lt_mul_right (Nat.two_pow_pos exponent), ← next, Nat.lt_succ_iff, counted last,
      Nat.mul_comm denominator, double, odd, Nat.mul_assoc 2, Nat.add_one_mul last]
    omega
  · have next : 2 ^ (top + 1) ≤ 2 ^ exponent := Nat.pow_le_pow_right (by decide) coarse
    have bits := above (Nat.one_lt_two_pow (by omega)).ne'
    have product := Nat.mul_le_mul_right (2 ^ exponent)
      (enough (Nat.one_lt_two_pow (by omega)).ne')
    rw [Nat.pow_succ] at next
    have scaled := Nat.mul_le_mul_left denominator next
    rw [← Nat.mul_assoc, Nat.mul_comm _ (2 ^ top)] at scaled
    constructor
    · intro _few
      omega
    · intro _few
      omega

end PooledQuery.Binary64
