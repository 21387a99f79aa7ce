/-
How far the number of the last page is exact.

The number of pages is the ceiling of a quotient that is rounded to binary64 first.  The
rounding never adds a page to a quotient below 2^53 and takes at most one away, namely when
the rows of the last page weigh too little beside the others to show.  Beyond 2^53 the number
of pages has to be a binary64 number, and a quotient beyond the largest of these has no
number of pages at all.
-/
import PooledQuery.Paging
import PooledQuery.Proofs.Number.Quotient

namespace PooledQuery.Paging

variable {total size : Nat}

private theorem lastPage_eq_rounded (total : Nat) (positive : 0 < size) {unit : Nat}
    (least : unit = 1074) :
    lastPage (.int total) (.int size) =
      if total < (2 ^ 1024 - 2 ^ 970) * size then
        .ok ((Binary64.rounded (total * 2 ^ unit) size ⌈/⌉ 2 ^ unit : Nat) - 1 : Int)
      else .error .quotientTooLarge := by
  have ceiling : parts (.int total) (.int size) = _ :=
    Number.quotientCeiling_int total positive least
  unfold lastPage
  rw [ceiling]
  split
  · rfl
  · rfl

/-- The number of the last page fails for quotients that are too large to round, and for no
others.  Otherwise it is exact just if the ceiling of the quotient survives the rounding.
Below 2^53 pages it is exact, or one less because a remainder is lost; up to 2^53 rows it is
exact for all limits that do not make the quotient vanish. -/
theorem lastPage_exact_iff (total : Nat) (positive : 0 < size) :
    ((2 ^ 1024 - 2 ^ 970) * size ≤ total →
      lastPage (.int total) (.int size) = .error .quotientTooLarge) ∧
    (total < (2 ^ 1024 - 2 ^ 970) * size →
      ∃ last : Int, lastPage (.int total) (.int size) = .ok last ∧
        (last = (total ⌈/⌉ size : Nat) - 1 ↔ Binary64.CeilingSurvives total size 1074)) ∧
    (total < 2 ^ 53 * size →
      lastPage (.int total) (.int size) = .ok ((total ⌈/⌉ size : Nat) - 1 : Int) ∨
        ¬ size ∣ total ∧
          lastPage (.int total) (.int size) = .ok ((total ⌈/⌉ size : Nat) - 2 : Int)) ∧
    (total ≤ 2 ^ 53 → size < 2 ^ 1075 →
      lastPage (.int total) (.int size) = .ok ((total ⌈/⌉ size : Nat) - 1 : Int)) := by
  obtain ⟨unit, least⟩ : ∃ unit, unit = 1074 := ⟨1074, rfl⟩
  have value := lastPage_eq_rounded total positive least
  refine ⟨fun large => ?overflow, fun finite => ?exact, fun few => ?short, fun few small => ?within⟩
  case overflow =>
    rw [value, if_neg (Nat.not_lt.mpr large)]
  case exact =>
    refine ⟨_, value.trans (if_pos finite), ?_⟩
    rw [← least, ← Binary64.rounded_ceilDiv_iff positive unit, sub_left_inj, Nat.cast_inj]
  case short =>
    rw [value, if_pos (Binary64.finite_of_le (Nat.le_of_lt few) positive)]
    rcases Binary64.rounded_ceilDiv_cases few unit with same | ⟨parts, lost⟩
    · exact .inl (by rw [same])
    · refine .inr ⟨parts, ?_⟩
      rw [← lost, Nat.cast_add_one]
      congr 1
      omega
  case within =>
    have ceiling : parts (.int total) (.int size) = _ :=
      Number.quotientCeiling_of_within few positive small
    unfold lastPage
    rw [ceiling]
    rfl

/-- Three rows more than 2^54 show in the number of pages of four rows each. -/
theorem lastPage_exact_of_counting_remainder :
    0 < 4 ∧ 2 ^ 54 + 3 < 2 ^ 53 * 4 ∧ 2 ^ 54 + 3 < (2 ^ 1024 - 2 ^ 970) * 4 ∧
      Binary64.CeilingSurvives (2 ^ 54 + 3) 4 1074 ∧
      lastPage (.int (2 ^ 54 + 3 : Nat)) (.int (4 : Nat)) =
        .ok (((2 ^ 54 + 3) ⌈/⌉ 4 : Nat) - 1 : Int) := by
  have positive : 0 < 4 := by decide
  have few : 2 ^ 54 + 3 < 2 ^ 53 * 4 := by decide
  have finite : 2 ^ 54 + 3 < (2 ^ 1024 - 2 ^ 970) * 4 := by decide +kernel
  have survives : Binary64.CeilingSurvives (2 ^ 54 + 3) 4 1074 := by decide +kernel
  obtain ⟨last, value, exactly⟩ := (lastPage_exact_iff (2 ^ 54 + 3) positive).2.1 finite
  refine ⟨positive, few, finite, survives, ?_⟩
  rw [value, exactly.mpr survives]

/-- The last of 2^53 + 1 pages of one row is not numbered. -/
theorem lastPage_short_of_lost_remainder :
    ¬ ∀ total size : Nat, 0 < size →
      lastPage (.int total) (.int size) = .ok ((total ⌈/⌉ size : Nat) - 1 : Int) := by
  intro exact
  have claimed := exact (2 ^ 53 + 1) 1 (by decide)
  have value : lastPage (.int (2 ^ 53 + 1 : Nat)) (.int (1 : Nat)) = .ok (2 ^ 53 - 1) := by
    decide +kernel
  rw [value, ceilDiv_one] at claimed
  exact absurd (Except.ok.inj claimed) (by decide)

end PooledQuery.Paging
