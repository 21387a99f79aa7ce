/-
Values that can be written.

Writing a value fails for one reason only: an integer that is shown has too many digits.  A
value that can be written has its plain text as its written one.
-/
import PooledQuery.Value.Display

namespace PooledQuery

namespace Number

private theorem hasMoreDigits_iff (limit n : Nat) :
    hasMoreDigits limit n = true ↔ Nat.pow 10 limit ≤ n := by
  induction limit generalizing n with
  | zero => simp [hasMoreDigits, Nat.one_le_iff_ne_zero]
  | succ limit ih =>
      rw [hasMoreDigits, Bool.and_eq_true, decide_eq_true_eq, ih,
        Nat.le_div_iff_mul_le (by decide), Nat.pow]
      -- A number that reaches the power reaches its last factor.
      have least : 10 ≤ Nat.pow 10 limit * 10 :=
        Nat.le_mul_of_pos_left 10 (Nat.pow_pos (by decide))
      exact ⟨And.right, fun reaches => ⟨Nat.le_trans least reaches, reaches⟩⟩

theorem isOverlong_iff {n : Int} : isOverlong n = true ↔ unwritable ≤ n.natAbs := by
  unfold isOverlong unwritable
  generalize digitLimit = limit
  exact hasMoreDigits_iff limit n.natAbs

theorem isOverlong_of_short {n : Int} (short : n.natAbs < unwritable) : isOverlong n = false :=
  Bool.eq_false_iff.mpr fun overlong => Nat.not_le.mpr short (isOverlong_iff.mp overlong)

theorem short_of_not_overlong {n : Int} (writable : ¬ isOverlong n = true) :
    n.natAbs < unwritable :=
  Nat.not_le.mp fun reaches => writable (isOverlong_iff.mpr reaches)

theorem isOverlong_unwritable : isOverlong unwritable = true :=
  isOverlong_iff.mpr (Nat.le_of_eq (Int.natAbs_natCast unwritable).symm)

theorem integerText_of_short {n : Int} (short : n.natAbs < unwritable) :
    integerText n = .ok (Text.ofInt n) := by
  rw [integerText, isOverlong_of_short short]
  rfl

theorem lt_unwritable {n digits : Nat} (few : digits ≤ digitLimit)
    (short : n < Nat.pow 10 digits) : n < unwritable := by
  unfold unwritable
  generalize digitLimit = limit at few
  exact Nat.lt_of_lt_of_le short (Nat.pow_le_pow_right (by decide) few)

end Number

namespace Value

variable {value : Value} {text : Text} {failure : Failure}

theorem writtenText_int (n : Int) : (Value.int n).writtenText = Number.integerText n :=
  rfl

theorem plainText_of_writtenText (written : value.writtenText = .ok text) :
    value.plainText = text := by
  unfold writtenText at written
  split at written
  · exact Except.ok.inj written
  · split at written
    · cases written
    · exact Except.ok.inj written

theorem failure_of_writtenText (fails : value.writtenText = .error failure) :
    failure = .integerTooLongToWrite := by
  unfold writtenText at fails
  split at fails
  · cases fails
  · split at fails
    · exact (Except.error.inj fails).symm
    · cases fails

end Value
end PooledQuery
