/-
The threshold for slow statements.

A threshold that was settled is not below zero.  That leaves the float that is no number,
which is below nothing; a decimal that is none is refused, since it has no place in the
order.  So the test of a time that is a number against a settled threshold always gives an
answer: yes if the time exceeds the threshold, and yes as well if the threshold is no number.
-/
import PooledQuery.Proofs.Failure
import PooledQuery.Session.Query

namespace PooledQuery

/-! ### Numbers that have a place in the order -/

def Decimal.isNumber : Decimal → Bool
  | .nan .. => false
  | _ => true

def Binary64.isNumber : Binary64 → Bool
  | .nan => false
  | _ => true

def Binary64.isFinite : Binary64 → Bool
  | .finite .. => true
  | _ => false

/-- Whether a number has a place in the order. -/
def Number.isNumber : Number → Bool
  | .float x => x.isNumber
  | .decimal d => d.isNumber
  | _ => true

/-- Whether a number is above another one. -/
def Number.Exceeds (left right : Number) : Prop :=
  left.compare? right = some .gt

theorem Decimal.isSome_compare? (left right : Decimal) :
    (left.compare? right).isSome = (left.isNumber && right.isNumber) := by
  unfold Decimal.compare?
  cases left with
  | nan negative signaling payload => rfl
  | infinite negative => cases right <;> rfl
  | finite negative coefficient exponent =>
      cases right with
      | nan other signaling payload => rfl
      | infinite other => rfl
      | finite other otherCoefficient otherExponent =>
          dsimp only
          split
          · rfl
          · cases negative <;> cases other <;> rfl

namespace Number

theorem isNumber_exact (n : Number) : n.exact.isNumber = n.isNumber := by
  cases n with
  | bool b => rfl
  | int n => rfl
  | decimal d => rfl
  | float x =>
      cases x with
      | nan => rfl
      | infinite negative => rfl
      | finite negative significand exponent canonical =>
          unfold exact exactFloat
          dsimp only
          split <;> rfl

theorem isNumber_of_integer {n : Number} {m : Int} (integer : n.integer? = some m) :
    n.isNumber = true := by
  cases n with
  | bool b => rfl
  | int n => rfl
  | float x => cases integer
  | decimal d => cases integer

theorem isSome_compare? (left right : Number) :
    (left.compare? right).isSome = (left.isNumber && right.isNumber) := by
  unfold compare?
  split
  · rename_i leftInteger rightInteger
    rw [isNumber_of_integer leftInteger, isNumber_of_integer rightInteger]
    rfl
  · rw [Decimal.isSome_compare?, isNumber_exact, isNumber_exact]

theorem compare?_of_not_number {left right : Number}
    (unordered : (left.isNumber && right.isNumber) = false) : left.compare? right = none := by
  rw [← isSome_compare?] at unordered
  exact Option.isNone_iff_eq_none.mp (Option.isSome_eq_false_iff.mp unordered)

/-- The order test gives an answer between numbers that have a place in the order, and
between those that are no decimals. -/
theorem holds_of_answerable {left right : Number} (test : OrderTest)
    (answerable : (left.isNumber && right.isNumber) = true ∨
      (left.isDecimal || right.isDecimal) = false) :
    ∃ answer, holds test left right = .ok answer := by
  unfold holds
  cases order : left.compare? right with
  | some order => cases test <;> exact ⟨_, rfl⟩
  | none =>
      have unordered := isSome_compare? left right
      rw [order] at unordered
      rw [answerable.resolve_left (by rw [← unordered]; exact Bool.false_ne_true)]
      cases test <;> exact ⟨false, rfl⟩

end Number

/-! ### Times -/

namespace Binary64

theorem isNumber_nearest (negative : Bool) (value : Rat) :
    (nearest negative value).isNumber = true := by
  unfold nearest
  dsimp only
  split
  · rfl
  · split <;> rfl

private theorem isNumber_sub {left right : Binary64} (leftFinite : left.isFinite = true)
    (rightFinite : right.isFinite = true) : (left.sub right).isNumber = true := by
  cases left with
  | nan => cases leftFinite
  | infinite negative => cases leftFinite
  | finite negative significand exponent canonical =>
      cases right with
      | nan => cases rightFinite
      | infinite other => cases rightFinite
      | finite other otherSignificand otherExponent otherCanonical =>
          unfold sub add neg
          dsimp only
          split
          · rfl
          · exact isNumber_nearest _ _

private theorem isNumber_mul {left right : Binary64} (number : left.isNumber = true)
    (finite : right.isFinite = true) (nonzero : right.isZero = false) :
    (left.mul right).isNumber = true := by
  cases right with
  | nan => cases finite
  | infinite other => cases finite
  | finite other otherSignificand otherExponent otherCanonical =>
      have significant : otherSignificand ≠ 0 := by
        rintro rfl
        cases nonzero
      cases left with
      | nan => cases number
      | infinite negative =>
          unfold mul
          dsimp only
          rw [if_neg significant]
          rfl
      | finite negative significand exponent canonical => exact isNumber_nearest _ _

end Binary64

theorem Session.isNumber_milliseconds {started ended : Binary64}
    (startedFinite : started.isFinite = true) (endedFinite : ended.isFinite = true) :
    (Session.milliseconds started ended).isNumber = true :=
  Binary64.isNumber_mul (Binary64.isNumber_sub endedFinite startedFinite)
    (by decide +kernel) (by decide +kernel)

/-! ### Settled thresholds -/

namespace Settings

/-- A threshold that has passed its check. -/
def Settled (settings : Settings) : Prop :=
  settings.slowThreshold.holds .less (.int 0) = .ok false

theorem holds_of_notBelow {value : Value} {bound : Int} {failure : Failure} {n : Number}
    (passed : value.notBelow bound failure = .ok n) : n.holds .less (.int bound) = .ok false := by
  obtain ⟨number, ordered, passed⟩ := Failure.bind_ok passed
  obtain ⟨below, holds, passed⟩ := Failure.bind_ok passed
  cases below with
  | true => cases passed
  | false =>
      cases passed
      exact holds

theorem Draft.settle_settled {draft : Draft} {settings : Settings}
    (settles : draft.settle = .ok settings) : settings.Settled := by
  obtain ⟨echo, named, settles⟩ := Failure.bind_ok settles
  obtain ⟨defaultLimit, limited, settles⟩ := Failure.bind_ok settles
  obtain ⟨slowThreshold, passed, settles⟩ := Failure.bind_ok settles
  cases settles
  exact holds_of_notBelow passed

theorem withSlowThreshold_settled {settings changed : Settings} {value : Value}
    (changes : settings.withSlowThreshold value = .ok changed) : changed.Settled := by
  obtain ⟨slowThreshold, passed, changes⟩ := Failure.bind_ok changes
  cases changes
  exact holds_of_notBelow passed

theorem Settled.isNumber {settings : Settings} (settled : settings.Settled)
    (decimal : settings.slowThreshold.isDecimal = true) :
    settings.slowThreshold.isNumber = true := by
  unfold Settled at settled
  refine Classical.byContradiction fun nowhere => ?_
  have unordered : settings.slowThreshold.compare? (.int 0) = none :=
    Number.compare?_of_not_number (by rw [Bool.eq_false_iff.mpr nowhere, Bool.false_and])
  unfold Number.holds at settled
  rw [unordered, decimal] at settled
  cases settled

end Settings

/-! ### The test -/

namespace Session

variable {settings : Settings} {elapsed : Binary64}

theorem isSlow_of_not_enabled (disabled : settings.recordsSlow.isTruthy = false) :
    isSlow settings elapsed = .ok false := by
  unfold isSlow
  rw [disabled]
  rfl

/-- Against a settled threshold the test of a time gives an answer. -/
theorem isSlow_of_settled (settled : settings.Settled) (number : elapsed.isNumber = true) :
    ∃ slow, isSlow settings elapsed = .ok slow := by
  cases enabled : settings.recordsSlow.isTruthy with
  | false => exact ⟨false, isSlow_of_not_enabled enabled⟩
  | true =>
      have answerable : ((Number.float elapsed).isNumber && settings.slowThreshold.isNumber) = true ∨
          ((Number.float elapsed).isDecimal || settings.slowThreshold.isDecimal) = false := by
        cases decimal : settings.slowThreshold.isDecimal with
        | true =>
            left
            rw [settled.isNumber decimal]
            exact (Bool.and_true _).trans number
        | false => exact .inr rfl
      obtain ⟨answer, holds⟩ := Number.holds_of_answerable .atMost answerable
      refine ⟨!answer, ?_⟩
      unfold isSlow
      rw [enabled, if_pos rfl, holds]
      rfl

/-- Between numbers that have a place in the order, a statement is slow if records are asked
for and its time exceeds the threshold. -/
theorem isSlow_iff_exceeds (number : elapsed.isNumber = true)
    (threshold : settings.slowThreshold.isNumber = true) :
    isSlow settings elapsed = .ok true ↔ settings.recordsSlow.isTruthy = true ∧
      (Number.float elapsed).Exceeds settings.slowThreshold := by
  cases enabled : settings.recordsSlow.isTruthy with
  | false =>
      rw [isSlow_of_not_enabled enabled]
      simp
  | true =>
      have ordered := Number.isSome_compare? (.float elapsed) settings.slowThreshold
      change _ = (elapsed.isNumber && _) at ordered
      rw [number, threshold, Bool.and_true] at ordered
      obtain ⟨order, compares⟩ := Option.isSome_iff_exists.mp ordered
      unfold isSlow Number.Exceeds Number.holds
      rw [enabled, if_pos rfl, compares]
      cases order <;> simp [bind, Except.bind, pure, Except.pure]

theorem isSlow_of_nowhere (nowhere : settings.slowThreshold = .float .nan) :
    isSlow settings elapsed = .ok settings.recordsSlow.isTruthy := by
  cases enabled : settings.recordsSlow.isTruthy with
  | false => exact isSlow_of_not_enabled enabled
  | true =>
      have unordered : (Number.float elapsed).compare? (.float .nan) = none :=
        Number.compare?_of_not_number (Bool.and_false _)
      unfold isSlow Number.holds
      rw [enabled, nowhere, unordered]
      rfl

end Session
end PooledQuery
