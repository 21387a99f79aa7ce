/-
The bounds of settings.

The default limit is to be at least one, and the threshold for slow statements at least zero.
Either is checked by asking whether it is below its bound, and a float that is no number is
below nothing: of all values that pass the check it is the one that does not keep the bound.
-/
import PooledQuery.Proofs.Settings.Threshold
import PooledQuery.Settings.Environment

namespace PooledQuery

namespace Number

/-- Whether a number is as large as a bound, or larger. -/
def AtLeast (n : Number) (bound : Int) : Prop :=
  n.compare? (.int bound) = some .gt ∨ n.compare? (.int bound) = some .eq

instance (n : Number) (bound : Int) : Decidable (n.AtLeast bound) :=
  inferInstanceAs (Decidable (_ ∨ _))

theorem AtLeast.isNumber {n : Number} {bound : Int} (atLeast : n.AtLeast bound) :
    n.isNumber = true := by
  have compares := isSome_compare? n (.int bound)
  have answered : (n.compare? (.int bound)).isSome = true := by
    rcases atLeast with above | same
    · rw [above]
      rfl
    · rw [same]
      rfl
  rw [answered] at compares
  exact (Bool.and_eq_true_iff.mp compares.symm).1

theorem not_atLeast_nan (bound : Int) : ¬ (Number.float .nan).AtLeast bound := by
  intro atLeast
  cases atLeast.isNumber

theorem atLeast_iff_of_not_less {n : Number} {bound : Int}
    (notBelow : n.holds .less (.int bound) = .ok false) : n.AtLeast bound ↔ n ≠ .float .nan := by
  constructor
  · rintro atLeast rfl
    exact not_atLeast_nan bound atLeast
  · intro proper
    have compares := isSome_compare? n (.int bound)
    unfold holds at notBelow
    unfold AtLeast
    cases comes : n.compare? (.int bound) with
    | some order =>
        rw [comes] at notBelow
        cases order with
        | lt => cases notBelow
        | eq => exact .inr rfl
        | gt => exact .inl rfl
    | none =>
        -- Of the values without a place in the order, a decimal has not passed the check.
        rw [comes] at notBelow compares
        cases n with
        | bool b => cases compares
        | int m => cases compares
        | decimal d => cases notBelow
        | float x =>
            cases x with
            | nan => exact absurd rfl proper
            | infinite negative => cases compares
            | finite negative significand exponent canonical => cases compares

end Number

theorem Echo.ofName_name (echo : Echo) : Echo.ofName (.text echo.name) = .ok echo := by
  cases echo <;> rfl

namespace Settings

/-- Settings that keep their bounds, but for floats that are no numbers. -/
structure Bounded (settings : Settings) : Prop where
  limit : settings.defaultLimit.AtLeast 1 ↔ settings.defaultLimit ≠ .float .nan
  threshold : settings.slowThreshold.AtLeast 0 ↔ settings.slowThreshold ≠ .float .nan
  level : Echo.ofName (.text settings.echo.name) = .ok settings.echo

theorem Draft.settle_bounded {draft : Draft} {settings : Settings}
    (settles : draft.settle = .ok settings) : settings.Bounded := by
  obtain ⟨echo, named, settles⟩ := Failure.bind_ok settles
  obtain ⟨defaultLimit, limited, settles⟩ := Failure.bind_ok settles
  obtain ⟨slowThreshold, passed, settles⟩ := Failure.bind_ok settles
  cases settles
  exact {
    limit := Number.atLeast_iff_of_not_less (holds_of_notBelow limited)
    threshold := Number.atLeast_iff_of_not_less (holds_of_notBelow passed)
    level := Echo.ofName_name echo }

theorem Draft.settleWith_bounded {environment : Environment} {stem : Text} {overrides : Draft}
    {settings : Settings} (settles : Draft.settleWith environment stem overrides = .ok settings) :
    settings.Bounded := by
  obtain ⟨draft, _given, settles⟩ := Failure.bind_ok settles
  exact Draft.settle_bounded settles

end Settings
end PooledQuery
