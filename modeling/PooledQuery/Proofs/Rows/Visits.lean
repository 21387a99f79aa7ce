/-
What visits of fields come to.

A visit keeps the calls that it makes.  Whatever was called before, it may be known to
come to an outcome or to yield a result, a result may be known to have a property if there
is one, and the calls that are added may be known beside the outcome.  All these kinds of
knowledge compose as visits do.
-/
import PooledQuery.Rows.Fields

namespace PooledQuery.Visit

variable {α β : Type}

theorem run_bind_of_ok (visit : Visit α) (next : α → Visit β) (calls later : List FieldCall)
    (result : α) (succeeds : visit.run.run calls = (.ok result, later)) :
    (visit >>= next).run.run calls = (next result).run.run later := by
  rw [ExceptT.run_bind, StateT.run_bind, succeeds]
  rfl

theorem run_bind_of_error (visit : Visit α) (next : α → Visit β) (calls later : List FieldCall)
    (failure : Failure) (fails : visit.run.run calls = (.error failure, later)) :
    (visit >>= next).run.run calls = (.error failure, later) := by
  rw [ExceptT.run_bind, StateT.run_bind, fails]
  rfl

theorem outcome_returning (visit : Visit α) (wrap : α → β) :
    (do return wrap (← visit) : Visit β).outcome.1 = visit.outcome.1.map wrap := by
  unfold outcome
  cases ran : visit.run.run [] with
  | mk result calls =>
      cases result with
      | ok result =>
          rw [run_bind_of_ok visit _ [] calls result ran]
          rfl
      | error failure =>
          rw [run_bind_of_error visit _ [] calls failure ran]
          rfl

/-- The visit succeeds with this result. -/
def Yields (visit : Visit α) (result : α) : Prop :=
  ∀ calls, ∃ later, visit.run.run calls = (.ok result, later)

/-- Whatever was called before, the visit has this outcome. -/
def ComesTo (visit : Visit α) (outcome : Except Failure α) : Prop :=
  ∀ calls, ∃ later, visit.run.run calls = (outcome, later)

/-- The visit adds calls to those made before, and its outcome and these calls have the
property. -/
def Traces (visit : Visit α) (property : Except Failure α → List FieldCall → Prop) : Prop :=
  ∀ calls, ∃ outcome made,
    visit.run.run calls = (outcome, made.reverse ++ calls) ∧ property outcome made

/-- If the visit succeeds, its result has the property. -/
def Ensures (visit : Visit α) (property : α → Prop) : Prop :=
  ∀ calls later result, visit.run.run calls = (.ok result, later) → property result

namespace Yields

theorem pure (result : α) : Yields (Pure.pure result) result :=
  fun calls => ⟨calls, rfl⟩

theorem ofExcept {outcome : Except Failure α} {result : α} (succeeds : outcome = .ok result) :
    Yields (Visit.ofExcept outcome) result := by
  intro calls
  subst succeeds
  exact ⟨calls, rfl⟩

theorem call {transform : Transform} {name : Text} {value answer : Value}
    (answers : transform.apply name value = .ok answer) :
    Yields (Visit.call transform name value) answer := by
  intro calls
  unfold Visit.call
  rw [answers]
  exact ⟨_, rfl⟩

theorem bind {visit : Visit α} {next : α → Visit β} {first : α} {second : β}
    (yields : Yields visit first) (follows : Yields (next first) second) :
    Yields (visit >>= next) second := by
  intro calls
  obtain ⟨later, succeeds⟩ := yields calls
  rw [run_bind_of_ok visit next calls later first succeeds]
  exact follows later

theorem outcome {visit : Visit α} {result : α} (yields : Yields visit result) :
    visit.outcome.1 = .ok result := by
  obtain ⟨later, succeeds⟩ := yields []
  unfold Visit.outcome
  rw [succeeds]

end Yields

namespace ComesTo

theorem ofExcept (outcome : Except Failure α) : ComesTo (Visit.ofExcept outcome) outcome :=
  fun calls => ⟨calls, rfl⟩

theorem call {transform : Transform} {name : Text} {value : Value} :
    ComesTo (Visit.call transform name value) (transform.apply name value) :=
  fun calls => ⟨(name, value) :: calls, rfl⟩

theorem bind {visit : Visit α} {next : α → Visit β} {first : Except Failure α}
    {second : α → Except Failure β} (comes : ComesTo visit first)
    (follows : ∀ result, first = .ok result → ComesTo (next result) (second result)) :
    ComesTo (visit >>= next) (first >>= second) := by
  intro calls
  obtain ⟨later, ran⟩ := comes calls
  cases first with
  | ok result =>
      rw [run_bind_of_ok visit next calls later result ran]
      exact follows result rfl later
  | error failure =>
      rw [run_bind_of_error visit next calls later failure ran]
      exact ⟨later, rfl⟩

theorem returning {visit : Visit α} {outcome : Except Failure α} (comes : ComesTo visit outcome)
    (wrap : α → β) : ComesTo (do return wrap (← visit)) (do return wrap (← outcome)) :=
  comes.bind fun result _succeeds => ofExcept (.ok (wrap result))

theorem outcome {visit : Visit α} {outcome : Except Failure α} (comes : ComesTo visit outcome) :
    visit.outcome.1 = outcome := by
  obtain ⟨later, ran⟩ := comes []
  unfold Visit.outcome
  rw [ran]

end ComesTo

namespace Traces

variable {property : Except Failure α → List FieldCall → Prop}

theorem pure {result : α} (holds : property (.ok result) []) :
    Traces (Pure.pure result) property :=
  fun _calls => ⟨.ok result, [], rfl, holds⟩

theorem throw {failure : Failure} (holds : property (.error failure) []) :
    Traces (MonadExcept.throw failure : Visit α) property :=
  fun _calls => ⟨.error failure, [], rfl, holds⟩

theorem ofExcept {outcome : Except Failure α} (holds : property outcome []) :
    Traces (Visit.ofExcept outcome) property :=
  fun _calls => ⟨outcome, [], rfl, holds⟩

theorem call {transform : Transform} {name : Text} {value : Value}
    {property : Except Failure Value → List FieldCall → Prop}
    (holds : property (transform.apply name value) [(name, value)]) :
    Traces (Visit.call transform name value) property :=
  fun _calls => ⟨transform.apply name value, [(name, value)], rfl, holds⟩

theorem bind {visit : Visit α} {next : α → Visit β}
    {reached : Except Failure β → List FieldCall → Prop} (traces : Traces visit property)
    (stops : ∀ failure made, property (.error failure) made → reached (.error failure) made)
    (follows : ∀ result made, property (.ok result) made →
      Traces (next result) fun outcome later => reached outcome (made ++ later)) :
    Traces (visit >>= next) reached := by
  intro calls
  obtain ⟨outcome, made, ran, holds⟩ := traces calls
  cases outcome with
  | ok result =>
      obtain ⟨last, later, ends, reaches⟩ := follows result made holds (made.reverse ++ calls)
      refine ⟨last, made ++ later, ?_, reaches⟩
      rw [run_bind_of_ok visit next calls _ result ran, ends, List.reverse_append,
        List.append_assoc]
  | error failure =>
      exact ⟨.error failure, made, run_bind_of_error visit next calls _ failure ran,
        stops failure made holds⟩

theorem mono {visit : Visit α} {other : Except Failure α → List FieldCall → Prop}
    (traces : Traces visit property)
    (implies : ∀ outcome made, property outcome made → other outcome made) :
    Traces visit other := by
  intro calls
  obtain ⟨outcome, made, ran, holds⟩ := traces calls
  exact ⟨outcome, made, ran, implies outcome made holds⟩

theorem returning {visit : Visit α} {property : Bool → List FieldCall → Prop}
    (traces : Traces visit fun outcome made => property outcome.isOk made) (wrap : α → β) :
    Traces (do return wrap (← visit)) fun outcome made => property outcome.isOk made :=
  traces.bind (fun _failure _made holds => holds) fun _result made holds =>
    pure (by rw [List.append_nil]; exact holds)

theorem outcome {visit : Visit α} (traces : Traces visit property) :
    property visit.outcome.1 visit.outcome.2 := by
  obtain ⟨last, made, ran, holds⟩ := traces []
  unfold Visit.outcome
  rw [ran, List.append_nil]
  dsimp only
  rw [List.reverse_reverse]
  exact holds

end Traces

namespace Ensures

variable {property : α → Prop}

theorem anything (visit : Visit α) : Ensures visit fun _result => True :=
  fun _calls _later _result _succeeds => trivial

theorem pure {result : α} (holds : property result) : Ensures (Pure.pure result) property := by
  intro calls later other succeeds
  cases succeeds
  exact holds

theorem throw (failure : Failure) : Ensures (MonadExcept.throw failure : Visit α) property := by
  intro calls later result succeeds
  cases succeeds

theorem ofExcept {outcome : Except Failure α} (holds : ∀ result, outcome = .ok result →
    property result) : Ensures (Visit.ofExcept outcome) property := by
  intro calls later result succeeds
  cases succeeds
  exact holds result rfl

theorem call {transform : Transform} {name : Text} {value : Value} {property : Value → Prop}
    (holds : ∀ answer, transform.apply name value = .ok answer → property answer) :
    Ensures (Visit.call transform name value) property := by
  intro calls later answer succeeds
  unfold Visit.call at succeeds
  cases answered : transform.apply name value with
  | ok other =>
      rw [answered] at succeeds
      cases succeeds
      exact holds answer answered
  | error failure =>
      rw [answered] at succeeds
      cases succeeds

theorem bind {visit : Visit α} {next : α → Visit β} {reached : β → Prop}
    (ensures : Ensures visit property) (follows : ∀ result, property result →
      Ensures (next result) reached) : Ensures (visit >>= next) reached := by
  intro calls later result succeeds
  cases ran : visit.run.run calls with
  | mk outcome middle =>
      cases outcome with
      | ok first =>
          rw [run_bind_of_ok visit next calls middle first ran] at succeeds
          exact follows first (ensures calls middle first ran) middle later result succeeds
      | error failure =>
          rw [run_bind_of_error visit next calls middle failure ran] at succeeds
          cases succeeds

theorem outcome {visit : Visit α} {result : α} (ensures : Ensures visit property)
    (succeeds : visit.outcome.1 = .ok result) : property result := by
  unfold Visit.outcome at succeeds
  cases ran : visit.run.run [] with
  | mk outcome later =>
      rw [ran] at succeeds
      subst succeeds
      exact ensures [] later result ran

end Ensures
end PooledQuery.Visit
