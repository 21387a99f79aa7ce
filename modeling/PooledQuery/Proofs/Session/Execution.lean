/-
Executions of composed actions.

There is one equation for each way of composing actions.  What an action leaves alone is a
frame, a preorder on states; together with a class of events it bounds what the action
does.  The bounds compose in the same ways as the actions.
-/
import PooledQuery.Session.Action

namespace PooledQuery

/-- A relation between the states before and after an action that composes. -/
structure Frame (σ : Type) where
  relates : σ → σ → Prop
  refl : ∀ state, relates state state
  trans : ∀ {first second third}, relates first second → relates second third →
    relates first third

namespace Action

variable {σ α β : Type}

theorem bind_of_ok (first : Action σ α) (next : α → Action σ β) (state : σ) (result : α)
    (succeeded : (first state).outcome = .ok result) :
    (first >>= next) state =
      { outcome := (next result (first state).state).outcome
        state := (next result (first state).state).state
        events := (first state).events ++ (next result (first state).state).events } := by
  change andThen first next state = _
  unfold andThen
  simp only [succeeded]

theorem bind_of_error (first : Action σ α) (next : α → Action σ β) (state : σ)
    (failure : Failure) (failed : (first state).outcome = .error failure) :
    (first >>= next) state =
      { outcome := .error failure
        state := (first state).state
        events := (first state).events } := by
  change andThen first next state = _
  unfold andThen
  simp only [failed]

theorem read_bind (next : σ → Action σ β) (state : σ) :
    (read >>= next) state = next state state := rfl

theorem bind_pure (first : Action σ α) (result : β) (state : σ) :
    (first >>= fun _done => pure result) state =
      { outcome := (first state).outcome.map fun _done => result
        state := (first state).state
        events := (first state).events } := by
  cases outcome : (first state).outcome with
  | ok done =>
      rw [bind_of_ok first _ state done outcome]
      change Execution.mk _ _ ((first state).events ++ []) = _
      rw [List.append_nil]
      rfl
  | error failure =>
      rw [bind_of_error first _ state failure outcome]
      rfl

theorem bind_fail (first : Action σ α) (failure : Failure) (state : σ) :
    (first >>= fun _done => (fail failure : Action σ β)) state =
      { outcome := (first state).outcome.bind fun _done => .error failure
        state := (first state).state
        events := (first state).events } := by
  cases outcome : (first state).outcome with
  | ok done =>
      rw [bind_of_ok first _ state done outcome]
      change Execution.mk _ _ ((first state).events ++ []) = _
      rw [List.append_nil]
      rfl
  | error other =>
      rw [bind_of_error first _ state other outcome]
      rfl

theorem ofExcept_ok_bind (result : α) (next : α → Action σ β) (state : σ) :
    (ofExcept (.ok result) >>= next) state = next result state := rfl

theorem ofExcept_error_bind (failure : Failure) (next : α → Action σ β) (state : σ) :
    (ofExcept (.error failure) >>= next) state = fail failure state := rfl

theorem attempt_bind (action : Action σ α) (next : Except Failure α → Action σ β) (state : σ) :
    (attempt action >>= next) state =
      { outcome := (next (action state).outcome (action state).state).outcome
        state := (next (action state).outcome (action state).state).state
        events := (action state).events ++
          (next (action state).outcome (action state).state).events } := rfl

private theorem thenAlways_of_ok (action : Action σ α) (cleanup : Action σ Unit) (state : σ)
    (cleaned : (cleanup (action state).state).outcome = .ok ()) :
    thenAlways action cleanup state =
      { outcome := (action state).outcome
        state := (cleanup (action state).state).state
        events := (action state).events ++ (cleanup (action state).state).events } := by
  unfold thenAlways
  rw [attempt_bind, bind_of_ok cleanup _ _ () cleaned]
  simp only [ofExcept, List.append_nil]

private theorem thenAlways_of_error (action : Action σ α) (cleanup : Action σ Unit) (state : σ)
    (failure : Failure) (failed : (cleanup (action state).state).outcome = .error failure) :
    thenAlways action cleanup state =
      { outcome := .error failure
        state := (cleanup (action state).state).state
        events := (action state).events ++ (cleanup (action state).state).events } := by
  unfold thenAlways
  rw [attempt_bind, bind_of_error cleanup _ _ failure failed]

theorem thenAlways_run (action : Action σ α) (cleanup : Action σ Unit) (state : σ) :
    thenAlways action cleanup state =
      { outcome := (cleanup (action state).state).outcome.bind fun _cleaned => (action state).outcome
        state := (cleanup (action state).state).state
        events := (action state).events ++ (cleanup (action state).state).events } := by
  cases cleaned : (cleanup (action state).state).outcome with
  | ok result =>
      rw [thenAlways_of_ok action cleanup state cleaned]
      rfl
  | error failure =>
      rw [thenAlways_of_error action cleanup state failure cleaned]
      rfl

/-- Whatever state an action starts in, its frame relates that state to the final one, and
every event is of the class. -/
structure Within (frame : Frame σ) (allowed : Event → Prop) (action : Action σ α) : Prop where
  state : ∀ start, frame.relates start (action start).state
  events : ∀ start, ∀ event ∈ (action start).events, allowed event

namespace Within

variable {frame : Frame σ} {allowed : Event → Prop}

theorem of_each {action : Action σ α}
    (each : ∀ start, frame.relates start (action start).state ∧
      ∀ event ∈ (action start).events, allowed event) :
    Within frame allowed action :=
  ⟨fun start => (each start).1, fun start => (each start).2⟩

theorem ofExcept (outcome : Except Failure α) : Within frame allowed (Action.ofExcept outcome) where
  state := frame.refl
  events := by
    intro start event member
    cases member

theorem pure (result : α) : Within frame allowed (Pure.pure result : Action σ α) :=
  ofExcept (.ok result)

theorem fail (failure : Failure) : Within frame allowed (Action.fail failure : Action σ α) :=
  ofExcept (.error failure)

theorem read : Within frame allowed (Action.read : Action σ σ) where
  state := frame.refl
  events := by
    intro start event member
    cases member

theorem emitAll (events : List Event) (all : ∀ event ∈ events, allowed event) :
    Within frame allowed (Action.emitAll events) where
  state := frame.refl
  events := fun _start => all

theorem emit (event : Event) (one : allowed event) : Within frame allowed (Action.emit event) :=
  emitAll [event] (by
    intro other member
    rw [List.mem_singleton.mp member]
    exact one)

theorem update (change : σ → σ) (kept : ∀ state, frame.relates state (change state)) :
    Within frame allowed (Action.update change) where
  state := kept
  events := by
    intro start event member
    cases member

theorem bind {first : Action σ α} {next : α → Action σ β} (bounded : Within frame allowed first)
    (follows : ∀ result, Within frame allowed (next result)) :
    Within frame allowed (first >>= next) where
  state := by
    intro start
    cases outcome : (first start).outcome with
    | ok result =>
        rw [bind_of_ok first next start result outcome]
        exact frame.trans (bounded.state start) ((follows result).state _)
    | error failure =>
        rw [bind_of_error first next start failure outcome]
        exact bounded.state start
  events := by
    intro start event member
    cases outcome : (first start).outcome with
    | ok result =>
        rw [bind_of_ok first next start result outcome] at member
        rcases List.mem_append.mp member with earlier | later
        · exact bounded.events start event earlier
        · exact (follows result).events _ event later
    | error failure =>
        rw [bind_of_error first next start failure outcome] at member
        exact bounded.events start event member

theorem attempt {action : Action σ α} (bounded : Within frame allowed action) :
    Within frame allowed (Action.attempt action) where
  state := bounded.state
  events := bounded.events

theorem thenAlways {action : Action σ α} {cleanup : Action σ Unit}
    (bounded : Within frame allowed action) (cleans : Within frame allowed cleanup) :
    Within frame allowed (Action.thenAlways action cleanup) :=
  bounded.attempt.bind fun outcome => cleans.bind fun _done => ofExcept outcome

theorem widen {action : Action σ α} {wider : Event → Prop}
    (bounded : Within frame allowed action) (weaker : ∀ event, allowed event → wider event) :
    Within frame wider action where
  state := bounded.state
  events := fun start event member => weaker event (bounded.events start event member)

theorem enlarge {action : Action σ α} {larger : Frame σ} (bounded : Within frame allowed action)
    (weaker : ∀ {before after}, frame.relates before after → larger.relates before after) :
    Within larger allowed action where
  state := fun start => weaker (bounded.state start)
  events := bounded.events

end Within

/-- If the action succeeds, its result has the property. -/
def Ensures (property : α → Prop) (action : Action σ α) : Prop :=
  ∀ state result, (action state).outcome = .ok result → property result

namespace Ensures

variable {property : α → Prop}

theorem pure {result : α} (holds : property result) :
    Ensures property (Pure.pure result : Action σ α) := by
  intro state other succeeds
  cases succeeds
  exact holds

theorem bind {first : Action σ β} {next : β → Action σ α}
    (follows : ∀ result, Ensures property (next result)) : Ensures property (first >>= next) := by
  intro state result succeeds
  cases outcome : (first state).outcome with
  | ok middle =>
      rw [bind_of_ok first next state middle outcome] at succeeds
      exact follows middle _ result succeeds
  | error failure =>
      rw [bind_of_error first next state failure outcome] at succeeds
      cases succeeds

theorem thenAlways {action : Action σ α} (ensures : Ensures property action)
    (cleanup : Action σ Unit) : Ensures property (Action.thenAlways action cleanup) := by
  intro state result succeeds
  rw [thenAlways_run] at succeeds
  dsimp only at succeeds
  cases cleaned : (cleanup (action state).state).outcome with
  | ok done =>
      rw [cleaned] at succeeds
      exact ensures state result succeeds
  | error failure =>
      rw [cleaned] at succeeds
      cases succeeds

end Ensures
end Action
end PooledQuery
