/-
Actions that do not depend on how a session is fitted out.

A refit of a world changes the settings, the transform or the log of slow statements, but
neither the collaborators, the leases and the sink nor which statements are ignored.  An
action is indifferent to a change if it does the same before and after it and leaves it
alone.  All work with the collaborators is indifferent to every refit.
-/
import PooledQuery.Proofs.Session.Execution
import PooledQuery.Proofs.Session.Trace
import PooledQuery.Session.Run

namespace PooledQuery

variable {σ α β : Type}

/-- The action does the same before and after the change and leaves the change alone, and
every event is of the class. -/
structure Action.Indifferent (change : σ → σ) (allowed : Event → Prop) (action : Action σ α) :
    Prop where
  same : ∀ state, action (change state) =
    ⟨(action state).outcome, change (action state).state, (action state).events⟩
  events : ∀ state, ∀ event ∈ (action state).events, allowed event

namespace Action.Indifferent

variable {change : σ → σ} {allowed : Event → Prop}

theorem ofExcept (outcome : Except Failure α) :
    Indifferent change allowed (Action.ofExcept outcome) where
  same := fun _state => rfl
  events := fun _state _event member => nomatch member

theorem pure (result : α) : Indifferent change allowed (Pure.pure result : Action σ α) :=
  ofExcept (.ok result)

theorem fail (failure : Failure) : Indifferent change allowed (Action.fail failure : Action σ α) :=
  ofExcept (.error failure)

theorem emitAll {events : List Event} (all : ∀ event ∈ events, allowed event) :
    Indifferent change allowed (Action.emitAll events) where
  same := fun _state => rfl
  events := fun _state => all

theorem emit {event : Event} (one : allowed event) :
    Indifferent change allowed (Action.emit event) :=
  emitAll (List.forall_mem_singleton.mpr one)

theorem update {other : σ → σ} (commutes : ∀ state, other (change state) = change (other state)) :
    Indifferent change allowed (Action.update other) where
  same := fun state => congrArg (Execution.mk _ · _) (commutes state)
  events := fun _state _event member => nomatch member

theorem readThen {next : σ → Action σ α} (blind : ∀ state, next (change state) = next state)
    (follows : ∀ state, Indifferent change allowed (next state)) :
    Indifferent change allowed (Action.read >>= next) where
  same := by
    intro state
    rw [read_bind, read_bind, blind]
    exact (follows state).same state
  events := fun state => (follows state).events state

theorem bind {first : Action σ α} {next : α → Action σ β}
    (indifferent : Indifferent change allowed first)
    (follows : ∀ result, Indifferent change allowed (next result)) :
    Indifferent change allowed (first >>= next) where
  same := by
    intro state
    have head := indifferent.same state
    cases outcome : (first state).outcome with
    | ok result =>
        rw [bind_of_ok first next state result outcome,
          bind_of_ok first next _ result (by rw [head]; exact outcome), head]
        dsimp only
        rw [(follows result).same]
    | error failure =>
        rw [bind_of_error first next state failure outcome,
          bind_of_error first next _ failure (by rw [head]; exact outcome), head]
  events := by
    intro state event member
    cases outcome : (first state).outcome with
    | ok result =>
        rw [bind_of_ok first next state result outcome] at member
        rcases List.mem_append.mp member with earlier | later
        · exact indifferent.events state event earlier
        · exact (follows result).events _ event later
    | error failure =>
        rw [bind_of_error first next state failure outcome] at member
        exact indifferent.events state event member

theorem attempt {action : Action σ α} (indifferent : Indifferent change allowed action) :
    Indifferent change allowed (Action.attempt action) where
  same := by
    intro state
    unfold Action.attempt
    rw [indifferent.same]
  events := indifferent.events

theorem thenAlways {action : Action σ α} {cleanup : Action σ Unit}
    (indifferent : Indifferent change allowed action)
    (cleans : Indifferent change allowed cleanup) :
    Indifferent change allowed (Action.thenAlways action cleanup) :=
  indifferent.attempt.bind fun outcome => cleans.bind fun _cleaned => ofExcept outcome

end Action.Indifferent

/-! ### Refits -/

/-- A change of worlds that work with the collaborators does not meet. -/
structure World.Refits (change : World σ → World σ) : Prop where
  collaborators : ∀ world, (change world).collaborators = world.collaborators
  leases : ∀ world, (change world).leases = world.leases
  sink : ∀ world, (change world).sink = world.sink
  ignoreMarker : ∀ world, (change world).settings.ignoreMarker = world.settings.ignoreMarker
  setCollaborators : ∀ world state,
    change { world with collaborators := state } = { change world with collaborators := state }
  setLeases : ∀ world leases,
    change { world with leases := leases } = { change world with leases := leases }

namespace World

variable {change : World σ → World σ} {allowed : Event → Prop} (refits : Refits change)

include refits

theorem Refits.lease (world : World σ) (id : LeaseId) :
    (change world).lease id = world.lease id := by
  unfold World.lease
  rw [refits.leases]

theorem Refits.ignores (world : World σ) (sql : Text) :
    (change world).settings.ignores sql = world.settings.ignores sql := by
  unfold Settings.ignores
  rw [refits.ignoreMarker]

theorem perform_indifferent (effect : Effect σ α) :
    Action.Indifferent change allowed (World.perform effect) where
  same := by
    intro world
    unfold World.perform
    rw [refits.collaborators]
    exact congrArg (Execution.mk _ · _) (refits.setCollaborators world _).symm
  events := fun _world _event member => nomatch member

theorem call_indifferent {event : Event} (one : allowed event) (effect : Effect σ α) :
    Action.Indifferent change allowed (World.call event effect) :=
  (Action.Indifferent.emit one).bind fun _emitted => perform_indifferent refits effect

theorem callIfPresent_indifferent {event : Event} (one : allowed event) (hook : Hook σ) :
    Action.Indifferent change allowed (World.callIfPresent event hook) := by
  cases hook with
  | absent => exact Action.Indifferent.pure false
  | notCallable => exact Action.Indifferent.pure false
  | callable deferred effect =>
      exact (call_indifferent refits one effect).bind fun _called => Action.Indifferent.pure true

theorem updateLease_indifferent (id : LeaseId) (other : Lease → Lease) :
    Action.Indifferent change allowed (World.updateLease id other : Action (World σ) Unit) := by
  refine Action.Indifferent.update fun world => Eq.trans ?_ (refits.setLeases world _).symm
  rw [refits.leases]

theorem addLease_indifferent (transactional : Bool) :
    Action.Indifferent change allowed (World.addLease transactional) where
  same := by
    intro world
    unfold World.addLease
    rw [refits.leases]
    exact congrArg (Execution.mk _ · _) (refits.setLeases world _).symm
  events := fun _world _event member => nomatch member

end World

/-! ### Work with the collaborators -/

section Work

variable {change : World σ → World σ} {allowed : Event → Prop} (refits : World.Refits change)
  (outward : ∀ event : Event, event.isOutward = true → allowed event)

include refits

theorem Lease.requireOpen_indifferent (id : LeaseId) :
    Action.Indifferent change allowed (Lease.requireOpen id) := by
  unfold Lease.requireOpen
  refine Action.Indifferent.readThen (fun world => by rw [refits.lease]) fun world => ?_
  split
  · exact Action.Indifferent.pure ()
  · exact Action.Indifferent.fail .connectionClosed

include outward

namespace World

theorem report_indifferent (statement : FailedStatement) :
    Action.Indifferent change allowed (World.report statement) := by
  unfold World.report
  refine Action.Indifferent.readThen (fun world => by rw [refits.sink]) fun world => ?_
  cases world.sink with
  | discard => exact Action.Indifferent.pure ()
  | report respond =>
      exact (Action.Indifferent.emit (outward _ rfl)).bind fun _emitted =>
        Action.Indifferent.ofExcept _

private theorem reportAll_indifferent (statements : List FailedStatement) :
    Action.Indifferent change allowed (World.reportAll statements) := by
  induction statements with
  | nil => exact Action.Indifferent.pure ()
  | cons statement rest ih =>
      exact (report_indifferent refits outward statement).bind fun _reported => ih

end World

namespace Lease

variable (pool : Pool σ) (driver : Driver σ) (dialect : Dialect) (id : LeaseId)

theorem begin_indifferent : Action.Indifferent change allowed (begin driver dialect id) := by
  unfold begin
  refine (requireOpen_indifferent refits id).bind fun _passed => ?_
  refine (World.callIfPresent_indifferent refits (outward _ rfl) driver.begin).bind fun begun => ?_
  split
  · exact Action.Indifferent.pure ()
  · refine (World.callIfPresent_indifferent refits (outward _ rfl) driver.beginTransaction).bind
      fun begun => ?_
    split
    · exact Action.Indifferent.pure ()
    · split
      · exact World.call_indifferent refits (outward _ rfl) _
      · exact Action.Indifferent.pure ()

theorem commit_indifferent : Action.Indifferent change allowed (commit driver id) :=
  (requireOpen_indifferent refits id).bind fun _passed =>
    World.call_indifferent refits (outward _ rfl) driver.commit

private theorem rollback_indifferent : Action.Indifferent change allowed (rollback driver id) :=
  (requireOpen_indifferent refits id).bind fun _passed =>
    World.call_indifferent refits (outward _ rfl) driver.rollback

private theorem executeOnCursor_indifferent (sql : Text) (params : List Value) :
    Action.Indifferent change allowed (executeOnCursor driver sql params) := by
  unfold executeOnCursor
  refine (World.call_indifferent refits (outward _ rfl) _).bind fun cursor => ?_
  split
  · refine (World.perform_indifferent refits driver.fetch).bind fun rows => ?_
    exact (Action.Indifferent.ofExcept _).bind fun tables => Action.Indifferent.pure _
  · exact Action.Indifferent.pure _

theorem execute_indifferent (sql : Text) (params : List Value) :
    Action.Indifferent change allowed (execute driver id sql params) := by
  unfold execute
  refine (requireOpen_indifferent refits id).bind fun _passed => ?_
  refine (World.perform_indifferent refits driver.openCursor).bind fun _opened => ?_
  refine (executeOnCursor_indifferent refits outward driver sql params).thenAlways ?_
  exact (World.callIfPresent_indifferent refits (outward _ rfl) driver.closeCursor).bind
    fun _closed => Action.Indifferent.pure ()

theorem release_indifferent : Action.Indifferent change allowed (release pool driver id) := by
  unfold release
  refine Action.Indifferent.readThen (fun world => by rw [refits.lease]) fun world => ?_
  split
  · refine (World.updateLease_indifferent refits id _).bind fun _closed => ?_
    refine (World.callIfPresent_indifferent refits (outward _ rfl) pool.release).bind
      fun released => ?_
    split
    · exact Action.Indifferent.pure ()
    · refine (World.callIfPresent_indifferent refits (outward _ rfl) driver.release).bind
        fun released => ?_
      split
      · exact Action.Indifferent.pure ()
      · exact Action.Indifferent.fail .noReleaseRoute
  · exact Action.Indifferent.pure ()

end Lease

namespace Session

variable (session : Session σ)

theorem acquire_indifferent : Action.Indifferent change allowed session.acquire := by
  unfold Session.acquire
  cases session.pool.acquire with
  | absent => exact Action.Indifferent.fail _
  | notCallable => exact Action.Indifferent.fail _
  | callable deferred effect => exact World.call_indifferent refits (outward _ rfl) effect

theorem abandon_indifferent (id : LeaseId) :
    Action.Indifferent change allowed (session.abandon id) := by
  refine (Lease.rollback_indifferent refits outward session.driver id).bind fun _back => ?_
  refine Action.Indifferent.readThen (fun world => ?_) fun world =>
    World.reportAll_indifferent refits outward (world.lease id).failed
  rw [refits.lease]

theorem keepFailure_indifferent (id : LeaseId) (sql : Text) (params : List Value) :
    Action.Indifferent change allowed (keepFailure id sql params) := by
  unfold keepFailure
  refine Action.Indifferent.readThen (fun world => ?_) fun world => ?_
  · rw [refits.ignores, refits.lease]
  · refine (Action.Indifferent.ofExcept _).bind fun ignored => ?_
    split
    · exact Action.Indifferent.pure ()
    · split
      · exact World.updateLease_indifferent refits id _
      · exact World.report_indifferent refits outward (sql, params)

omit outward in
theorem now_indifferent : Action.Indifferent change allowed session.now :=
  Action.Indifferent.readThen (fun world => by rw [refits.collaborators]) fun _world =>
    Action.Indifferent.pure _

end Session
end Work
end PooledQuery
