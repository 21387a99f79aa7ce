/-
What operations on a lease can do.

Operations of the collaborators leave the session's own standing alone: its settings, its
transform, its sink and its leases.  On an open lease commit and rollback are one call
each; beginning and executing are bounded by their classes of events; and giving the
connection back is a call of the pool, or else of the connection, if either can be called.
-/
import PooledQuery.Proofs.Session.Execution
import PooledQuery.Proofs.Session.Trace
import PooledQuery.Session.Lease

namespace PooledQuery

variable {σ α : Type}

namespace World

/-- Two worlds with the same settings, transform, sink and leases. -/
structure Steady (before after : World σ) : Prop where
  settings : after.settings = before.settings
  transform : after.transform = before.transform
  sink : after.sink = before.sink
  leases : after.leases = before.leases

/-- The frame of actions that change the collaborators and the log of slow statements only. -/
def steady : Frame (World σ) where
  relates := Steady
  refl := fun _world => ⟨rfl, rfl, rfl, rfl⟩
  trans := fun former latter =>
    ⟨latter.settings.trans former.settings, latter.transform.trans former.transform,
      latter.sink.trans former.sink, latter.leases.trans former.leases⟩

theorem Steady.lease {before after : World σ} (same : Steady before after) (id : LeaseId) :
    after.lease id = before.lease id := by
  unfold World.lease
  rw [same.leases]

/-- The frame of actions that leave every lease but one alone. -/
def elsewhere (id : LeaseId) : Frame (World σ) where
  relates := fun before after => ∀ other, other ≠ id → after.lease other = before.lease other
  refl := fun _world _other _different => rfl
  trans := fun former latter other different =>
    (latter other different).trans (former other different)

theorem lease_modify_other (world : World σ) (id other : LeaseId) (change : Lease → Lease)
    (different : other ≠ id) :
    World.lease { world with leases := world.leases.modify id change } other =
      world.lease other := by
  unfold World.lease
  simp only [List.getD_eq_getElem?_getD, List.getElem?_modify_ne _ _ (Ne.symm different)]

variable {allowed : Event → Prop}

theorem perform_within (effect : Effect σ α) :
    Action.Within steady allowed (World.perform effect) where
  state := fun _world => ⟨rfl, rfl, rfl, rfl⟩
  events := by
    intro world event member
    cases member

theorem call_within (event : Event) (effect : Effect σ α) (one : allowed event) :
    Action.Within steady allowed (World.call event effect) :=
  (Action.Within.emit event one).bind fun _emitted => perform_within effect

theorem callIfPresent_within (event : Event) (hook : Hook σ) (one : allowed event) :
    Action.Within steady allowed (World.callIfPresent event hook) := by
  cases hook with
  | absent => exact Action.Within.pure false
  | notCallable => exact Action.Within.pure false
  | callable deferred effect =>
      exact (call_within event effect one).bind fun _called => Action.Within.pure true

variable {β : Type} {effect : Effect σ α} {next : α → Action (World σ) β}
variable {world : World σ} {later : σ}

theorem perform_bind_of_ok {result : α} (succeeds : effect world.collaborators = (.ok result, later)) :
    (perform effect >>= next) world = next result { world with collaborators := later } := by
  have ran : perform effect world = ⟨.ok result, { world with collaborators := later }, []⟩ := by
    unfold perform
    rw [succeeds]
  rw [Action.bind_of_ok _ _ world result (by rw [ran]), ran]
  rfl

theorem perform_bind_of_error {failure : Failure}
    (fails : effect world.collaborators = (.error failure, later)) :
    (perform effect >>= next) world =
      ⟨.error failure, { world with collaborators := later }, []⟩ := by
  have ran : perform effect world =
      ⟨.error failure, { world with collaborators := later }, []⟩ := by
    unfold perform
    rw [fails]
  rw [Action.bind_of_error _ _ world failure (by rw [ran]), ran]

theorem call_bind (event : Event) :
    (call event effect >>= next) world =
      { outcome := ((perform effect >>= next) world).outcome
        state := ((perform effect >>= next) world).state
        events := event :: ((perform effect >>= next) world).events } := by
  cases ran : (perform effect world).outcome with
  | ok result =>
      rw [Action.bind_of_ok _ next world result ran,
        Action.bind_of_ok (call event effect) next world result ran]
      rfl
  | error failure =>
      rw [Action.bind_of_error _ next world failure ran,
        Action.bind_of_error (call event effect) next world failure ran]
      rfl

end World

/-- Whether there is something to call. -/
def Hook.isCallable : Hook σ → Bool
  | .callable _ _ => true
  | _ => false

/-- The event of calling an optional operation, if it can be called. -/
def Hook.calls (event : Event) (hook : Hook σ) : List Event :=
  if hook.isCallable then [event] else []

theorem Hook.calls_cases (event : Event) (hook : Hook σ) :
    hook.calls event = [event] ∨ hook.calls event = [] := by
  unfold Hook.calls
  cases hook.isCallable with
  | true => exact .inl rfl
  | false => exact .inr rfl

theorem World.call_run (event : Event) (effect : Effect σ α) (world : World σ) :
    World.call event effect world =
      { outcome := (effect world.collaborators).1
        state := { world with collaborators := (effect world.collaborators).2 }
        events := [event] } := rfl

theorem World.callIfPresent_callable (event : Event) (deferred : Bool) (effect : Effect σ Unit)
    (world : World σ) :
    World.callIfPresent event (.callable deferred effect) world =
      { outcome := (effect world.collaborators).1.map fun _called => true
        state := { world with collaborators := (effect world.collaborators).2 }
        events := [event] } :=
  Action.bind_pure (World.call event effect) true world

/-- What comes after an optional operation takes its place when it cannot be called, and is
left out when it can, whether the call succeeds or not. -/
theorem World.callIfPresent_unless (event : Event) (hook : Hook σ) (next : Action (World σ) Unit)
    (world : World σ) :
    (World.callIfPresent event hook >>= fun called =>
        if called = true then pure () else next) world =
      match hook with
      | .callable _ effect => World.call event effect world
      | _ => next world := by
  cases hook with
  | absent => rfl
  | notCallable => rfl
  | callable deferred effect =>
      change _ = World.call event effect world
      have present := World.callIfPresent_callable event deferred effect world
      cases outcome : (effect world.collaborators).1 with
      | ok called =>
          rw [outcome] at present
          rw [Action.bind_of_ok _ _ world true (by rw [present]; rfl), present,
            World.call_run, outcome]
          rfl
      | error failure =>
          rw [outcome] at present
          rw [Action.bind_of_error _ _ world failure (by rw [present]; rfl), present,
            World.call_run, outcome]

namespace Lease

variable (pool : Pool σ) (driver : Driver σ) (dialect : Dialect) (id : LeaseId)

theorem requireOpen_within {allowed : Event → Prop} :
    Action.Within World.steady allowed (requireOpen id : Action (World σ) Unit) := by
  unfold requireOpen
  refine Action.Within.read.bind fun world => ?_
  cases (world.lease id).isOpen with
  | true => exact Action.Within.pure ()
  | false => exact Action.Within.fail .connectionClosed

theorem requireOpen_bind (next : Unit → Action (World σ) α) (world : World σ)
    (isOpen : (world.lease id).isOpen = true) :
    (requireOpen id >>= next) world = next () world := by
  have passed : requireOpen id world = ⟨.ok (), world, []⟩ := by
    unfold requireOpen
    rw [Action.read_bind, isOpen]
    rfl
  rw [Action.bind_of_ok _ next world () (by rw [passed]), passed]
  rfl

theorem commit_of_open (world : World σ) (isOpen : (world.lease id).isOpen = true) :
    commit driver id world = World.call .commit driver.commit world :=
  requireOpen_bind id _ world isOpen

theorem rollback_of_open (world : World σ) (isOpen : (world.lease id).isOpen = true) :
    rollback driver id world = World.call .rollback driver.rollback world :=
  requireOpen_bind id _ world isOpen

theorem commit_within :
    Action.Within World.steady (Event.CallsOneOf [.commit]) (commit driver id) :=
  (requireOpen_within id).bind fun _passed =>
    World.call_within .commit driver.commit ⟨.commit, by decide, rfl⟩

theorem rollback_within :
    Action.Within World.steady (Event.CallsOneOf [.rollback]) (rollback driver id) :=
  (requireOpen_within id).bind fun _passed =>
    World.call_within .rollback driver.rollback
      ⟨.rollback, by decide, rfl⟩

theorem begin_within :
    Action.Within World.steady (Event.CallsOneOf [.begin, .beginTransaction, .direct])
      (begin driver dialect id) := by
  unfold begin
  refine (requireOpen_within id).bind fun _passed => ?_
  refine (World.callIfPresent_within .begin driver.begin
    ⟨.begin, by decide, rfl⟩).bind fun begun => ?_
  cases begun with
  | true => exact Action.Within.pure ()
  | false =>
      refine (World.callIfPresent_within .beginTransaction driver.beginTransaction
        ⟨.beginTransaction, by decide, rfl⟩).bind fun begun => ?_
      cases begun with
      | true => exact Action.Within.pure ()
      | false =>
          cases beginsByStatement driver dialect with
          | true =>
              exact World.call_within _ _ ⟨.direct, by decide, rfl⟩
          | false => exact Action.Within.pure ()

private theorem executeOnCursor_within (sql : Text) (params : List Value) :
    Action.Within World.steady (Event.CallsOneOf [.execute, .close]) (executeOnCursor driver sql params) := by
  unfold executeOnCursor
  refine (World.call_within _ _ ⟨.execute, by decide, rfl⟩).bind fun cursor => ?_
  cases cursor.hasRows with
  | true =>
      refine (World.perform_within driver.fetch).bind fun rows => ?_
      exact (Action.Within.ofExcept _).bind fun tables => Action.Within.pure _
  | false => exact Action.Within.pure _

theorem execute_within (sql : Text) (params : List Value) :
    Action.Within World.steady (Event.CallsOneOf [.execute, .close]) (execute driver id sql params) := by
  unfold execute
  refine (requireOpen_within id).bind fun _passed => ?_
  refine (World.perform_within driver.openCursor).bind fun _opened => ?_
  refine Action.Within.thenAlways (executeOnCursor_within driver sql params) ?_
  exact (World.callIfPresent_within .close driver.closeCursor ⟨.close, by decide, rfl⟩).bind
    fun _closed => Action.Within.pure ()

theorem execute_calls (sql : Text) (params : List Value) (world : World σ) :
    ∀ event ∈ (execute driver id sql params world).events, event.call?.isSome = true :=
  fun event member => ((execute_within driver id sql params).events world event member).isCall

/-- The calls by which a connection is given back: of the pool if it takes connections
back, or else of the connection if it can return itself. -/
def returnEvents : List Event :=
  if pool.release.isCallable then [.release] else driver.release.calls .selfRelease

theorem returnEvents_cases :
    returnEvents pool driver = [.release] ∨ returnEvents pool driver = [.selfRelease] ∨
      returnEvents pool driver = [] := by
  unfold returnEvents
  cases pool.release.isCallable with
  | true => exact .inl rfl
  | false => exact .inr (Hook.calls_cases .selfRelease driver.release)

theorem release_events (world : World σ) (isOpen : (world.lease id).isOpen = true) :
    (release pool driver id world).events = returnEvents pool driver := by
  unfold release returnEvents
  rw [Action.read_bind, isOpen, if_pos rfl, Action.bind_of_ok _ _ world () rfl]
  simp only [World.callIfPresent_unless]
  cases pool.release with
  | callable deferred effect => rfl
  | absent => cases driver.release <;> rfl
  | notCallable => cases driver.release <;> rfl

/-- Besides its calls, giving the connection back only closes the lease. -/
theorem release_bounded {frame : Frame (World σ)}
    (steady : ∀ {before after : World σ}, World.Steady before after → frame.relates before after)
    (closes : ∀ world : World σ, frame.relates world
      { world with leases := world.leases.modify id fun lease => { lease with isOpen := false } }) :
    Action.Within frame (Event.CallsOneOf [.release, .selfRelease]) (release pool driver id) := by
  unfold release
  refine Action.Within.read.bind fun world => ?_
  cases (world.lease id).isOpen with
  | false => exact Action.Within.pure ()
  | true =>
      refine (Action.Within.update _ closes).bind fun _closed => ?_
      refine ((World.callIfPresent_within .release pool.release
        ⟨.release, by decide, rfl⟩).enlarge steady).bind fun released => ?_
      cases released with
      | true => exact Action.Within.pure ()
      | false =>
          refine ((World.callIfPresent_within .selfRelease driver.release
            ⟨.selfRelease, by decide, rfl⟩).enlarge steady).bind fun released => ?_
          cases released with
          | true => exact Action.Within.pure ()
          | false => exact Action.Within.fail .noReleaseRoute

theorem release_within :
    Action.Within (World.elsewhere id) (Event.CallsOneOf [.release, .selfRelease])
      (release pool driver id) :=
  release_bounded pool driver id (fun same other _different => same.lease other)
    fun world other different => World.lease_modify_other world id other _ different

end Lease
end PooledQuery
