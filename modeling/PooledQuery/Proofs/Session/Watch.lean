/-
What a session notes down.

The echo level, whether and above which time statements are recorded, and the log of slow
statements decide what a session notes down.  Most actions are heedless of them: they do the
same under any of them, leave them alone, and make no records.
-/
import PooledQuery.Proofs.Session.Indifference

namespace PooledQuery

variable {σ α β : Type}

/-- The part of a session's state that decides what it notes down, with what it has noted. -/
structure Watch where
  echo : Echo
  recordsSlow : Value
  slowThreshold : Number
  slowLog : SlowLog

def Event.isRecord : Event → Bool
  | .log _ _ _ _ => true
  | _ => false

def withoutRecords (events : List Event) : List Event :=
  events.filter fun event => !event.isRecord

@[simp] theorem withoutRecords_append (first second : List Event) :
    withoutRecords (first ++ second) = withoutRecords first ++ withoutRecords second :=
  List.filter_append first second

theorem Event.isRecord_of_outward (event : Event) (outward : event.isOutward = true) :
    event.isRecord = false := by
  cases event with
  | log _ _ _ _ => cases outward
  | _ => rfl

theorem withoutRecords_of_records {events : List Event}
    (records : ∀ event ∈ events, event.isRecord = true) : withoutRecords events = [] := by
  unfold withoutRecords
  rw [List.filter_eq_nil_iff]
  intro event member
  rw [records event member]
  exact Bool.false_ne_true

namespace World

def watch (world : World σ) : Watch :=
  ⟨world.settings.echo, world.settings.recordsSlow, world.settings.slowThreshold, world.slowLog⟩

def watchedBy (world : World σ) (watch : Watch) : World σ :=
  { world with
    settings := { world.settings with
      echo := watch.echo
      recordsSlow := watch.recordsSlow
      slowThreshold := watch.slowThreshold }
    slowLog := watch.slowLog }

@[simp] theorem watch_watchedBy (world : World σ) (watch : Watch) :
    (world.watchedBy watch).watch = watch := rfl

@[simp] theorem watchedBy_watch (world : World σ) : world.watchedBy world.watch = world := rfl

private theorem refits_watchedBy (watch : Watch) :
    Refits fun world : World σ => world.watchedBy watch where
  collaborators := fun _world => rfl
  leases := fun _world => rfl
  sink := fun _world => rfl
  ignoreMarker := fun _world => rfl
  setCollaborators := fun _world _state => rfl
  setLeases := fun _world _leases => rfl

/-- An action that does the same whatever is noted down, and notes down nothing itself. -/
structure Heedless (action : Action (World σ) α) : Prop where
  same : ∀ world watch, action (world.watchedBy watch) =
    ⟨(action world).outcome, (action world).state.watchedBy watch, (action world).events⟩
  unrecorded : ∀ world, ∀ event ∈ (action world).events, event.isRecord = false

namespace Heedless

theorem watch {action : Action (World σ) α} (heedless : Heedless action) (world : World σ) :
    (action world).state.watch = world.watch := by
  have same := congrArg Execution.state (heedless.same world world.watch)
  rw [watchedBy_watch] at same
  rw [same, watch_watchedBy]

theorem slowLog {action : Action (World σ) α} (heedless : Heedless action) (world : World σ) :
    (action world).state.slowLog = world.slowLog :=
  congrArg Watch.slowLog (heedless.watch world)

theorem of_indifferent {action : Action (World σ) α}
    (indifferent : ∀ watch, Action.Indifferent (fun world => world.watchedBy watch)
      (fun event => event.isRecord = false) action) : Heedless action where
  same := fun world watch => (indifferent watch).same world
  unrecorded := fun world => (indifferent world.watch).events world

theorem of_refits {action : Action (World σ) α}
    (indifferent : ∀ change, Refits change →
      Action.Indifferent change (fun event => event.isRecord = false) action) : Heedless action :=
  of_indifferent fun watch => indifferent _ (refits_watchedBy watch)

theorem ofExcept (outcome : Except Failure α) :
    Heedless (Action.ofExcept outcome : Action (World σ) α) :=
  of_indifferent fun _watch => Action.Indifferent.ofExcept outcome

theorem pure (result : α) : Heedless (Pure.pure result : Action (World σ) α) :=
  ofExcept (.ok result)

theorem fail (failure : Failure) : Heedless (Action.fail failure : Action (World σ) α) :=
  ofExcept (.error failure)

theorem addLease (transactional : Bool) :
    Heedless (World.addLease transactional : Action (World σ) LeaseId) :=
  of_refits fun _change refits => addLease_indifferent refits transactional

theorem outcomeOf (response : Value) :
    Heedless (World.outcomeOf response : Action (World σ) Outcome) := by
  refine of_indifferent fun watch => ?_
  unfold World.outcomeOf
  refine Action.Indifferent.readThen (fun _world => rfl) fun world => ?_
  dsimp only
  split
  · refine (Action.Indifferent.emitAll fun event member => ?_).bind fun _emitted =>
      Action.Indifferent.ofExcept _
    obtain ⟨call, _present, rfl⟩ := List.mem_map.mp member
    rfl
  · exact Action.Indifferent.ofExcept _

end Heedless
end World

/-! ### Work with the collaborators -/

namespace Lease

variable (pool : Pool σ) (driver : Driver σ) (dialect : Dialect) (id : LeaseId)

theorem begin_heedless : World.Heedless (begin driver dialect id) :=
  .of_refits fun _change refits =>
    begin_indifferent refits Event.isRecord_of_outward driver dialect id

theorem commit_heedless : World.Heedless (commit driver id) :=
  .of_refits fun _change refits => commit_indifferent refits Event.isRecord_of_outward driver id

theorem execute_heedless (sql : Text) (params : List Value) :
    World.Heedless (execute driver id sql params) :=
  .of_refits fun _change refits =>
    execute_indifferent refits Event.isRecord_of_outward driver id sql params

theorem release_heedless : World.Heedless (release pool driver id) :=
  .of_refits fun _change refits =>
    release_indifferent refits Event.isRecord_of_outward pool driver id

end Lease

namespace Session

variable (session : Session σ)

theorem acquire_heedless : World.Heedless session.acquire :=
  .of_refits fun _change refits => session.acquire_indifferent refits Event.isRecord_of_outward

theorem abandon_heedless (id : LeaseId) : World.Heedless (session.abandon id) :=
  .of_refits fun _change refits => session.abandon_indifferent refits Event.isRecord_of_outward id

theorem keepFailure_heedless (id : LeaseId) (sql : Text) (params : List Value) :
    World.Heedless (keepFailure id sql params : Action (World σ) Unit) :=
  .of_refits fun _change refits =>
    keepFailure_indifferent refits Event.isRecord_of_outward id sql params

theorem now_heedless : World.Heedless session.now :=
  .of_refits fun _change refits => session.now_indifferent refits

end Session
end PooledQuery
