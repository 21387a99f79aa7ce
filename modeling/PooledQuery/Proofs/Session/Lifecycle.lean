/-
The life of a lease.

Giving a connection back closes its lease before anything is called, so that the lease is closed
even when the call fails.  A closed lease refuses every operation without an event and without a
change, so at most one call of a whole run gives the connection back.
-/
import PooledQuery.Proofs.Session.Lease

namespace PooledQuery

variable {σ : Type}

namespace Event

theorem CallsOneOf.mono {fewer more : List DriverCall} {event : Event}
    (one : event.CallsOneOf fewer) (subset : fewer ⊆ more) : event.CallsOneOf more := by
  obtain ⟨call, member, called⟩ := one
  exact ⟨call, subset member, called⟩

end Event

namespace DriverCall

def returns : DriverCall → Bool
  | .release => true
  | .selfRelease => true
  | _ => false

end DriverCall

/-- The calls among events that give a connection back. -/
def returnsAmong (events : List Event) : Nat :=
  (driverTrace events).countP DriverCall.returns

private theorem returnsAmong_append (first second : List Event) :
    returnsAmong (first ++ second) = returnsAmong first + returnsAmong second := by
  unfold returnsAmong driverTrace
  rw [List.filterMap_append, List.countP_append]

private theorem returnsAmong_eq_zero {events : List Event} {calls : List DriverCall}
    (bounded : ∀ event ∈ events, event.CallsOneOf calls)
    (others : ∀ call ∈ calls, call.returns = false) : returnsAmong events = 0 := by
  unfold returnsAmong driverTrace
  rw [List.countP_eq_zero]
  intro call traced
  obtain ⟨event, member, called⟩ := List.mem_filterMap.mp traced
  obtain ⟨other, listed, same⟩ := bounded event member
  rw [called] at same
  rw [Option.some.inj same, others other listed]
  exact Bool.false_ne_true

namespace Lease

inductive Operation (σ : Type) where
  | begin
  | commit
  | rollback
  | execute (sql : Text) (params : List Value)
  | release (pool : Pool σ)

namespace Operation

def run (driver : Driver σ) (dialect : Dialect) (id : LeaseId) :
    Operation σ → Action (World σ) (Option Value)
  | .begin => do
      Lease.begin driver dialect id
      return none
  | .commit => do
      Lease.commit driver id
      return none
  | .rollback => do
      Lease.rollback driver id
      return none
  | .execute sql params => do
      return some (← Lease.execute driver id sql params)
  | .release pool => do
      Lease.release pool driver id
      return none

/-- What a closed lease answers. -/
def refusal : Operation σ → Except Failure (Option Value)
  | .release _ => .ok none
  | _ => .error .connectionClosed

end Operation

/-- Performs operations one after another.  The next one is performed also when one has failed,
and the connection may show other operations and attributes then. -/
def runAll (connection : σ → Driver σ) (dialect : Dialect) (id : LeaseId) :
    List (Operation σ) → World σ → List (Execution (World σ) (Option Value))
  | [], _ => []
  | operation :: operations, world =>
      let execution := operation.run (connection world.collaborators) dialect id world
      execution :: runAll connection dialect id operations execution.state

/-! ### Closed leases -/

section Steps

variable (driver : Driver σ) (dialect : Dialect) (id : LeaseId) {world : World σ}

theorem requireOpen_bind_of_closed {α : Type} (next : Unit → Action (World σ) α)
    (closed : (world.lease id).isOpen = false) :
    (requireOpen id >>= next) world = ⟨.error .connectionClosed, world, []⟩ := by
  have refused : requireOpen id world = ⟨.error .connectionClosed, world, []⟩ := by
    unfold requireOpen
    rw [Action.read_bind, closed]
    rfl
  rw [Action.bind_of_error _ next world .connectionClosed (by rw [refused]), refused]

theorem release_of_closed (pool : Pool σ) (closed : (world.lease id).isOpen = false) :
    release pool driver id world = ⟨.ok (), world, []⟩ := by
  unfold release
  rw [Action.read_bind, closed]
  rfl

private theorem Operation.run_of_closed (operation : Operation σ)
    (closed : (world.lease id).isOpen = false) :
    operation.run driver dialect id world = ⟨operation.refusal, world, []⟩ := by
  have refused {α β : Type} (action : Action (World σ) α) (next : α → Action (World σ) β)
      (failed : action world = ⟨.error .connectionClosed, world, []⟩) :
      (action >>= next) world = ⟨.error .connectionClosed, world, []⟩ := by
    rw [Action.bind_of_error action next world .connectionClosed (by rw [failed]), failed]
  cases operation with
  | begin => exact refused _ _ (requireOpen_bind_of_closed id _ closed)
  | commit => exact refused _ _ (requireOpen_bind_of_closed id _ closed)
  | rollback => exact refused _ _ (requireOpen_bind_of_closed id _ closed)
  | execute sql params => exact refused _ _ (requireOpen_bind_of_closed id _ closed)
  | release pool =>
      change (Lease.release pool driver id >>= fun _done => pure none) world = _
      rw [Action.bind_pure, release_of_closed driver id pool closed]
      rfl

def closing (world : World σ) : World σ :=
  { world with leases := world.leases.modify id fun lease => { lease with isOpen := false } }

theorem isOpen_closing (world : World σ) : ((closing id world).lease id).isOpen = false := by
  unfold closing World.lease
  dsimp only
  rw [List.getD_eq_getElem?_getD, List.getElem?_modify_eq]
  cases world.leases[id]? with
  | none => rfl
  | some lease => rfl

/-- Calls the pool to take the connection back, or else the connection to return itself. -/
def giveBack (pool : Pool σ) (driver : Driver σ) : Action (World σ) Unit := do
  unless ← World.callIfPresent .release pool.release do
    unless ← World.callIfPresent .selfRelease driver.release do
      Action.fail .noReleaseRoute

private theorem giveBack_within (pool : Pool σ) :
    Action.Within World.steady (Event.CallsOneOf [.release, .selfRelease])
      (giveBack pool driver) := by
  unfold giveBack
  refine (World.callIfPresent_within .release pool.release
    ⟨.release, by decide, rfl⟩).bind fun released => ?_
  cases released with
  | true => exact Action.Within.pure ()
  | false =>
      refine (World.callIfPresent_within .selfRelease driver.release
        ⟨.selfRelease, by decide, rfl⟩).bind fun released => ?_
      cases released with
      | true => exact Action.Within.pure ()
      | false => exact Action.Within.fail .noReleaseRoute

private theorem release_of_open (pool : Pool σ) (isOpen : (world.lease id).isOpen = true) :
    release pool driver id world = giveBack pool driver (closing id world) := by
  unfold release
  rw [Action.read_bind, isOpen, if_pos rfl, Action.bind_of_ok _ _ world () rfl]
  rfl

/-- After the connection has been asked back its lease is closed, whatever became of the call. -/
theorem release_closes (pool : Pool σ) (world : World σ) :
    ((release pool driver id world).state.lease id).isOpen = false := by
  cases isOpen : (world.lease id).isOpen with
  | false =>
      rw [release_of_closed driver id pool isOpen]
      exact isOpen
  | true =>
      have steady := (giveBack_within driver pool).state (closing id world)
      rw [release_of_open driver id pool isOpen, steady.lease id]
      exact isOpen_closing id world

private theorem returnsAmong_release_le (pool : Pool σ) (world : World σ) :
    returnsAmong (release pool driver id world).events ≤ 1 := by
  cases isOpen : (world.lease id).isOpen with
  | false =>
      rw [release_of_closed driver id pool isOpen]
      exact Nat.zero_le 1
  | true =>
      rw [release_events pool driver id world isOpen]
      rcases returnEvents_cases pool driver with pooled | returned | nothing
      · rw [pooled]
        decide
      · rw [returned]
        decide
      · rw [nothing]
        decide

private theorem Operation.returnsAmong_run (operation : Operation σ)
    (kept : ∀ pool, operation ≠ .release pool) (world : World σ) :
    returnsAmong (operation.run driver dialect id world).events = 0 := by
  have calls : Action.Within World.steady
      (Event.CallsOneOf [.begin, .beginTransaction, .direct, .commit, .rollback, .execute, .close])
      (operation.run driver dialect id) := by
    cases operation with
    | begin =>
        exact ((begin_within driver dialect id).widen fun _event one => one.mono (by decide)).bind
          fun _done => Action.Within.pure none
    | commit =>
        exact ((commit_within driver id).widen fun _event one => one.mono (by decide)).bind
          fun _done => Action.Within.pure none
    | rollback =>
        exact ((rollback_within driver id).widen fun _event one => one.mono (by decide)).bind
          fun _done => Action.Within.pure none
    | execute sql params =>
        exact ((execute_within driver id sql params).widen
          fun _event one => one.mono (by decide)).bind fun answer => Action.Within.pure (some answer)
    | release pool => exact absurd rfl (kept pool)
  exact returnsAmong_eq_zero (calls.events world) (by decide)

theorem Operation.run_release (pool : Pool σ) (world : World σ) :
    (Operation.release pool).run driver dialect id world =
      { outcome := (Lease.release pool driver id world).outcome.map fun _done => none
        state := (Lease.release pool driver id world).state
        events := (Lease.release pool driver id world).events } :=
  Action.bind_pure _ _ _

end Steps

/-! ### Runs -/

section Runs

variable (connection : σ → Driver σ) (dialect : Dialect) (id : LeaseId) {world : World σ}

theorem runAll_of_closed (operations : List (Operation σ))
    (closed : (world.lease id).isOpen = false) :
    runAll connection dialect id operations world =
      operations.map fun operation => ⟨operation.refusal, world, []⟩ := by
  induction operations with
  | nil => rfl
  | cons operation others ih =>
      rw [runAll, Operation.run_of_closed _ dialect id operation closed, List.map_cons]
      exact congrArg _ ih

private theorem runAll_append_release (before later : List (Operation σ)) (pool : Pool σ)
    (world : World σ) :
    ∃ releasing, runAll connection dialect id (before ++ .release pool :: later) world =
      runAll connection dialect id before world ++ releasing ::
        later.map fun operation => ⟨operation.refusal, releasing.state, []⟩ := by
  induction before generalizing world with
  | nil =>
      have closed := release_closes (connection world.collaborators) id pool world
      refine ⟨(Operation.release pool).run (connection world.collaborators) dialect id world, ?_⟩
      have refused := runAll_of_closed connection dialect id later closed
      simp only [List.nil_append, runAll, Operation.run_release, refused]
  | cons operation others ih =>
      obtain ⟨releasing, split⟩ :=
        ih (operation.run (connection world.collaborators) dialect id world).state
      refine ⟨releasing, ?_⟩
      rw [List.cons_append, runAll, runAll, split]
      rfl

theorem returnsAmong_runAll_le (operations : List (Operation σ)) (world : World σ) :
    returnsAmong ((runAll connection dialect id operations world).flatMap Execution.events) ≤ 1 := by
  -- The first call that gives the connection back closes the lease, and no event follows it.
  induction operations generalizing world with
  | nil => exact Nat.zero_le 1
  | cons operation others ih =>
      rw [runAll, List.flatMap_cons, returnsAmong_append]
      by_cases released : ∃ pool, operation = .release pool
      · obtain ⟨pool, rfl⟩ := released
        rw [Operation.run_release, runAll_of_closed connection dialect id others
          (release_closes (connection world.collaborators) id pool world)]
        have one := returnsAmong_release_le (connection world.collaborators) id pool world
        have silent : (others.map fun operation => (⟨operation.refusal,
            (release pool (connection world.collaborators) id world).state, []⟩ :
              Execution (World σ) (Option Value))).flatMap Execution.events = [] := by
          simp [List.flatMap_map]
        rw [silent]
        exact one
      · have none := Operation.returnsAmong_run (connection world.collaborators) dialect id operation
          (fun pool same => released ⟨pool, same⟩) world
        rw [none, Nat.zero_add]
        exact ih _

/-- A connection is given back by one call at most.  Once it has been asked back, even if that
call failed, nothing reaches a connection, a cursor or a pool: giving it back again does nothing,
and every other operation fails. -/
theorem runAll_lifecycle (operations before later : List (Operation σ)) (pool : Pool σ)
    (world : World σ) :
    returnsAmong ((runAll connection dialect id operations world).flatMap Execution.events) ≤ 1 ∧
      (∃ releasing, runAll connection dialect id (before ++ .release pool :: later) world =
        runAll connection dialect id before world ++ releasing ::
          later.map fun operation => ⟨operation.refusal, releasing.state, []⟩) ∧
      Failure.connectionClosed.message = "connection is closed" := by
  refine ⟨?_, ?_, rfl⟩
  · exact returnsAmong_runAll_le connection dialect id operations world
  · exact runAll_append_release connection dialect id before later pool world

end Runs
end Lease
end PooledQuery
