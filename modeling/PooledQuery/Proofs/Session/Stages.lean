/-
The stages of a run.

A run asks the pool for a connection, works on its lease, and gives the connection back.
In a transaction the work is to begin, to perform the body and to commit, and after a
failure of any of these to roll back and report.  Each stage is an execution in the world
that the stages before it have left, and the run's events are those of its stages.
-/
import PooledQuery.Proofs.Session.Course

namespace PooledQuery.Session

variable {σ α : Type} (session : Session σ)

/-! ### The connection -/

def nextLease (world : World σ) : LeaseId :=
  world.leases.length

/-- The world in which a run has its connection. -/
def borrowed (transactional : Bool) (world : World σ) : World σ :=
  let asked := (session.acquire world).state
  { asked with leases := asked.leases ++ [⟨true, transactional, []⟩] }

theorem acquire_within :
    Action.Within World.steady (Event.CallsOneOf [.acquire]) session.acquire := by
  unfold Session.acquire
  cases session.pool.acquire with
  | absent => exact Action.Within.fail _
  | notCallable => exact Action.Within.fail _
  | callable deferred effect =>
      exact World.call_within .acquire effect ⟨.acquire, by decide, rfl⟩

theorem acquire_events (world : World σ) :
    (session.acquire world).events = session.pool.acquire.calls .acquire := by
  unfold Session.acquire
  cases session.pool.acquire <;> rfl

theorem acquire_events_of_ok (world : World σ)
    (acquired : (session.acquire world).outcome = .ok ()) :
    (session.acquire world).events = [.acquire] := by
  unfold Session.acquire at acquired ⊢
  cases hook : session.pool.acquire with
  | absent =>
      rw [hook] at acquired
      cases acquired
  | notCallable =>
      rw [hook] at acquired
      cases acquired
  | callable deferred effect => rfl

theorem lease_borrowed (transactional : Bool) (world : World σ) :
    (session.borrowed transactional world).lease (nextLease world) =
      ⟨true, transactional, []⟩ := by
  have same := (session.acquire_within.state world).leases
  unfold World.lease borrowed nextLease
  dsimp only
  rw [same, List.getD_eq_getElem?_getD, List.getElem?_concat_length]
  rfl

theorem borrowed_settings (transactional : Bool) (world : World σ) :
    (session.borrowed transactional world).settings = world.settings :=
  (session.acquire_within.state world).settings

theorem borrowed_sink (transactional : Bool) (world : World σ) :
    (session.borrowed transactional world).sink = world.sink :=
  (session.acquire_within.state world).sink

theorem lease_borrowed_other (transactional : Bool) (world : World σ) {other : LeaseId}
    (different : other ≠ nextLease world) :
    (session.borrowed transactional world).lease other = world.lease other := by
  have same := (session.acquire_within.state world).leases
  unfold World.lease borrowed
  dsimp only
  rw [same, List.getD_eq_getElem?_getD, List.getD_eq_getElem?_getD]
  rcases Nat.lt_or_gt_of_ne different with earlier | later
  · rw [List.getElem?_append_left earlier]
  · have beyond : (world.leases ++ [(⟨true, transactional, []⟩ : Lease)]).length ≤ other := by
      rw [List.length_append]
      exact later
    rw [List.getElem?_eq_none beyond, List.getElem?_eq_none (Nat.le_of_lt later)]

theorem run_of_refused (transactional : Bool) (body : LeaseId → Action (World σ) α)
    (world : World σ) (failure : Failure)
    (refused : (session.acquire world).outcome = .error failure) :
    session.run transactional body world =
      ⟨.error failure, (session.acquire world).state, (session.acquire world).events⟩ := by
  unfold Session.run
  rw [Action.bind_of_error _ _ world failure refused]

private theorem run_of_acquired (transactional : Bool) (body : LeaseId → Action (World σ) α)
    (world : World σ) (acquired : (session.acquire world).outcome = .ok ()) :
    session.run transactional body world =
      let id := nextLease world
      let work := if transactional then session.inTransaction id (body id) else body id
      let execution := Action.thenAlways work (Lease.release session.pool session.driver id)
        (session.borrowed transactional world)
      ⟨execution.outcome, execution.state, .acquire :: execution.events⟩ := by
  have same := (session.acquire_within.state world).leases
  unfold Session.run
  rw [Action.bind_of_ok _ _ world () acquired, session.acquire_events_of_ok world acquired]
  have added : World.addLease transactional (session.acquire world).state =
      ⟨.ok (nextLease world), session.borrowed transactional world, []⟩ := by
    unfold World.addLease nextLease
    rw [← same]
    rfl
  rw [Action.bind_of_ok _ _ _ (nextLease world) (by rw [added]), added]
  rfl

/-! ### The transaction -/

/-- The execution of beginning a run's transaction. -/
def begun (world : World σ) : Execution (World σ) Unit :=
  Lease.begin session.driver session.dialect (nextLease world) (session.borrowed true world)

def entered (transactional : Bool) (world : World σ) : World σ :=
  if transactional then (session.begun world).state else session.borrowed transactional world

/-- Beginning, an action and committing, as far as they succeed. -/
def enclosed (id : LeaseId) (action : Action (World σ) α) : Action (World σ) α := do
  Lease.begin session.driver session.dialect id
  let result ← action
  Lease.commit session.driver id
  return result

section Stages

/-! Bodies may be any actions on the lease of their run. -/

variable (transactional : Bool) (body : LeaseId → Action (World σ) α) (world : World σ)

/-- The execution of a body on the lease of its run. -/
def acted : Execution (World σ) α :=
  body (nextLease world) (session.entered transactional world)

def sealed : Execution (World σ) Unit :=
  Lease.commit session.driver (nextLease world) (session.acted true body world).state

/-- The execution of a transaction up to its commit. -/
def tried : Execution (World σ) α :=
  session.enclosed (nextLease world) (body (nextLease world)) (session.borrowed true world)

/-- The execution of the rollback of a transaction. -/
def undone : Execution (World σ) Unit :=
  Lease.rollback session.driver (nextLease world) (session.tried body world).state

/-- The execution of what a run does with its connection. -/
def handled : Execution (World σ) α :=
  if transactional then
    session.inTransaction (nextLease world) (body (nextLease world)) (session.borrowed true world)
  else session.acted false body world

def returned : Execution (World σ) Unit :=
  Lease.release session.pool session.driver (nextLease world)
    (session.handled transactional body world).state

theorem run_stages (acquired : (session.acquire world).outcome = .ok ()) :
    session.run transactional body world =
      { outcome := (session.returned transactional body world).outcome.bind fun _returned =>
          (session.handled transactional body world).outcome
        state := (session.returned transactional body world).state
        events := .acquire :: ((session.handled transactional body world).events ++
          (session.returned transactional body world).events) } := by
  rw [session.run_of_acquired transactional body world acquired]
  dsimp only
  rw [Action.thenAlways_run]
  cases transactional <;> rfl

theorem tried_of_not_begun (failure : Failure)
    (failed : (session.begun world).outcome = .error failure) :
    session.tried body world =
      ⟨.error failure, (session.begun world).state, (session.begun world).events⟩ :=
  Action.bind_of_error _ _ _ failure failed

theorem tried_of_begun (begins : (session.begun world).outcome = .ok ()) :
    session.tried body world =
      let following := (body (nextLease world) >>= fun result => do
        Lease.commit session.driver (nextLease world)
        return result) (session.entered true world)
      ⟨following.outcome, following.state, (session.begun world).events ++ following.events⟩ :=
  Action.bind_of_ok (Lease.begin session.driver session.dialect (nextLease world)) _
    (session.borrowed true world) () begins

theorem tried_of_stopped (failure : Failure) (begins : (session.begun world).outcome = .ok ())
    (failed : (session.acted true body world).outcome = .error failure) :
    session.tried body world =
      ⟨.error failure, (session.acted true body world).state,
        (session.begun world).events ++ (session.acted true body world).events⟩ := by
  rw [session.tried_of_begun body world begins]
  dsimp only
  rw [Action.bind_of_error (body (nextLease world)) _ _ failure failed]
  rfl

theorem tried_of_completed (result : α) (begins : (session.begun world).outcome = .ok ())
    (completes : (session.acted true body world).outcome = .ok result) :
    session.tried body world =
      ⟨(session.sealed body world).outcome.map fun _committed => result,
        (session.sealed body world).state,
        (session.begun world).events ++
          ((session.acted true body world).events ++ (session.sealed body world).events)⟩ := by
  rw [session.tried_of_begun body world begins]
  dsimp only
  rw [Action.bind_of_ok (body (nextLease world)) _ _ result completes]
  rw [Action.bind_pure (Lease.commit session.driver (nextLease world))]
  rfl

private theorem inTransaction_of_enclosed (id : LeaseId) (action : Action (World σ) α) (result : α)
    (succeeded : (session.enclosed id action world).outcome = .ok result) :
    session.inTransaction id action world = session.enclosed id action world := by
  change (Action.attempt (session.enclosed id action) >>= fun outcome => _) world = _
  rw [Action.attempt_bind, succeeded]
  change Execution.mk (.ok result) (session.enclosed id action world).state (_ ++ []) = _
  rw [List.append_nil, ← succeeded]

private theorem inTransaction_of_failed (id : LeaseId) (action : Action (World σ) α)
    (failure : Failure)
    (failed : (session.enclosed id action world).outcome = .error failure) :
    session.inTransaction id action world =
      let execution := session.enclosed id action world
      let abandoned := session.abandon id execution.state
      ⟨abandoned.outcome.bind fun _abandoned => .error failure, abandoned.state,
        execution.events ++ abandoned.events⟩ := by
  change (Action.attempt (session.enclosed id action) >>= fun outcome => _) world = _
  rw [Action.attempt_bind, failed]
  dsimp only
  rw [Action.bind_fail]

theorem handled_of_tried (result : α) (succeeded : (session.tried body world).outcome = .ok result) :
    session.handled true body world = session.tried body world :=
  session.inTransaction_of_enclosed (session.borrowed true world) (nextLease world)
    (body (nextLease world)) result succeeded

theorem handled_of_failed (failure : Failure)
    (failed : (session.tried body world).outcome = .error failure) :
    session.handled true body world =
      let abandoned := session.abandon (nextLease world) (session.tried body world).state
      ⟨abandoned.outcome.bind fun _abandoned => .error failure, abandoned.state,
        (session.tried body world).events ++ abandoned.events⟩ :=
  session.inTransaction_of_failed (session.borrowed true world) (nextLease world)
    (body (nextLease world)) failure failed

end Stages

/-- The execution of a run's body. -/
def worked (transactional : Bool) (body : Body α) (world : World σ) : Execution (World σ) α :=
  session.perform (nextLease world) body (session.entered transactional world)

/-- The execution of committing a run's transaction. -/
def committed (body : Body α) (world : World σ) : Execution (World σ) Unit :=
  Lease.commit session.driver (nextLease world) (session.worked true body world).state

/-- Beginning, performing a body and committing, as far as they succeed. -/
def transaction (id : LeaseId) (body : Body α) : Action (World σ) α := do
  Lease.begin session.driver session.dialect id
  let result ← session.perform id body
  Lease.commit session.driver id
  return result

def transacted (body : Body α) (world : World σ) : Execution (World σ) α :=
  session.transaction (nextLease world) body (session.borrowed true world)

/-- The execution of rolling a run's transaction back. -/
def rolledBack (body : Body α) (world : World σ) : Execution (World σ) Unit :=
  Lease.rollback session.driver (nextLease world) (session.transacted body world).state

variable (body : Body α) (world : World σ)

theorem transacted_of_not_begun (failure : Failure)
    (failed : (session.begun world).outcome = .error failure) :
    session.transacted body world =
      ⟨.error failure, (session.begun world).state, (session.begun world).events⟩ :=
  session.tried_of_not_begun (fun id => session.perform id body) world failure failed

theorem transacted_of_stopped (failure : Failure)
    (begins : (session.begun world).outcome = .ok ())
    (failed : (session.worked true body world).outcome = .error failure) :
    session.transacted body world =
      ⟨.error failure, (session.worked true body world).state,
        (session.begun world).events ++ (session.worked true body world).events⟩ :=
  session.tried_of_stopped (fun id => session.perform id body) world failure begins failed

theorem transacted_of_completed (result : α)
    (begins : (session.begun world).outcome = .ok ())
    (completes : (session.worked true body world).outcome = .ok result) :
    session.transacted body world =
      ⟨(session.committed body world).outcome.map fun _committed => result,
        (session.committed body world).state,
        (session.begun world).events ++
          ((session.worked true body world).events ++ (session.committed body world).events)⟩ :=
  session.tried_of_completed (fun id => session.perform id body) world result begins completes

/-- A transaction that was begun makes the events of its body next, and commits if the body
succeeds. -/
theorem transacted_events (begins : (session.begun world).outcome = .ok ()) :
    (session.transacted body world).events =
      (session.begun world).events ++ (session.worked true body world).events ++
        if (session.worked true body world).outcome.isOk then
          (session.committed body world).events
        else [] := by
  cases stops : (session.worked true body world).outcome with
  | error failure =>
      rw [session.transacted_of_stopped body world failure begins stops]
      exact (List.append_nil _).symm
  | ok result =>
      rw [session.transacted_of_completed body world result begins stops]
      exact (List.append_assoc _ _ _).symm

theorem lease_transacted (begins : (session.begun world).outcome = .ok ()) (id : LeaseId) :
    (session.transacted body world).state.lease id =
      (session.worked true body world).state.lease id := by
  cases stops : (session.worked true body world).outcome with
  | error failure => rw [session.transacted_of_stopped body world failure begins stops]
  | ok result =>
      have commits := (Lease.commit_within session.driver (nextLease world)).state
        (session.worked true body world).state
      rw [session.transacted_of_completed body world result begins stops]
      exact commits.lease id

/-- Whether begin, body and commit of a run have all succeeded. -/
def completes (body : Body α) (world : World σ) : Bool :=
  (session.begun world).outcome.isOk && (session.worked true body world).outcome.isOk &&
    (session.committed body world).outcome.isOk

theorem completes_eq :
    session.completes body world = (session.transacted body world).outcome.isOk := by
  unfold completes
  cases begins : (session.begun world).outcome with
  | error failure =>
      rw [session.transacted_of_not_begun body world failure begins]
      rfl
  | ok done =>
      cases stops : (session.worked true body world).outcome with
      | error failure =>
          rw [session.transacted_of_stopped body world failure begins stops]
          rfl
      | ok result =>
          rw [session.transacted_of_completed body world result begins stops]
          cases (session.committed body world).outcome <;> rfl

theorem transaction_within (id : LeaseId) :
    Action.Within (World.filling id)
      (Event.CallsAtMost [.begin, .beginTransaction, .direct, .execute, .close, .commit])
      (session.transaction id body) := by
  unfold transaction
  have begins := World.filling_of_steady (Lease.begin_within session.driver session.dialect id) id
  have commits := World.filling_of_steady (Lease.commit_within session.driver id) id
  refine (begins.widen fun event one => one.callsAtMost.mono (by decide)).bind fun _begun => ?_
  refine ((session.perform_within id body).widen
    fun event among => among.mono (by decide)).bind fun result => ?_
  exact (commits.widen fun event one => one.callsAtMost.mono (by decide)).bind
    fun _committed => Action.Within.pure result

/-! ### After a failure -/

theorem reportAll_run (statements : List FailedStatement) (quiet : world.sink.NeverFails) :
    World.reportAll statements world = ⟨.ok (), world, world.sink.handed statements⟩ := by
  induction statements with
  | nil => cases world.sink <;> rfl
  | cons statement rest ih =>
      unfold World.reportAll
      rw [Action.bind_of_ok _ _ world () (by rw [World.report_run world statement quiet]),
        World.report_run world statement quiet]
      dsimp only
      rw [ih]
      cases world.sink <;> rfl

theorem reportAll_within (statements : List FailedStatement) :
    Action.Within World.steady (Event.CallsAtMost [])
      (World.reportAll statements : Action (World σ) Unit) := by
  induction statements with
  | nil => exact Action.Within.pure ()
  | cons statement rest ih => exact (World.report_within statement).bind fun _reported => ih

theorem abandon_of_refused (id : LeaseId) (failure : Failure)
    (failed : (Lease.rollback session.driver id world).outcome = .error failure) :
    session.abandon id world =
      ⟨.error failure, (Lease.rollback session.driver id world).state,
        (Lease.rollback session.driver id world).events⟩ :=
  Action.bind_of_error (Lease.rollback session.driver id) _ world failure failed

theorem abandon_of_rolledBack (id : LeaseId)
    (succeeded : (Lease.rollback session.driver id world).outcome = .ok ()) :
    session.abandon id world =
      let back := Lease.rollback session.driver id world
      let reported := World.reportAll (back.state.lease id).failed back.state
      ⟨reported.outcome, reported.state, back.events ++ reported.events⟩ :=
  Action.bind_of_ok (Lease.rollback session.driver id) _ world () succeeded

theorem abandon_within (id : LeaseId) :
    Action.Within World.steady (Event.CallsAtMost [.rollback]) (session.abandon id) := by
  unfold Session.abandon
  refine ((Lease.rollback_within session.driver id).widen
    fun event one => one.callsAtMost).bind fun _back => ?_
  refine Action.Within.read.bind fun world => ?_
  exact (reportAll_within _).widen fun event among => among.mono (List.nil_subset _)

theorem inTransaction_within (id : LeaseId) :
    Action.Within (World.filling id)
      (Event.CallsAtMost
        [.begin, .beginTransaction, .direct, .execute, .close, .commit, .rollback])
      (session.inTransaction id (session.perform id body)) := by
  have abandons := World.filling_of_steady (session.abandon_within id) id
  have attempts : Action.Within (World.filling id)
      (Event.CallsAtMost
        [.begin, .beginTransaction, .direct, .execute, .close, .commit, .rollback])
      (Action.attempt (session.transaction id body)) :=
    (session.transaction_within body id).attempt.widen
      fun event among => among.mono (by decide)
  refine attempts.bind fun outcome => ?_
  cases outcome with
  | ok result => exact Action.Within.pure result
  | error failure =>
      exact (abandons.widen fun event among => among.mono (by decide)).bind
        fun _abandoned => Action.Within.fail failure

/-! ### The run -/

theorem lease_entered (transactional : Bool) :
    (session.entered transactional world).lease (nextLease world) = ⟨true, transactional, []⟩ := by
  cases transactional with
  | false => exact session.lease_borrowed false world
  | true =>
      have steady := (Lease.begin_within session.driver session.dialect (nextLease world)).state
        (session.borrowed true world)
      exact (steady.lease (nextLease world)).trans (session.lease_borrowed true world)

theorem entered_settings (transactional : Bool) :
    (session.entered transactional world).settings = world.settings := by
  cases transactional with
  | false => exact session.borrowed_settings false world
  | true =>
      have steady := (Lease.begin_within session.driver session.dialect (nextLease world)).state
        (session.borrowed true world)
      exact steady.settings.trans (session.borrowed_settings true world)

theorem entered_sink (transactional : Bool) :
    (session.entered transactional world).sink = world.sink := by
  cases transactional with
  | false => exact session.borrowed_sink false world
  | true =>
      have steady := (Lease.begin_within session.driver session.dialect (nextLease world)).state
        (session.borrowed true world)
      exact steady.sink.trans (session.borrowed_sink true world)

private theorem worked_isOpen (transactional : Bool) :
    ((session.worked transactional body world).state.lease (nextLease world)).isOpen = true := by
  have kept := (session.perform_within (nextLease world) body).state
    (session.entered transactional world)
  exact kept.isOpen.trans (by rw [session.lease_entered world transactional])

theorem committed_events : (session.committed body world).events = [.commit] := by
  unfold committed
  rw [Lease.commit_of_open _ _ _ (session.worked_isOpen body world true)]
  rfl

theorem transacted_fills :
    World.Fills (nextLease world) (session.borrowed true world)
      (session.transacted body world).state :=
  (session.transaction_within body (nextLease world)).state (session.borrowed true world)

private theorem transacted_isOpen :
    ((session.transacted body world).state.lease (nextLease world)).isOpen = true :=
  (session.transacted_fills body world).isOpen.trans
    (by rw [session.lease_borrowed true world])

theorem rolledBack_events : (session.rolledBack body world).events = [.rollback] := by
  unfold rolledBack
  rw [Lease.rollback_of_open _ _ _ (session.transacted_isOpen body world)]
  rfl

/-- The execution of what a run does with its connection. -/
def work (transactional : Bool) (body : Body α) (world : World σ) : Execution (World σ) α :=
  if transactional then
    session.inTransaction (nextLease world) (session.perform (nextLease world) body)
      (session.borrowed true world)
  else session.worked false body world

theorem work_fills (transactional : Bool) :
    World.Fills (nextLease world) (session.borrowed transactional world)
      (session.work transactional body world).state := by
  cases transactional with
  | false => exact (session.perform_within (nextLease world) body).state _
  | true => exact (session.inTransaction_within body (nextLease world)).state _

theorem runBody_of_acquired (transactional : Bool)
    (acquired : (session.acquire world).outcome = .ok ()) :
    let released := Lease.release session.pool session.driver (nextLease world)
      (session.work transactional body world).state
    (session.runBody transactional body world).state = released.state ∧
      (session.runBody transactional body world).events =
        .acquire :: ((session.work transactional body world).events ++
          Lease.returnEvents session.pool session.driver) := by
  have isOpen : ((session.work transactional body world).state.lease
      (nextLease world)).isOpen = true :=
    (session.work_fills body world transactional).isOpen.trans
      (by rw [session.lease_borrowed transactional world])
  unfold Session.runBody
  rw [session.run_stages transactional _ world acquired,
    ← Lease.release_events session.pool session.driver (nextLease world) _ isOpen]
  exact ⟨rfl, rfl⟩

theorem work_of_committed (result : α)
    (succeeded : (session.transacted body world).outcome = .ok result) :
    session.work true body world = session.transacted body world :=
  session.handled_of_tried (fun id => session.perform id body) world result succeeded

theorem work_of_failed (failure : Failure)
    (failed : (session.transacted body world).outcome = .error failure) :
    session.work true body world =
      let abandoned := session.abandon (nextLease world) (session.transacted body world).state
      ⟨abandoned.outcome.bind fun _abandoned => .error failure, abandoned.state,
        (session.transacted body world).events ++ abandoned.events⟩ :=
  session.handled_of_failed (fun id => session.perform id body) world failure failed

/-- A failed transaction is rolled back, and then the failed statements of the lease are
handed to the sink. -/
theorem work_events_of_rolledBack (failure : Failure)
    (failed : (session.transacted body world).outcome = .error failure)
    (succeeded : (session.rolledBack body world).outcome = .ok ()) :
    (session.work true body world).events =
      (session.transacted body world).events ++ .rollback ::
        (World.reportAll ((session.rolledBack body world).state.lease (nextLease world)).failed
          (session.rolledBack body world).state).events := by
  have abandoned := session.abandon_of_rolledBack (session.transacted body world).state
    (nextLease world) succeeded
  rw [session.work_of_failed body world failure failed]
  dsimp only
  rw [abandoned]
  change _ ++ ((session.rolledBack body world).events ++ _) = _
  rw [session.rolledBack_events]
  rfl

theorem work_events_of_refused (failure refusal : Failure)
    (failed : (session.transacted body world).outcome = .error failure)
    (refused : (session.rolledBack body world).outcome = .error refusal) :
    (session.work true body world).events =
      (session.transacted body world).events ++ [.rollback] := by
  have abandoned := session.abandon_of_refused (session.transacted body world).state
    (nextLease world) refusal refused
  rw [session.work_of_failed body world failure failed]
  dsimp only
  rw [abandoned]
  change _ ++ (session.rolledBack body world).events = _
  rw [session.rolledBack_events]

/-! ### The course of a run -/

/-- The statements of a run's body, none if the body is not entered. -/
def runCourse (transactional : Bool) (body : Body α) (world : World σ) : List (Attempt σ) :=
  if (session.acquire world).outcome.isOk &&
      (!transactional || (session.begun world).outcome.isOk) then
    session.course (nextLease world) body (session.entered transactional world)
  else []

theorem runCourse_of_refused (transactional : Bool) (failure : Failure)
    (refused : (session.acquire world).outcome = .error failure) :
    session.runCourse transactional body world = [] := by
  unfold runCourse
  rw [refused]
  rfl

theorem runCourse_of_not_begun (failure : Failure)
    (failed : (session.begun world).outcome = .error failure) :
    session.runCourse true body world = [] := by
  unfold runCourse
  rw [failed]
  cases (session.acquire world).outcome <;> rfl

theorem runCourse_of_begun (acquired : (session.acquire world).outcome = .ok ())
    (begins : (session.begun world).outcome = .ok ()) :
    session.runCourse true body world =
      session.course (nextLease world) body (session.entered true world) := by
  unfold runCourse
  rw [acquired, begins]
  rfl

theorem runCourse_of_plain (acquired : (session.acquire world).outcome = .ok ()) :
    session.runCourse false body world =
      session.course (nextLease world) body (session.entered false world) := by
  unfold runCourse
  rw [acquired]
  rfl

end PooledQuery.Session
