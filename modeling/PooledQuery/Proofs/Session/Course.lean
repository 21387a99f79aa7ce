/-
The course of a body of statements.

A body decides from each answer what it asks next, so its statements are known only with
the world that it starts in.  Its course is the list of these statements, each with what
executing it on the lease amounts to.  Which of them count as failed is read off the course
and the settings alone; the lease and the sink are then shown to hold exactly those.
-/
import PooledQuery.Proofs.Session.Statement
import PooledQuery.Session.Run

namespace PooledQuery

variable {σ α : Type}

structure Attempt (σ : Type) where
  sql : Text
  params : List Value
  execution : Execution (World σ) Value

def Settings.counted (settings : Settings) (statement : FailedStatement) :
    List FailedStatement :=
  match settings.ignores statement.1 with
  | .ok false => [statement]
  | _ => []

namespace Attempt

/-- Whether executing the statement failed ordinarily. -/
def failed (attempt : Attempt σ) : Bool :=
  match attempt.execution.outcome with
  | .ok _ => false
  | .error failure => failure.isOrdinary

def failures (attempt : Attempt σ) (settings : Settings) : List FailedStatement :=
  if attempt.failed then settings.counted (attempt.sql, attempt.params) else []

theorem failures_of_not_failed (attempt : Attempt σ) (settings : Settings)
    (notFailed : attempt.failed = false) : attempt.failures settings = [] := by
  unfold failures
  rw [notFailed, if_neg Bool.false_ne_true]

theorem failures_of_failed (attempt : Attempt σ) (settings : Settings)
    (failed : attempt.failed = true) :
    attempt.failures settings = settings.counted (attempt.sql, attempt.params) := by
  unfold failures
  rw [failed, if_pos rfl]

theorem failure_of_failed (attempt : Attempt σ) (failed : attempt.failed = true) :
    ∃ failure, attempt.execution.outcome = .error failure ∧ failure.isOrdinary = true := by
  unfold Attempt.failed at failed
  cases outcome : attempt.execution.outcome with
  | ok response =>
      rw [outcome] at failed
      cases failed
  | error failure =>
      rw [outcome] at failed
      exact ⟨failure, rfl, failed⟩

end Attempt

def failuresOf (settings : Settings) (course : List (Attempt σ)) : List FailedStatement :=
  course.flatMap fun attempt => attempt.failures settings

def executions (course : List (Attempt σ)) : List Event :=
  course.flatMap fun attempt => attempt.execution.events

/-- The events of executing the statements of a course, with each counted failure handed to
a sink right after its statement. -/
def executionsWithReports (settings : Settings) (sink : Sink) (course : List (Attempt σ)) :
    List Event :=
  course.flatMap fun attempt => attempt.execution.events ++ sink.handed (attempt.failures settings)

namespace Session

variable (session : Session σ) (id : LeaseId)

def attempt (sql : Text) (params : List Value) (world : World σ) : Attempt σ :=
  ⟨sql, params, Lease.execute session.driver id sql params world⟩

def course : Body α → World σ → List (Attempt σ)
  | .finish _, _ => []
  | .stop _, _ => []
  | .query sql params next, world =>
      let asked := session.query id sql params world
      session.attempt id sql params world :: course (next asked.outcome) asked.state

/-- Every ordinary failure of a course can be logged, or need not be. -/
def CourseLoggable (settings : Settings) (course : List (Attempt σ)) : Prop :=
  ∀ attempt ∈ course, attempt.failed = true →
    session.CanLogFailure attempt.sql attempt.params settings

theorem perform_query (sql : Text) (params : List Value)
    (next : Except Failure Outcome → Body α) (world : World σ) :
    session.perform id (.query sql params next) world =
      let asked := session.query id sql params world
      let following := session.perform id (next asked.outcome) asked.state
      ⟨following.outcome, following.state, asked.events ++ following.events⟩ := rfl

theorem perform_within (body : Body α) :
    Action.Within (World.filling id) (Event.CallsAtMost [.execute, .close])
      (session.perform id body) := by
  induction body with
  | finish result => exact Action.Within.pure result
  | stop failure => exact Action.Within.fail failure
  | query sql params next ih =>
      exact (session.query_within id sql params).attempt.bind ih

theorem course_calls (body : Body α) (world : World σ) :
    ∀ attempt ∈ session.course id body world, ∀ event ∈ attempt.execution.events,
      event.call?.isSome = true := by
  induction body generalizing world with
  | finish result => exact fun _attempt member => nomatch member
  | stop failure => exact fun _attempt member => nomatch member
  | query sql params next ih =>
      intro attempt member
      rcases List.mem_cons.mp member with rfl | later
      · exact Lease.execute_calls session.driver id sql params world
      · exact ih _ _ attempt later

/-- A statement that does not fail ordinarily leaves the session's standing alone, and shows
its execution only. -/
theorem query_of_not_failed (sql : Text) (params : List Value) (world : World σ)
    (notFailed : (session.attempt id sql params world).failed = false) :
    World.Steady world (session.query id sql params world).state ∧
      outwardTrace (session.query id sql params world).events =
        (session.attempt id sql params world).execution.events := by
  have steady := (Lease.execute_within session.driver id sql params).state world
  have shown := outwardTrace_of_calls (Lease.execute_calls session.driver id sql params world)
  cases outcome : (Lease.execute session.driver id sql params world).outcome with
  | ok response =>
      obtain ⟨elapsed, called⟩ := session.query_of_ok id sql params world response outcome
      have completes := session.complete_within sql params response elapsed
      rw [called]
      dsimp only
      rw [outwardTrace_append, shown, outwardTrace_of_inward (completes.events _),
        List.append_nil]
      exact ⟨World.steady.trans steady (completes.state _), rfl⟩
  | error failure =>
      have interrupts : failure.isOrdinary = false := by
        unfold Attempt.failed Session.attempt at notFailed
        rw [outcome] at notFailed
        exact notFailed
      rw [session.query_of_interruption id sql params world failure outcome interrupts]
      exact ⟨steady, shown⟩

/-! ### Within a transaction -/

theorem reportFailure_of_transactional (sql : Text) (params : List Value) (world : World σ)
    (transactional : (world.lease id).transactional = true)
    (loggable : session.CanLogFailure sql params world.settings) :
    (∀ event ∈ (session.reportFailure id sql params world).events, event.IsInward) ∧
      ((session.reportFailure id sql params world).state.lease id).failed =
        (world.lease id).failed ++ world.settings.counted (sql, params) := by
  obtain ⟨lines, inward, logged⟩ := session.logFailure_run sql params world loggable
  unfold Session.reportFailure Settings.counted
  rw [Action.bind_of_ok _ _ world () (by rw [logged]), logged]
  dsimp only
  cases ignores : world.settings.ignores sql with
  | error failure =>
      rw [keepFailure_of_unreadable id sql params world failure ignores]
      dsimp only
      rw [List.append_nil, List.append_nil]
      exact ⟨inward, rfl⟩
  | ok ignored =>
      cases ignored with
      | true =>
          rw [keepFailure_of_ignored id sql params world ignores]
          dsimp only
          rw [List.append_nil, List.append_nil]
          exact ⟨inward, rfl⟩
      | false =>
          rw [keepFailure_of_transactional id sql params world ignores transactional]
          dsimp only
          rw [World.lease_withFailed world id (sql, params) transactional, List.append_nil]
          exact ⟨inward, rfl⟩

theorem query_of_transactional (sql : Text) (params : List Value) (world : World σ)
    (transactional : (world.lease id).transactional = true)
    (loggable : (session.attempt id sql params world).failed = true →
      session.CanLogFailure sql params world.settings) :
    outwardTrace (session.query id sql params world).events =
        (session.attempt id sql params world).execution.events ∧
      ((session.query id sql params world).state.lease id).failed =
        (world.lease id).failed ++
          (session.attempt id sql params world).failures world.settings := by
  cases failed : (session.attempt id sql params world).failed with
  | false =>
      have unfailed := session.query_of_not_failed id sql params world failed
      rw [Attempt.failures_of_not_failed _ _ failed, List.append_nil, unfailed.1.lease id]
      exact ⟨unfailed.2, rfl⟩
  | true =>
      obtain ⟨failure, outcome, ordinary⟩ := Attempt.failure_of_failed _ failed
      have steady := (Lease.execute_within session.driver id sql params).state world
      have reported := session.reportFailure_of_transactional id sql params
        (Lease.execute session.driver id sql params world).state
        (by rw [steady.lease id]; exact transactional)
        (by rw [steady.settings]; exact loggable failed)
      rw [steady.lease id, steady.settings] at reported
      rw [Attempt.failures_of_failed _ _ failed,
        session.query_of_failure id sql params world failure outcome ordinary]
      dsimp only
      rw [outwardTrace_append, outwardTrace_of_inward reported.1, List.append_nil]
      exact ⟨outwardTrace_of_calls (Lease.execute_calls session.driver id sql params world),
        reported.2⟩

/-- Within a transaction the sink sees nothing of a body, and its lease gets the statements
of its course that count as failed. -/
theorem perform_of_transactional (body : Body α) (world : World σ)
    (transactional : (world.lease id).transactional = true)
    (loggable : session.CourseLoggable world.settings (session.course id body world)) :
    outwardTrace (session.perform id body world).events =
        executions (session.course id body world) ∧
      ((session.perform id body world).state.lease id).failed =
        (world.lease id).failed ++
          failuresOf world.settings (session.course id body world) := by
  -- The first statement leaves the lease in its transaction and the settings alone, so the
  -- rest of the body adds its failures to those that stand there then.
  induction body generalizing world with
  | finish result => exact ⟨rfl, (List.append_nil _).symm⟩
  | stop failure => exact ⟨rfl, (List.append_nil _).symm⟩
  | query sql params next ih =>
      have kept := (session.query_within id sql params).state world
      have head := session.query_of_transactional id sql params world transactional
        (loggable _ List.mem_cons_self)
      have tail := ih (session.query id sql params world).outcome
        (session.query id sql params world).state
        (by rw [kept.transactional]; exact transactional)
        (by
          rw [kept.settings]
          exact fun attempt member => loggable attempt (List.mem_cons_of_mem _ member))
      rw [kept.settings, head.2] at tail
      rw [session.perform_query]
      dsimp only
      rw [outwardTrace_append, head.1, tail.1, tail.2, List.append_assoc]
      exact ⟨rfl, rfl⟩

/-! ### Outside a transaction -/

theorem reportFailure_of_plain (sql : Text) (params : List Value) (world : World σ)
    (plain : (world.lease id).transactional = false) (quiet : world.sink.NeverFails)
    (loggable : session.CanLogFailure sql params world.settings) :
    outwardTrace (session.reportFailure id sql params world).events =
      world.sink.handed (world.settings.counted (sql, params)) := by
  obtain ⟨lines, inward, logged⟩ := session.logFailure_run sql params world loggable
  unfold Session.reportFailure Settings.counted
  rw [Action.bind_of_ok _ _ world () (by rw [logged]), logged]
  dsimp only
  rw [outwardTrace_append, outwardTrace_of_inward inward, List.nil_append]
  cases ignores : world.settings.ignores sql with
  | error failure =>
      rw [keepFailure_of_unreadable id sql params world failure ignores]
      exact world.sink.handed_nil.symm
  | ok ignored =>
      cases ignored with
      | true =>
          rw [keepFailure_of_ignored id sql params world ignores]
          exact world.sink.handed_nil.symm
      | false =>
          rw [keepFailure_of_plain id sql params world ignores plain,
            World.report_run world (sql, params) quiet]
          exact outwardTrace_handed world.sink [(sql, params)]

theorem query_of_plain (sql : Text) (params : List Value) (world : World σ)
    (plain : (world.lease id).transactional = false) (quiet : world.sink.NeverFails)
    (loggable : (session.attempt id sql params world).failed = true →
      session.CanLogFailure sql params world.settings) :
    outwardTrace (session.query id sql params world).events =
      (session.attempt id sql params world).execution.events ++
        world.sink.handed ((session.attempt id sql params world).failures world.settings) := by
  cases failed : (session.attempt id sql params world).failed with
  | false =>
      rw [Attempt.failures_of_not_failed _ _ failed, Sink.handed_nil, List.append_nil]
      exact (session.query_of_not_failed id sql params world failed).2
  | true =>
      obtain ⟨failure, outcome, ordinary⟩ := Attempt.failure_of_failed _ failed
      have steady := (Lease.execute_within session.driver id sql params).state world
      have reported := session.reportFailure_of_plain id sql params
        (Lease.execute session.driver id sql params world).state
        (by rw [steady.lease id]; exact plain) (by rw [steady.sink]; exact quiet)
        (by rw [steady.settings]; exact loggable failed)
      rw [steady.sink, steady.settings] at reported
      rw [Attempt.failures_of_failed _ _ failed,
        session.query_of_failure id sql params world failure outcome ordinary]
      dsimp only
      rw [outwardTrace_append, reported,
        outwardTrace_of_calls (Lease.execute_calls session.driver id sql params world)]
      rfl

/-- Outside a transaction each statement that counts as failed is handed to the sink right
after its execution. -/
theorem perform_of_plain (body : Body α) (world : World σ)
    (plain : (world.lease id).transactional = false) (quiet : world.sink.NeverFails)
    (loggable : session.CourseLoggable world.settings (session.course id body world)) :
    outwardTrace (session.perform id body world).events =
      executionsWithReports world.settings world.sink (session.course id body world) := by
  induction body generalizing world with
  | finish result => rfl
  | stop failure => rfl
  | query sql params next ih =>
      have kept := (session.query_within id sql params).state world
      have head := session.query_of_plain id sql params world plain quiet
        (loggable _ List.mem_cons_self)
      have tail := ih (session.query id sql params world).outcome
        (session.query id sql params world).state
        (by rw [kept.transactional]; exact plain) (by rw [kept.sink]; exact quiet)
        (by
          rw [kept.settings]
          exact fun attempt member => loggable attempt (List.mem_cons_of_mem _ member))
      rw [kept.settings, kept.sink] at tail
      rw [session.perform_query]
      dsimp only
      rw [outwardTrace_append, head, tail]
      rfl

end Session
end PooledQuery
