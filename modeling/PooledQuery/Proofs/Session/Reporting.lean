/-
Which failed statements a run reports, and when.

The failed statements of a run are read off the course of its body.  A sink that takes
every statement is handed exactly these: in a transaction all at once, between a rollback
that succeeds and the return of the connection, and otherwise each right after its own
execution.  Whatever other runs have left on their leases plays no part and stays there.
-/
import PooledQuery.Proofs.Session.Discipline
import PooledQuery.Proofs.Session.Rehearsed

namespace PooledQuery.Session

variable {σ α : Type} (session : Session σ)

/-- The statements of a run that failed ordinarily and are not to be ignored, in order. -/
def runFailures (transactional : Bool) (body : Body α) (world : World σ) :
    List FailedStatement :=
  failuresOf world.settings (session.runCourse transactional body world)

/-- What a run reports to a sink. -/
structure ReportsOwnFailures (transactional : Bool) (body : Body α) (world : World σ) :
    Prop where
  -- A transaction that is rolled back hands over all its failures after the rollback and
  -- before it returns the connection.
  rolledBack : transactional = true → (session.acquire world).outcome = .ok () →
    session.completes body world = false → (session.rolledBack body world).outcome = .ok () →
    ∃ earlier, outwardTrace (session.runBody transactional body world).events =
        earlier ++ .rollback :: world.sink.handed (session.runFailures true body world) ++
          Lease.returnEvents session.pool session.driver ∧
      sinkTrace earlier = []
  -- A transaction that is committed, or cannot be rolled back, reports nothing.
  unreported : transactional = true →
    session.completes body world = true ∨ (session.rolledBack body world).outcome.isOk = false →
    sinkTrace (session.runBody transactional body world).events = []
  -- Outside a transaction each failure is handed over right after its execution.
  plain : transactional = false → (session.acquire world).outcome = .ok () →
    outwardTrace (session.runBody transactional body world).events =
      .acquire :: executionsWithReports world.settings world.sink
          (session.runCourse false body world) ++
        Lease.returnEvents session.pool session.driver
  -- Nothing is reported but failures of the run's own statements.
  own : ∀ statement ∈ sinkTrace (session.runBody transactional body world).events,
    statement ∈ session.runFailures transactional body world
  -- What other runs have left on their leases stays there.
  others : ∀ other < world.leases.length,
    (session.runBody transactional body world).state.lease other = world.lease other

variable (body : Body α) (world : World σ)

theorem sinkTrace_returnEvents :
    sinkTrace (Lease.returnEvents session.pool session.driver) = [] := by
  rcases Lease.returnEvents_cases session.pool session.driver with back | back | back <;>
    rw [back] <;> rfl

private theorem outwardTrace_returnEvents :
    outwardTrace (Lease.returnEvents session.pool session.driver) =
      Lease.returnEvents session.pool session.driver := by
  rcases Lease.returnEvents_cases session.pool session.driver with back | back | back <;>
    rw [back] <;> rfl

theorem outwardTrace_runBody (transactional : Bool)
    (acquired : (session.acquire world).outcome = .ok ()) :
    outwardTrace (session.runBody transactional body world).events =
      .acquire :: outwardTrace (session.work transactional body world).events ++
        Lease.returnEvents session.pool session.driver := by
  rw [(session.runBody_of_acquired body world transactional acquired).2]
  change .acquire :: outwardTrace (_ ++ _) = _
  rw [outwardTrace_append, session.outwardTrace_returnEvents]
  rfl

theorem sinkTrace_runBody_of_refused (transactional : Bool) (failure : Failure)
    (refused : (session.acquire world).outcome = .error failure) :
    sinkTrace (session.runBody transactional body world).events = [] := by
  unfold Session.runBody
  rw [session.run_of_refused transactional _ world failure refused]
  exact sinkTrace_of_calls fun event member =>
    (session.acquire_within.events world event member).isCall

private theorem sinkTrace_begun : sinkTrace (session.begun world).events = [] :=
  sinkTrace_of_calls fun event member =>
    ((Lease.begin_within session.driver session.dialect (nextLease world)).events
      (session.borrowed true world) event member).isCall

private theorem sinkTrace_executions (course : List (Attempt σ))
    (calls : ∀ attempt ∈ course, ∀ event ∈ attempt.execution.events, event.call?.isSome = true) :
    sinkTrace (executions course) = [] := by
  refine sinkTrace_of_calls fun event member => ?_
  obtain ⟨attempt, present, ofAttempt⟩ := List.mem_flatMap.mp member
  exact calls attempt present event ofAttempt

private theorem mem_failuresOf_of_reported (settings : Settings) (sink : Sink)
    (course : List (Attempt σ))
    (calls : ∀ attempt ∈ course, ∀ event ∈ attempt.execution.events, event.call?.isSome = true)
    (statement : FailedStatement)
    (member : statement ∈ sinkTrace (executionsWithReports settings sink course)) :
    statement ∈ failuresOf settings course := by
  obtain ⟨event, present, reported⟩ := List.mem_filterMap.mp member
  obtain ⟨attempt, ofCourse, ofAttempt⟩ := List.mem_flatMap.mp present
  refine List.mem_flatMap.mpr ⟨attempt, ofCourse, ?_⟩
  rcases List.mem_append.mp ofAttempt with executed | handed
  · have called := calls attempt ofCourse event executed
    cases event with
    | report sql params => cases called
    | _ => cases reported
  · exact mem_of_mem_sinkTrace_handed sink _ statement
      (List.mem_filterMap.mpr ⟨event, handed, reported⟩)

/-- Until it is rolled back a transaction reports nothing; its lease has its failures. -/
theorem transacted_failures (acquired : (session.acquire world).outcome = .ok ())
    (loggable : session.CourseLoggable world.settings (session.runCourse true body world)) :
    sinkTrace (session.transacted body world).events = [] ∧
      ((session.transacted body world).state.lease (nextLease world)).failed =
        session.runFailures true body world := by
  have fresh := session.lease_entered world true
  have noBegin := session.sinkTrace_begun world
  unfold runFailures
  cases begins : (session.begun world).outcome with
  | error failure =>
      rw [session.transacted_of_not_begun body world failure begins,
        session.runCourse_of_not_begun body world failure begins]
      exact ⟨noBegin, congrArg Lease.failed fresh⟩
  | ok done =>
      rw [session.runCourse_of_begun body world acquired begins] at loggable ⊢
      rw [← session.entered_settings world true] at loggable
      -- The lease is fresh, so what stands on it after the body are the body's own failures.
      have performed := session.perform_of_transactional (nextLease world) body
        (session.entered true world) (by rw [fresh]) loggable
      rw [session.entered_settings world true, fresh] at performed
      have noWork : sinkTrace (session.worked true body world).events = [] := by
        rw [← sinkTrace_outwardTrace]
        unfold worked
        rw [performed.1]
        exact sinkTrace_executions _ (session.course_calls _ body _)
      refine ⟨?_, ?_⟩
      · rw [session.transacted_events body world begins, sinkTrace_append, sinkTrace_append,
          noBegin, noWork, session.committed_events]
        cases (session.worked true body world).outcome.isOk <;> rfl
      · rw [session.lease_transacted body world begins]
        exact performed.2

private theorem rolledBack_steady :
    World.Steady (session.transacted body world).state (session.rolledBack body world).state :=
  (Lease.rollback_within session.driver (nextLease world)).state _

theorem outwardTrace_of_rolledBack (quiet : world.sink.NeverFails)
    (acquired : (session.acquire world).outcome = .ok ())
    (loggable : session.CourseLoggable world.settings (session.runCourse true body world))
    (fails : session.completes body world = false)
    (back : (session.rolledBack body world).outcome = .ok ()) :
    outwardTrace (session.work true body world).events =
      outwardTrace (session.transacted body world).events ++
        .rollback :: world.sink.handed (session.runFailures true body world) := by
  have failures := (session.transacted_failures body world acquired loggable).2
  have steady := session.rolledBack_steady body world
  have sink : (session.rolledBack body world).state.sink = world.sink :=
    steady.sink.trans ((session.transacted_fills body world).sink.trans
      (session.borrowed_sink true world))
  rw [session.completes_eq] at fails
  cases failed : (session.transacted body world).outcome with
  | ok result =>
      rw [failed] at fails
      cases fails
  | error failure =>
      rw [session.work_events_of_rolledBack body world failure failed back,
        reportAll_run _ _ (by rw [sink]; exact quiet), steady.lease, failures, sink,
        outwardTrace_append]
      change _ ++ (.rollback :: outwardTrace _) = _
      rw [outwardTrace_handed]

theorem sinkTrace_of_unreported
    (acquired : (session.acquire world).outcome = .ok ())
    (loggable : session.CourseLoggable world.settings (session.runCourse true body world))
    (ends : session.completes body world = true ∨
      (session.rolledBack body world).outcome.isOk = false) :
    sinkTrace (session.work true body world).events = [] := by
  have silent := (session.transacted_failures body world acquired loggable).1
  rw [session.completes_eq] at ends
  cases failed : (session.transacted body world).outcome with
  | ok result =>
      rw [session.work_of_committed body world result failed]
      exact silent
  | error failure =>
      rw [failed] at ends
      have refused := ends.resolve_left Bool.false_ne_true
      cases back : (session.rolledBack body world).outcome with
      | ok done =>
          rw [back] at refused
          cases refused
      | error refusal =>
          rw [session.work_events_of_refused body world failure refusal failed back,
            sinkTrace_append, silent]
          rfl

theorem outwardTrace_of_plain (quiet : world.sink.NeverFails)
    (acquired : (session.acquire world).outcome = .ok ())
    (loggable : session.CourseLoggable world.settings (session.runCourse false body world)) :
    outwardTrace (session.work false body world).events =
      executionsWithReports world.settings world.sink (session.runCourse false body world) := by
  rw [session.runCourse_of_plain body world acquired] at loggable ⊢
  rw [← session.entered_settings world false, ← session.entered_sink world false] at *
  exact session.perform_of_plain (nextLease world) body (session.entered false world)
    (by rw [session.lease_entered world false]) quiet loggable

private theorem sinkTrace_runBody_of_unreported
    (loggable : session.CourseLoggable world.settings (session.runCourse true body world))
    (ends : session.completes body world = true ∨
      (session.rolledBack body world).outcome.isOk = false) :
    sinkTrace (session.runBody true body world).events = [] := by
  cases acquired : (session.acquire world).outcome with
  | error failure => exact session.sinkTrace_runBody_of_refused body world true failure acquired
  | ok done =>
      rw [(session.runBody_of_acquired body world true acquired).2]
      change sinkTrace (_ ++ _) = []
      rw [sinkTrace_append, session.sinkTrace_returnEvents,
        session.sinkTrace_of_unreported body world acquired loggable ends]
      rfl

private theorem mem_runFailures_of_reported (transactional : Bool) (quiet : world.sink.NeverFails)
    (loggable : session.CourseLoggable world.settings
      (session.runCourse transactional body world)) (statement : FailedStatement)
    (member : statement ∈ sinkTrace (session.runBody transactional body world).events) :
    statement ∈ session.runFailures transactional body world := by
  cases acquired : (session.acquire world).outcome with
  | error failure =>
      rw [session.sinkTrace_runBody_of_refused body world transactional failure acquired] at member
      cases member
  | ok done =>
      rw [(session.runBody_of_acquired body world transactional acquired).2] at member
      change statement ∈ sinkTrace (_ ++ _) at member
      rw [sinkTrace_append, session.sinkTrace_returnEvents, List.append_nil] at member
      cases transactional with
      | false =>
          rw [← sinkTrace_outwardTrace,
            session.outwardTrace_of_plain body world quiet acquired loggable] at member
          refine mem_failuresOf_of_reported world.settings world.sink _ ?_ statement member
          rw [session.runCourse_of_plain body world acquired]
          exact session.course_calls (nextLease world) body _
      | true =>
          -- A transaction reports after a rollback that succeeds, and at no other time.
          have silent := (session.transacted_failures body world acquired loggable).1
          by_cases reports : session.completes body world = false ∧
              (session.rolledBack body world).outcome = .ok ()
          · rw [← sinkTrace_outwardTrace, session.outwardTrace_of_rolledBack body world quiet
              acquired loggable reports.1 reports.2, sinkTrace_append, sinkTrace_outwardTrace,
              silent] at member
            exact mem_of_mem_sinkTrace_handed world.sink _ statement member
          · rw [session.sinkTrace_of_unreported body world acquired loggable ?_] at member
            · cases member
            · cases done : session.completes body world with
              | true => exact .inl rfl
              | false =>
                  cases back : (session.rolledBack body world).outcome with
                  | ok finished => exact absurd ⟨done, back⟩ reports
                  | error refusal => exact .inr rfl

private theorem lease_runBody_other (transactional : Bool) (other : LeaseId)
    (earlier : other < world.leases.length) :
    (session.runBody transactional body world).state.lease other = world.lease other := by
  have different : other ≠ nextLease world := Nat.ne_of_lt earlier
  cases acquired : (session.acquire world).outcome with
  | error failure =>
      unfold Session.runBody
      rw [session.run_of_refused transactional _ world failure acquired]
      exact (session.acquire_within.state world).lease other
  | ok done =>
      rw [(session.runBody_of_acquired body world transactional acquired).1]
      have released := (Lease.release_within session.pool session.driver (nextLease world)).state
        (session.work transactional body world).state other different
      have worked := (session.work_fills body world transactional).others other different
      exact released.trans (worked.trans
        (session.lease_borrowed_other transactional world different))

theorem runBody_reports_own_failures (transactional : Bool) (quiet : world.sink.NeverFails)
    (loggable : session.CourseLoggable world.settings
      (session.runCourse transactional body world)) :
    session.ReportsOwnFailures transactional body world where
  rolledBack := by
    rintro rfl acquired fails back
    refine ⟨.acquire :: outwardTrace (session.transacted body world).events, ?_, ?_⟩
    · rw [session.outwardTrace_runBody body world true acquired,
        session.outwardTrace_of_rolledBack body world quiet acquired loggable fails back]
      rfl
    · have silent := (session.transacted_failures body world acquired loggable).1
      change sinkTrace (outwardTrace _) = []
      rw [sinkTrace_outwardTrace, silent]
  unreported := by
    rintro rfl ends
    exact session.sinkTrace_runBody_of_unreported body world loggable ends
  plain := by
    rintro rfl acquired
    rw [session.outwardTrace_runBody body world false acquired,
      session.outwardTrace_of_plain body world quiet acquired loggable]
  own := session.mem_runFailures_of_reported body world transactional quiet loggable
  others := session.lease_runBody_other body world transactional

/-- A body that passes over its first failure and ends with its second one. -/
def twiceFailing : Body Unit :=
  .query "UPDATE bad SET x = %s" [.text "a"] fun _passed =>
    .query "DELETE FROM bad" [] fun outcome => Body.ofExcept (outcome.map fun _done => ())

/-- A world with a lease on which another transaction has left a failure. -/
def visitedWorld : World Rehearsal.Stage :=
  Rehearsal.quietWorld .plain (Rehearsal.refusing "bad") [⟨true, true, [("SELECT 1", [])]⟩]

theorem twiceFailing_reports_own_failures :
    (visitedWorld.sink.NeverFails ∧
      (Rehearsal.willingSession .mysql (Rehearsal.refusing "bad")).CourseLoggable
        visitedWorld.settings ((Rehearsal.willingSession .mysql
          (Rehearsal.refusing "bad")).runCourse true twiceFailing visitedWorld)) ∧
      (Rehearsal.willingSession .mysql (Rehearsal.refusing "bad")).ReportsOwnFailures true
        twiceFailing visitedWorld := by
  have quiet : visitedWorld.sink.NeverFails := Rehearsal.quietWorld_neverFails _ _ _
  have loggable : (Rehearsal.willingSession .mysql (Rehearsal.refusing "bad")).CourseLoggable
      visitedWorld.settings ((Rehearsal.willingSession .mysql
        (Rehearsal.refusing "bad")).runCourse true twiceFailing visitedWorld) := by
    intro attempt member failed
    change attempt ∈ [_, _] at member
    rcases List.mem_cons.mp member with rfl | later
    · exact .inr ⟨_, rfl⟩
    · rw [List.mem_singleton.mp later]
      exact .inr ⟨_, rfl⟩
  exact ⟨⟨quiet, loggable⟩,
    runBody_reports_own_failures _ twiceFailing visitedWorld true quiet loggable⟩

example : sinkTrace ((Rehearsal.willingSession .mysql (Rehearsal.refusing "bad")).runBody true
    twiceFailing visitedWorld).events =
      [(("UPDATE bad SET x = %s" : Text), [Value.text "a"]), (("DELETE FROM bad" : Text), [])] := by
  rfl

end PooledQuery.Session
