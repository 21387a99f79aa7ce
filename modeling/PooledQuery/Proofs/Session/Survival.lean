/-
What becomes of a statement's failure.

A failure is logged before it is recorded, and writing its log line can itself fail: the
parameters may have no literals, or the dialect may have no placeholder.  Such a refusal
takes the place of the failure, and the statement is not recorded.  So the failure gets
through, and is recorded unless it is to be ignored, exactly if its line can be written or
need not be, and the marker of ignored statements can be read.
-/
import PooledQuery.Proofs.Session.Course
import PooledQuery.Proofs.Session.Rehearsed

namespace PooledQuery.Session

variable {σ : Type} (session : Session σ) (id : LeaseId) (sql : Text) (params : List Value)
  (world : World σ)

/-- What a failed statement leaves behind besides the calls of its own: the recorded
statements, on its lease within a transaction, and with the sink otherwise. -/
structure Records (recorded : List FailedStatement) : Prop where
  kept : ((session.query id sql params world).state.lease id).failed =
    (world.lease id).failed ++ if (world.lease id).transactional then recorded else []
  shown : outwardTrace (session.query id sql params world).events =
    (Lease.execute session.driver id sql params world).events ++
      if (world.lease id).transactional then [] else world.sink.handed recorded

/-- A failure reaches the caller as it is, and is recorded unless it is to be ignored. -/
def FailureSurvives (failure : Failure) : Prop :=
  (session.query id sql params world).outcome = .error failure ∧
    (world.settings.ignores sql ≠ .ok true →
      session.Records id sql params world [(sql, params)])

/-- What becomes of a statement's failure. -/
structure FailureHandled (failure : Failure) : Prop where
  -- It gets through once it is logged and the marker is read.
  raised : session.CanLogFailure sql params world.settings →
    ∀ ignored, world.settings.ignores sql = .ok ignored →
      (session.query id sql params world).outcome = .error failure
  -- It is recorded once it is logged, unless it is to be ignored.
  recorded : session.CanLogFailure sql params world.settings →
    session.Records id sql params world (world.settings.counted (sql, params))
  -- What the log line is refused for takes its place, and nothing is recorded.
  masked : ∀ refusal, world.settings.echo ≠ .silent →
    Template.render (some session.dialect) sql params = .error refusal →
      (session.query id sql params world).outcome = .error refusal ∧
        session.Records id sql params world []
  -- What the marker is refused for takes its place.
  unreadable : session.CanLogFailure sql params world.settings →
    ∀ refusal, world.settings.ignores sql = .error refusal →
      (session.query id sql params world).outcome = .error refusal
  -- It survives exactly if it can be logged and the marker can be read.
  survives : (∀ refusal, Template.render (some session.dialect) sql params = .error refusal ∨
      world.settings.ignores sql = .error refusal → refusal ≠ failure) →
    (session.FailureSurvives id sql params world failure ↔
      session.CanLogFailure sql params world.settings ∧
        ∃ ignored, world.settings.ignores sql = .ok ignored)

variable {session id sql params world}

private theorem refusal_of_not_canLogFailure {settings : Settings}
    (unloggable : ¬ session.CanLogFailure sql params settings) :
    settings.echo ≠ .silent ∧
      ∃ refusal, Template.render (some session.dialect) sql params = .error refusal := by
  unfold CanLogFailure at unloggable
  rw [not_or] at unloggable
  refine ⟨unloggable.1, ?_⟩
  cases rendered : Template.render (some session.dialect) sql params with
  | ok text => exact absurd ⟨text, rendered⟩ unloggable.2
  | error refusal => exact ⟨refusal, rfl⟩

theorem counted_of_not_ignored {settings : Settings} (counts : settings.ignores sql = .ok false) :
    settings.counted (sql, params) = [(sql, params)] := by
  unfold Settings.counted
  rw [counts]

private theorem keepFailure_outcome (ignored : Bool) (quiet : world.sink.NeverFails)
    (readable : world.settings.ignores sql = .ok ignored) :
    (keepFailure id sql params world).outcome = .ok () := by
  cases ignored with
  | true => rw [keepFailure_of_ignored id sql params world readable]
  | false =>
      cases transactional : (world.lease id).transactional with
      | true => rw [keepFailure_of_transactional id sql params world readable transactional]
      | false =>
          rw [keepFailure_of_plain id sql params world readable transactional,
            World.report_run world (sql, params) quiet]

private theorem keepFailure_steady (plain : (world.lease id).transactional = false) :
    World.Steady world (keepFailure id sql params world).state := by
  cases readable : world.settings.ignores sql with
  | error refusal =>
      rw [keepFailure_of_unreadable id sql params world refusal readable]
      exact World.steady.refl world
  | ok ignored =>
      cases ignored with
      | true =>
          rw [keepFailure_of_ignored id sql params world readable]
          exact World.steady.refl world
      | false =>
          rw [keepFailure_of_plain id sql params world readable plain]
          exact (World.report_within (sql, params)).state world

theorem reportFailure_of_loggable (loggable : session.CanLogFailure sql params world.settings) :
    (session.reportFailure id sql params world).outcome =
        (keepFailure id sql params world).outcome ∧
      (session.reportFailure id sql params world).state =
        (keepFailure id sql params world).state := by
  obtain ⟨lines, inward, logged⟩ := session.logFailure_run sql params world loggable
  unfold Session.reportFailure
  rw [Action.bind_of_ok _ _ world () (by rw [logged]), logged]
  exact ⟨rfl, rfl⟩

private theorem reportFailure_of_unrenderable (refusal : Failure)
    (spoken : world.settings.echo ≠ .silent)
    (unrendered : Template.render (some session.dialect) sql params = .error refusal) :
    session.reportFailure id sql params world = ⟨.error refusal, world, []⟩ := by
  have refused := session.logFailure_of_unrenderable sql params world refusal spoken unrendered
  unfold Session.reportFailure
  rw [Action.bind_of_error _ _ world refusal (by rw [refused]), refused]

section Failing

variable {failure : Failure}
  (failed : (Lease.execute session.driver id sql params world).outcome = .error failure)
  (ordinary : failure.isOrdinary = true)

include failed ordinary

private theorem attempt_failed : (session.attempt id sql params world).failed = true := by
  unfold Attempt.failed Session.attempt
  rw [failed]
  exact ordinary

theorem query_outcome_of_readable (quiet : world.sink.NeverFails)
    (loggable : session.CanLogFailure sql params world.settings) (ignored : Bool)
    (readable : world.settings.ignores sql = .ok ignored) :
    (session.query id sql params world).outcome = .error failure := by
  have steady := (Lease.execute_within session.driver id sql params).state world
  rw [session.query_of_failure id sql params world failure failed ordinary]
  dsimp only
  rw [(reportFailure_of_loggable (by rw [steady.settings]; exact loggable)).1,
    keepFailure_outcome ignored (by rw [steady.sink]; exact quiet)
      (by rw [steady.settings]; exact readable)]
  rfl

theorem query_outcome_of_unreadable (refusal : Failure)
    (loggable : session.CanLogFailure sql params world.settings)
    (unreadable : world.settings.ignores sql = .error refusal) :
    (session.query id sql params world).outcome = .error refusal := by
  have steady := (Lease.execute_within session.driver id sql params).state world
  rw [session.query_of_failure id sql params world failure failed ordinary]
  dsimp only
  rw [(reportFailure_of_loggable (by rw [steady.settings]; exact loggable)).1,
    keepFailure_of_unreadable id sql params _ refusal (by rw [steady.settings]; exact unreadable)]
  rfl

theorem query_of_unrenderable (refusal : Failure) (spoken : world.settings.echo ≠ .silent)
    (unrendered : Template.render (some session.dialect) sql params = .error refusal) :
    session.query id sql params world =
      let executed := Lease.execute session.driver id sql params world
      ⟨.error refusal, executed.state, executed.events⟩ := by
  have steady := (Lease.execute_within session.driver id sql params).state world
  rw [session.query_of_failure id sql params world failure failed ordinary]
  dsimp only
  rw [reportFailure_of_unrenderable refusal (by rw [steady.settings]; exact spoken) unrendered,
    List.append_nil]
  rfl

private theorem records_nothing_of_unrenderable (refusal : Failure)
    (spoken : world.settings.echo ≠ .silent)
    (unrendered : Template.render (some session.dialect) sql params = .error refusal) :
    session.Records id sql params world [] := by
  have steady := (Lease.execute_within session.driver id sql params).state world
  have called := query_of_unrenderable failed ordinary refusal spoken unrendered
  constructor
  · rw [called, ite_self, List.append_nil]
    exact congrArg Lease.failed (steady.lease id)
  · rw [called, Sink.handed_nil, ite_self, List.append_nil]
    exact outwardTrace_of_calls (Lease.execute_calls session.driver id sql params world)

theorem records_counted (quiet : world.sink.NeverFails)
    (loggable : session.CanLogFailure sql params world.settings) :
    session.Records id sql params world (world.settings.counted (sql, params)) := by
  have fails : (session.attempt id sql params world).failed = true :=
    attempt_failed failed ordinary
  have counts := (session.attempt id sql params world).failures_of_failed world.settings fails
  cases transactional : (world.lease id).transactional with
  | true =>
      have called := session.query_of_transactional id sql params world transactional
        fun _failed => loggable
      rw [counts] at called
      constructor
      · rw [transactional, if_pos rfl]
        exact called.2
      · rw [transactional, if_pos rfl, List.append_nil]
        exact called.1
  | false =>
      have called := session.query_of_plain id sql params world transactional quiet
        fun _failed => loggable
      rw [counts] at called
      constructor
      · have steady := (Lease.execute_within session.driver id sql params).state world
        have reported : World.Steady (Lease.execute session.driver id sql params world).state
            (session.query id sql params world).state := by
          rw [session.query_of_failure id sql params world failure failed ordinary]
          dsimp only
          rw [(reportFailure_of_loggable (by rw [steady.settings]; exact loggable)).2]
          exact keepFailure_steady (by rw [steady.lease]; exact transactional)
        rw [transactional, if_neg Bool.false_ne_true, List.append_nil, reported.lease id,
          steady.lease id]
      · rw [transactional, if_neg Bool.false_ne_true]
        exact called

private theorem failureSurvives_of_readable (quiet : world.sink.NeverFails)
    (loggable : session.CanLogFailure sql params world.settings) (ignored : Bool)
    (readable : world.settings.ignores sql = .ok ignored) :
    session.FailureSurvives id sql params world failure := by
  refine ⟨query_outcome_of_readable failed ordinary quiet loggable ignored readable, ?_⟩
  intro notIgnored
  have recorded := records_counted failed ordinary quiet loggable
  cases ignored with
  | true => exact absurd readable notIgnored
  | false =>
      rw [counted_of_not_ignored readable] at recorded
      exact recorded

private theorem loggable_of_failureSurvives
    (foreign : ∀ refusal, Template.render (some session.dialect) sql params = .error refusal ∨
      world.settings.ignores sql = .error refusal → refusal ≠ failure)
    (survives : session.FailureSurvives id sql params world failure) :
    session.CanLogFailure sql params world.settings ∧
      ∃ ignored, world.settings.ignores sql = .ok ignored := by
  have getsThrough := survives.1
  have loggable : session.CanLogFailure sql params world.settings := by
    -- Otherwise the refusal of the log line would have been raised.
    refine Classical.byContradiction fun unloggable => ?_
    obtain ⟨spoken, refusal, unrendered⟩ := refusal_of_not_canLogFailure unloggable
    rw [query_of_unrenderable failed ordinary refusal spoken unrendered] at getsThrough
    exact foreign refusal (.inl unrendered) (Except.error.inj getsThrough)
  refine ⟨loggable, ?_⟩
  cases readable : world.settings.ignores sql with
  | ok ignored => exact ⟨ignored, rfl⟩
  | error refusal =>
      rw [query_outcome_of_unreadable failed ordinary refusal loggable readable] at getsThrough
      exact absurd (Except.error.inj getsThrough) (foreign refusal (.inr readable))

end Failing

theorem query_handles_failure (failure : Failure)
    (failed : (Lease.execute session.driver id sql params world).outcome = .error failure)
    (ordinary : failure.isOrdinary = true) (quiet : world.sink.NeverFails) :
    session.FailureHandled id sql params world failure where
  raised loggable ignored readable :=
    query_outcome_of_readable failed ordinary quiet loggable ignored readable
  recorded loggable := records_counted failed ordinary quiet loggable
  masked refusal spoken unrendered := by
    refine ⟨?_, records_nothing_of_unrenderable failed ordinary refusal spoken unrendered⟩
    rw [query_of_unrenderable failed ordinary refusal spoken unrendered]
  unreadable loggable refusal unreadable :=
    query_outcome_of_unreadable failed ordinary refusal loggable unreadable
  survives foreign := by
    refine ⟨loggable_of_failureSurvives failed ordinary foreign, ?_⟩
    rintro ⟨loggable, ignored, readable⟩
    exact failureSurvives_of_readable failed ordinary quiet loggable ignored readable

/-- A world with one lease outside a transaction. -/
def plainWorld : World Rehearsal.Stage :=
  Rehearsal.quietWorld .plain (Rehearsal.refusing "bad") [⟨true, false, []⟩]

theorem refused_insert_handled :
    ((Lease.execute (Rehearsal.willingSession .mysql (Rehearsal.refusing "bad")).driver 0
        "INSERT INTO bad VALUES (%s)" [.table false []] plainWorld).outcome =
          .error (.raised .driver "refused") ∧
      (Failure.raised .driver "refused").isOrdinary = true ∧ plainWorld.sink.NeverFails) ∧
      (Rehearsal.willingSession .mysql (Rehearsal.refusing "bad")).FailureHandled 0
        "INSERT INTO bad VALUES (%s)" [.table false []] plainWorld
          (.raised .driver "refused") := by
  have quiet : plainWorld.sink.NeverFails := Rehearsal.quietWorld_neverFails _ _ _
  exact ⟨⟨rfl, rfl, quiet⟩, query_handles_failure _ rfl rfl quiet⟩

/-- A table has no literal, so its statement's failure is lost. -/
theorem refused_insert_of_table_lost :
    (Lease.execute (Rehearsal.willingSession .mysql (Rehearsal.refusing "bad")).driver 0
        "INSERT INTO bad VALUES (%s)" [.table false []] plainWorld).outcome =
          .error (.raised .driver "refused") ∧
      (Failure.raised .driver "refused").isOrdinary = true ∧ plainWorld.sink.NeverFails ∧
      ¬ (Rehearsal.willingSession .mysql (Rehearsal.refusing "bad")).FailureSurvives 0
        "INSERT INTO bad VALUES (%s)" [.table false []] plainWorld
          (.raised .driver "refused") := by
  refine ⟨rfl, rfl, Rehearsal.quietWorld_neverFails _ _ _, ?_⟩
  intro survives
  have masked : ((Rehearsal.willingSession .mysql (Rehearsal.refusing "bad")).query 0
      "INSERT INTO bad VALUES (%s)" [.table false []] plainWorld).outcome =
        .error .tableAsParameter := rfl
  rw [survives.1] at masked
  cases masked

end PooledQuery.Session
