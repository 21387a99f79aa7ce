/-
What one statement does.

A statement reaches the driver only through the cursor that executes it.  After a success
everything else stays within the session.  After an ordinary failure the log line comes
first; if it can be written, or need not be, the statement is kept on its lease or handed
to the sink, and the driver's failure goes on.
-/
import PooledQuery.Proofs.Session.Lease
import PooledQuery.Session.Query

namespace PooledQuery

variable {σ α : Type}

namespace World

/-- Two worlds of which the second has at most more failed statements on one lease. -/
structure Fills (id : LeaseId) (before after : World σ) : Prop where
  settings : after.settings = before.settings
  transform : after.transform = before.transform
  sink : after.sink = before.sink
  isOpen : (after.lease id).isOpen = (before.lease id).isOpen
  transactional : (after.lease id).transactional = (before.lease id).transactional
  others : ∀ other, other ≠ id → after.lease other = before.lease other

/-- The frame of work on one lease. -/
def filling (id : LeaseId) : Frame (World σ) where
  relates := Fills id
  refl := fun _world => ⟨rfl, rfl, rfl, rfl, rfl, fun _other _different => rfl⟩
  trans := fun former latter =>
    { settings := latter.settings.trans former.settings
      transform := latter.transform.trans former.transform
      sink := latter.sink.trans former.sink
      isOpen := latter.isOpen.trans former.isOpen
      transactional := latter.transactional.trans former.transactional
      others := fun other different =>
        (latter.others other different).trans (former.others other different) }

theorem Steady.fills {before after : World σ} (same : Steady before after) (id : LeaseId) :
    Fills id before after where
  settings := same.settings
  transform := same.transform
  sink := same.sink
  isOpen := by rw [same.lease id]
  transactional := by rw [same.lease id]
  others := fun other _different => same.lease other

theorem filling_of_steady {α : Type} {allowed : Event → Prop} {action : Action (World σ) α}
    (bounded : Action.Within steady allowed action) (id : LeaseId) :
    Action.Within (filling id) allowed action :=
  bounded.enlarge fun same => same.fills id

/-- The world with one more failed statement on a lease. -/
def withFailed (world : World σ) (id : LeaseId) (statement : FailedStatement) : World σ :=
  { world with
    leases := world.leases.modify id fun lease =>
      { lease with failed := lease.failed ++ [statement] } }

theorem lease_withFailed (world : World σ) (id : LeaseId) (statement : FailedStatement)
    (transactional : (world.lease id).transactional = true) :
    (world.withFailed id statement).lease id =
      { world.lease id with failed := (world.lease id).failed ++ [statement] } := by
  unfold World.lease at transactional ⊢
  unfold withFailed
  simp only [List.getD_eq_getElem?_getD, List.getElem?_modify_eq] at transactional ⊢
  cases found : world.leases[id]? with
  | none =>
      rw [found] at transactional
      cases transactional
  | some lease => rfl

theorem withFailed_fills (world : World σ) (id : LeaseId) (statement : FailedStatement)
    (transactional : (world.lease id).transactional = true) :
    Fills id world (world.withFailed id statement) where
  settings := rfl
  transform := rfl
  sink := rfl
  isOpen := by rw [lease_withFailed world id statement transactional]
  transactional := by rw [lease_withFailed world id statement transactional]
  others := fun other different => lease_modify_other world id other _ different

theorem report_run (world : World σ) (statement : FailedStatement)
    (quiet : world.sink.NeverFails) :
    World.report statement world = ⟨.ok (), world, world.sink.handed [statement]⟩ := by
  unfold World.report
  rw [Action.read_bind]
  cases sink : world.sink with
  | discard => rfl
  | report respond =>
      rw [sink] at quiet
      have taken : respond statement.1 statement.2 = .ok () := quiet statement.1 statement.2
      simp only [taken]
      rfl

theorem report_within (statement : FailedStatement) :
    Action.Within steady (Event.CallsAtMost [])
      (World.report statement : Action (World σ) Unit) := by
  unfold World.report
  refine Action.Within.read.bind fun world => ?_
  cases world.sink with
  | discard => exact Action.Within.pure ()
  | report respond =>
      have silent : Event.CallsAtMost [] (.report statement.1 statement.2) :=
        Event.callsAtMost_of_none rfl
      exact (Action.Within.emit _ silent).bind fun _emitted => Action.Within.ofExcept _

theorem setSlowLog_within {allowed : Event → Prop} (slowLog : SlowLog) :
    Action.Within steady allowed
      (Action.update fun world : World σ => { world with slowLog := slowLog }) :=
  Action.Within.update _ fun _world => ⟨rfl, rfl, rfl, rfl⟩

end World

namespace Session

theorem render_of_fingerprint {dialect : Option Dialect} {sql : Text} {params : List Value}
    {key : Text} (fingerprint : Fingerprint.ofStatement dialect sql params = .ok key) :
    ∃ text, Template.render dialect sql params = .ok text := by
  unfold Fingerprint.ofStatement at fingerprint
  cases rendered : Template.render dialect sql params with
  | ok text => exact ⟨text, rfl⟩
  | error failure =>
      rw [rendered] at fingerprint
      cases fingerprint

theorem exists_echoLine {level : Echo} (statement : Text) {outcome : Outcome}
    (written : level = .full → ∃ text, outcome.written = .ok text) :
    ∃ line, echoLine level statement outcome = .ok line := by
  cases level with
  | full =>
      obtain ⟨text, shows⟩ := written rfl
      unfold echoLine
      rw [shows]
      exact ⟨_, rfl⟩
  | plain => exact ⟨_, rfl⟩
  | silent => exact ⟨_, rfl⟩

variable (session : Session σ) (id : LeaseId) (sql : Text) (params : List Value)

theorem log_within (channel : LogChannel) (severity : Severity) (line : LogLine)
    (cause : Option Failure) :
    Action.Within World.steady Event.IsInward (session.log channel severity line cause) := by
  unfold Session.log
  cases severity.reaches session.logFloor with
  | true => exact Action.Within.emit _ rfl
  | false => exact Action.Within.pure ()

theorem rendered_within :
    Action.Within World.steady Event.IsInward (session.rendered sql params) :=
  Action.Within.ofExcept _

theorem outcomeOf_within (response : Value) :
    Action.Within World.steady Event.IsInward
      (World.outcomeOf response : Action (World σ) Outcome) := by
  unfold World.outcomeOf
  refine Action.Within.read.bind fun world => ?_
  have called : ∀ calls : List FieldCall, Action.Within (World.steady (σ := σ)) Event.IsInward
      (Action.emitAll (calls.map fun call => .transform call.1 call.2)) := by
    intro calls
    refine Action.Within.emitAll _ ?_
    intro event member
    obtain ⟨call, _present, rfl⟩ := List.mem_map.mp member
    rfl
  dsimp only
  split
  · exact (called _).bind fun _emitted => Action.Within.ofExcept _
  · exact Action.Within.ofExcept _

private theorem echo_within (outcome : Outcome) :
    Action.Within World.steady Event.IsInward (session.echo sql params outcome) := by
  unfold Session.echo
  refine Action.Within.read.bind fun world => ?_
  dsimp only
  split
  · refine (session.rendered_within sql params).bind fun statement => ?_
    exact (Action.Within.ofExcept _).bind fun line => session.log_within _ _ line _
  · exact Action.Within.pure ()

private theorem recordSlow_within (elapsed : Binary64) :
    Action.Within World.steady Event.IsInward (session.recordSlow sql params elapsed) := by
  unfold Session.recordSlow
  refine Action.Within.read.bind fun world => ?_
  refine (Action.Within.ofExcept _).bind fun slow => ?_
  cases slow with
  | false => exact Action.Within.pure ()
  | true =>
      refine (Action.Within.ofExcept _).bind fun key => ?_
      refine Action.Within.read.bind fun world => ?_
      refine (World.setSlowLog_within _).bind fun _updated => ?_
      split
      · exact (session.rendered_within sql params).bind fun statement =>
          session.log_within _ _ _ _
      · exact Action.Within.pure ()

theorem complete_within (response : Value) (elapsed : Binary64) :
    Action.Within World.steady Event.IsInward (session.complete sql params response elapsed) := by
  unfold Session.complete
  refine (outcomeOf_within response).bind fun outcome => ?_
  refine (session.echo_within sql params outcome).bind fun _echoed => ?_
  exact (session.recordSlow_within sql params elapsed).bind fun _recorded =>
    Action.Within.pure outcome

theorem logFailure_within :
    Action.Within World.steady Event.IsInward (session.logFailure sql params) := by
  unfold Session.logFailure
  refine Action.Within.read.bind fun world => ?_
  split
  · exact (session.rendered_within sql params).bind fun statement => session.log_within _ _ _ _
  · exact Action.Within.pure ()

/-- Whether the log line of a statement's failure can be written, or need not be. -/
def CanLogFailure (settings : Settings) : Prop :=
  settings.echo = .silent ∨ ∃ text, Template.render (some session.dialect) sql params = .ok text

theorem logFailure_run (world : World σ) (loggable : session.CanLogFailure sql params world.settings) :
    ∃ lines, (∀ event ∈ lines, event.IsInward) ∧
      session.logFailure sql params world = ⟨.ok (), world, lines⟩ := by
  refine ⟨(session.logFailure sql params world).events,
    (session.logFailure_within sql params).events world, ?_⟩
  unfold Session.logFailure
  rw [Action.read_bind]
  by_cases silent : world.settings.echo = .silent
  · rw [if_neg (fun spoken => spoken silent)]
    rfl
  · obtain ⟨text, rendered⟩ := loggable.resolve_left silent
    rw [if_pos silent]
    unfold Session.rendered Session.log
    rw [rendered, Action.ofExcept_ok_bind]
    cases Severity.warning.reaches session.logFloor <;> rfl

theorem logFailure_of_unrenderable (world : World σ) (failure : Failure)
    (spoken : world.settings.echo ≠ .silent)
    (unrendered : Template.render (some session.dialect) sql params = .error failure) :
    session.logFailure sql params world = ⟨.error failure, world, []⟩ := by
  unfold Session.logFailure Session.rendered
  rw [Action.read_bind, if_pos spoken, unrendered, Action.ofExcept_error_bind]
  rfl

theorem keepFailure_of_unreadable (world : World σ) (failure : Failure)
    (unreadable : world.settings.ignores sql = .error failure) :
    keepFailure id sql params world = ⟨.error failure, world, []⟩ := by
  unfold keepFailure
  rw [Action.read_bind, unreadable, Action.ofExcept_error_bind]
  rfl

theorem keepFailure_of_ignored (world : World σ)
    (ignored : world.settings.ignores sql = .ok true) :
    keepFailure id sql params world = ⟨.ok (), world, []⟩ := by
  unfold keepFailure
  rw [Action.read_bind, ignored, Action.ofExcept_ok_bind]
  rfl

theorem keepFailure_of_transactional (world : World σ)
    (counted : world.settings.ignores sql = .ok false)
    (transactional : (world.lease id).transactional = true) :
    keepFailure id sql params world = ⟨.ok (), world.withFailed id (sql, params), []⟩ := by
  unfold keepFailure
  rw [Action.read_bind, counted, Action.ofExcept_ok_bind, if_neg Bool.false_ne_true,
    if_pos transactional]
  rfl

theorem keepFailure_of_plain (world : World σ)
    (counted : world.settings.ignores sql = .ok false)
    (plain : (world.lease id).transactional = false) :
    keepFailure id sql params world = World.report (sql, params) world := by
  unfold keepFailure
  rw [Action.read_bind, counted, Action.ofExcept_ok_bind, if_neg Bool.false_ne_true, plain,
    if_neg Bool.false_ne_true]

private theorem keepFailure_within :
    Action.Within (World.filling id) (Event.CallsAtMost [])
      (keepFailure id sql params : Action (World σ) Unit) := by
  refine Action.Within.of_each fun world => ?_
  have nothing : (World.filling id).relates world world ∧
      ∀ event ∈ ([] : List Event), event.CallsAtMost [] :=
    ⟨(World.filling id).refl world, fun _event member => nomatch member⟩
  cases ignores : world.settings.ignores sql with
  | error failure =>
      rw [keepFailure_of_unreadable id sql params world failure ignores]
      exact nothing
  | ok ignored =>
      cases ignored with
      | true =>
          rw [keepFailure_of_ignored id sql params world ignores]
          exact nothing
      | false =>
          cases transactional : (world.lease id).transactional with
          | true =>
              rw [keepFailure_of_transactional id sql params world ignores transactional]
              exact ⟨World.withFailed_fills world id (sql, params) transactional, nothing.2⟩
          | false =>
              rw [keepFailure_of_plain id sql params world ignores transactional]
              have reports := World.report_within (σ := σ) (sql, params)
              exact ⟨(reports.state world).fills id, reports.events world⟩

theorem reportFailure_within :
    Action.Within (World.filling id) (Event.CallsAtMost [])
      (session.reportFailure id sql params) := by
  unfold Session.reportFailure
  refine Action.Within.bind ?_ fun _logged => keepFailure_within id sql params
  exact (World.filling_of_steady (session.logFailure_within sql params) id).widen
    fun event inward => inward.callsAtMost

/-! ### The call of a statement -/

theorem now_bind (next : Binary64 → Action (World σ) α) (world : World σ) :
    (session.now >>= next) world = next (session.driver.now world.collaborators) world := rfl

/-- The time in milliseconds that executing a statement takes. -/
def elapsed (world : World σ) : Binary64 :=
  milliseconds (session.driver.now world.collaborators)
    (session.driver.now (Lease.execute session.driver id sql params world).state.collaborators)

theorem query_of_response (world : World σ) (response : Value)
    (answered : (Lease.execute session.driver id sql params world).outcome = .ok response) :
    session.query id sql params world =
      let executed := Lease.execute session.driver id sql params world
      let completed := session.complete sql params response
        (session.elapsed id sql params world) executed.state
      ⟨completed.outcome, completed.state, executed.events ++ completed.events⟩ := by
  unfold Session.query
  rw [now_bind, Action.attempt_bind, answered]
  rfl

theorem query_of_ok (world : World σ) (response : Value)
    (answered : (Lease.execute session.driver id sql params world).outcome = .ok response) :
    ∃ elapsed, session.query id sql params world =
      let executed := Lease.execute session.driver id sql params world
      let completed := session.complete sql params response elapsed executed.state
      ⟨completed.outcome, completed.state, executed.events ++ completed.events⟩ :=
  ⟨_, session.query_of_response id sql params world response answered⟩

theorem query_of_interruption (world : World σ) (failure : Failure)
    (failed : (Lease.execute session.driver id sql params world).outcome = .error failure)
    (interrupts : failure.isOrdinary = false) :
    session.query id sql params world =
      let executed := Lease.execute session.driver id sql params world
      ⟨.error failure, executed.state, executed.events⟩ := by
  unfold Session.query
  rw [now_bind, Action.attempt_bind, failed]
  dsimp only
  rw [interrupts, if_neg Bool.false_ne_true]
  simp only [Action.fail, List.append_nil]

theorem query_of_failure (world : World σ) (failure : Failure)
    (failed : (Lease.execute session.driver id sql params world).outcome = .error failure)
    (ordinary : failure.isOrdinary = true) :
    session.query id sql params world =
      let executed := Lease.execute session.driver id sql params world
      let reported := session.reportFailure id sql params executed.state
      ⟨reported.outcome.bind fun _reported => .error failure, reported.state,
        executed.events ++ reported.events⟩ := by
  unfold Session.query
  rw [now_bind, Action.attempt_bind, failed]
  dsimp only
  rw [ordinary, if_pos rfl]
  rw [Action.bind_fail]

theorem query_fails {world : World σ} {cause : Failure}
    (failed : (Lease.execute session.driver id sql params world).outcome = .error cause) :
    ∃ failure, (session.query id sql params world).outcome = .error failure := by
  cases ordinary : cause.isOrdinary with
  | false =>
      rw [session.query_of_interruption id sql params world cause failed ordinary]
      exact ⟨cause, rfl⟩
  | true =>
      rw [session.query_of_failure id sql params world cause failed ordinary]
      dsimp only
      cases (session.reportFailure id sql params _).outcome with
      | ok done => exact ⟨cause, rfl⟩
      | error failure => exact ⟨failure, rfl⟩

theorem query_events (world : World σ) :
    ∃ following, (session.query id sql params world).events =
        (Lease.execute session.driver id sql params world).events ++ following ∧
      ∀ event ∈ following, event.CallsAtMost [] := by
  cases outcome : (Lease.execute session.driver id sql params world).outcome with
  | ok response =>
      obtain ⟨elapsed, called⟩ := session.query_of_ok id sql params world response outcome
      rw [called]
      exact ⟨_, rfl, fun event member =>
        ((session.complete_within sql params response elapsed).events _ event member).callsAtMost⟩
  | error failure =>
      cases ordinary : failure.isOrdinary with
      | false =>
          rw [session.query_of_interruption id sql params world failure outcome ordinary]
          exact ⟨[], (List.append_nil _).symm, fun _event member => nomatch member⟩
      | true =>
          rw [session.query_of_failure id sql params world failure outcome ordinary]
          exact ⟨_, rfl, (session.reportFailure_within id sql params).events _⟩

private theorem query_fills (world : World σ) :
    World.Fills id world (session.query id sql params world).state := by
  have executed := ((Lease.execute_within session.driver id sql params).state world).fills id
  cases outcome : (Lease.execute session.driver id sql params world).outcome with
  | ok response =>
      obtain ⟨elapsed, called⟩ := session.query_of_ok id sql params world response outcome
      have completed := (session.complete_within sql params response elapsed).state
        (Lease.execute session.driver id sql params world).state
      rw [called]
      exact (World.filling id).trans executed (completed.fills id)
  | error failure =>
      cases ordinary : failure.isOrdinary with
      | false =>
          rw [session.query_of_interruption id sql params world failure outcome ordinary]
          exact executed
      | true =>
          rw [session.query_of_failure id sql params world failure outcome ordinary]
          exact (World.filling id).trans executed
            ((session.reportFailure_within id sql params).state _)

theorem query_within :
    Action.Within (World.filling id) (Event.CallsAtMost [.execute, .close])
      (session.query id sql params) where
  state := session.query_fills id sql params
  events := by
    intro world event member
    obtain ⟨following, called, silent⟩ := session.query_events id sql params world
    rw [called] at member
    rcases List.mem_append.mp member with ofCursor | later
    · exact ((Lease.execute_within session.driver id sql params).events
        world event ofCursor).callsAtMost
    · exact (silent event later).mono (List.nil_subset _)

end Session
end PooledQuery
