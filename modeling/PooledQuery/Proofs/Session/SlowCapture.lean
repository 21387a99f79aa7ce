/-
What a statement leaves in the log of slow statements.

A statement that succeeds and is slow by the settings in force has an entry, with its own
text, parameters and time.  The log gets the entry unless it knows the fingerprint, and a
warning goes with every entry that is new.  A statement that fails leaves the log alone.
-/
import PooledQuery.Proofs.Session.Conversation
import PooledQuery.Proofs.Session.Noting
import PooledQuery.Proofs.Settings.Threshold
import PooledQuery.Proofs.SlowLog
import Mathlib.Data.List.DropRight

namespace PooledQuery

variable {σ α β : Type}

def Event.isSlowWarning : Event → Bool
  | .log .statements .warning message _ => ("Slow SQL] " : Text).isPrefixOf message
  | _ => false

def slowWarnings (events : List Event) : List Event :=
  events.filter Event.isSlowWarning

@[simp] theorem slowWarnings_append (first second : List Event) :
    slowWarnings (first ++ second) = slowWarnings first ++ slowWarnings second :=
  List.filter_append first second

theorem slowWarnings_of_none {events : List Event}
    (none : ∀ event ∈ events, event.isSlowWarning = false) : slowWarnings events = [] := by
  unfold slowWarnings
  rw [List.filter_eq_nil_iff]
  intro event member
  rw [none event member]
  exact Bool.false_ne_true

private theorem Event.isSlowWarning_of_unrecorded {event : Event}
    (unrecorded : event.isRecord = false) :
    event.isSlowWarning = false := by
  cases event with
  | log channel severity message cause => cases unrecorded
  | _ => rfl

theorem Event.IsEcho.isSlowWarning {event : Event} (echoes : event.IsEcho) :
    event.isSlowWarning = false := by
  obtain ⟨message, rfl⟩ := echoes
  rfl

theorem Event.IsFailureLine.isSlowWarning {event : Event} (line : event.IsFailureLine) :
    event.isSlowWarning = false := by
  obtain ⟨text, rfl⟩ := line
  rfl

theorem Event.IsPageLine.isSlowWarning {event : Event} (line : event.IsPageLine) :
    event.isSlowWarning = false := by
  obtain ⟨message, cause, rfl⟩ := line
  rfl

namespace Deed

def world : Deed σ → World σ
  | .asked asking => asking.world
  | .adjusted _ world => world
  | .pageFailed _ _ _ world => world

def clears : Deed σ → Bool
  | .adjusted .clearSlow _ => true
  | _ => false

end Deed

/-- The deeds since the last time that the log of slow statements was cleared. -/
def sinceCleared (deeds : List (Deed σ)) : List (Deed σ) :=
  deeds.rtakeWhile fun deed => !deed.clears

namespace Session

variable (session : Session σ)

def timeOf (asking : Asking σ) : Binary64 :=
  session.elapsed asking.id asking.sql asking.params asking.world

/-- The entry for a statement, if it succeeds and is slow. -/
def slowEntry? (asking : Asking σ) : Option SlowEntry :=
  match (session.asked asking).outcome, isSlow asking.world.settings (session.timeOf asking),
    Fingerprint.ofStatement (some session.dialect) asking.sql asking.params with
  | .ok _, .ok true, .ok key =>
      some ⟨key, asking.sql, asking.params, .float (session.timeOf asking)⟩
  | _, _, _ => none

def deedEntry? : Deed σ → Option SlowEntry
  | .asked asking => session.slowEntry? asking
  | _ => none

/-- What the log is to hold after the given deeds. -/
def captured (deeds : List (Deed σ)) : SlowLog :=
  SlowLog.firstOfEachKey ((sinceCleared deeds).filterMap session.deedEntry?)

/-- The log after one more deed. -/
def logAfter (deed : Deed σ) (log : SlowLog) : SlowLog :=
  if deed.clears then []
  else
    match session.deedEntry? deed with
    | some entry => (log.add entry).2
    | none => log

/-- The warnings that go with a deed: one for a statement that is new to the log. -/
def warnings : Deed σ → List Event
  | .asked asking =>
      match session.slowEntry? asking,
        Template.render (some session.dialect) asking.sql asking.params with
      | some entry, .ok statement =>
          if asking.world.slowLog.has entry.key then []
          else session.slowWarning (session.timeOf asking) statement
      | _, _ => []
  | _ => []

theorem captured_concat (deeds : List (Deed σ)) (deed : Deed σ) :
    session.captured (deeds ++ [deed]) = session.logAfter deed (session.captured deeds) := by
  unfold captured logAfter sinceCleared
  rw [List.rtakeWhile_concat]
  cases deed.clears with
  | true => rfl
  | false =>
      rw [Bool.not_false, if_pos rfl, if_neg Bool.false_ne_true, List.filterMap_append]
      cases entry : session.deedEntry? deed with
      | none => simp [entry]
      | some entry' => simp [entry, SlowLog.firstOfEachKey_concat]

/-! ### Single statements -/

section Statement

variable {session} {sql : Text} {params : List Value} {elapsed : Binary64} {world : World σ}

structure Leaves (execution : Execution (World σ) α) (slowLog : SlowLog) (warned : List Event) :
    Prop where
  slowLog : execution.state.slowLog = slowLog
  warned : slowWarnings execution.events = warned

theorem leaves_of_heedless {action : Action (World σ) α} (heedless : World.Heedless action)
    (world : World σ) : Leaves (action world) world.slowLog [] where
  slowLog := heedless.slowLog world
  warned := slowWarnings_of_none fun event member =>
    Event.isSlowWarning_of_unrecorded (heedless.unrecorded world event member)

theorem leaves_of_unchanged {allowed : Event → Prop} {action : Action (World σ) α}
    (bounded : Action.Within World.unchanged allowed action)
    (others : ∀ event, allowed event → event.isSlowWarning = false) (world : World σ) :
    Leaves (action world) world.slowLog [] where
  slowLog := congrArg World.slowLog (bounded.state world)
  warned := slowWarnings_of_none fun event member =>
    others event (bounded.events world event member)

private theorem recordSlow_of_error {failure : Failure}
    (failed : (session.recordSlow sql params elapsed world).outcome = .error failure) :
    session.recordSlow sql params elapsed world = ⟨.error failure, world, []⟩ := by
  cases decided : isSlow world.settings elapsed with
  | error other =>
      have undecided := session.recordSlow_of_undecided sql params world elapsed decided
      rw [undecided] at failed ⊢
      cases failed
      rfl
  | ok slow =>
      cases slow with
      | false =>
          rw [session.recordSlow_of_quick sql params world elapsed decided] at failed
          cases failed
      | true =>
          cases keyed : Fingerprint.ofStatement (some session.dialect) sql params with
          | error other =>
              have unkeyed := session.recordSlow_of_unkeyed sql params world elapsed decided keyed
              rw [unkeyed] at failed ⊢
              cases failed
              rfl
          | ok key =>
              obtain ⟨text, rendered⟩ := render_of_fingerprint keyed
              cases known : world.slowLog.has key with
              | true =>
                  rw [session.recordSlow_of_known sql params world elapsed decided keyed known]
                    at failed
                  cases failed
              | false =>
                  rw [session.recordSlow_of_new sql params world elapsed decided keyed known
                    rendered] at failed
                  cases failed

theorem complete_cases (response : Value) :
    (∃ failure, (session.complete sql params response elapsed world).outcome = .error failure ∧
      Leaves (session.complete sql params response elapsed world) world.slowLog []) ∨
    ∃ (between : World σ) (outcome : Outcome),
      between.slowLog = world.slowLog ∧ between.settings = world.settings ∧
        (session.complete sql params response elapsed world).outcome =
          (session.recordSlow sql params elapsed between).outcome.map (fun _recorded => outcome) ∧
        Leaves (session.complete sql params response elapsed world)
          (session.recordSlow sql params elapsed between).state.slowLog
          (slowWarnings (session.recordSlow sql params elapsed between).events) := by
  have made := leaves_of_heedless (World.Heedless.outcomeOf response) world
  have steady := (outcomeOf_within response).state world
  unfold Session.complete
  cases comes : (World.outcomeOf response world).outcome with
  | error failure =>
      left
      rw [Action.bind_of_error _ _ world failure comes]
      exact ⟨failure, rfl, made.slowLog, made.warned⟩
  | ok value =>
      have echoed := leaves_of_unchanged (session.echo_unchanged sql params value)
        (fun _event => Event.IsEcho.isSlowWarning) (World.outcomeOf response world).state
      have same := (session.echo_unchanged sql params value).state
        (World.outcomeOf response world).state
      rw [Action.bind_of_ok _ _ world value comes]
      dsimp only
      cases echoes : (session.echo sql params value
          (World.outcomeOf response world).state).outcome with
      | error failure =>
          left
          rw [Action.bind_of_error _ _ _ failure echoes]
          refine ⟨failure, rfl, echoed.slowLog.trans made.slowLog, ?_⟩
          rw [slowWarnings_append, made.warned, echoed.warned]
          rfl
      | ok done =>
          right
          rw [Action.bind_of_ok _ _ _ done echoes, Action.bind_pure]
          refine ⟨_, value, echoed.slowLog.trans made.slowLog, ?_, rfl, rfl, ?_⟩
          · rw [same]
            exact steady.settings
          · dsimp only
            rw [slowWarnings_append, slowWarnings_append, made.warned, echoed.warned]
            rfl

private theorem complete_of_ok {response : Value} {outcome : Outcome}
    (succeeded : (session.complete sql params response elapsed world).outcome = .ok outcome) :
    ∃ between : World σ, between.slowLog = world.slowLog ∧ between.settings = world.settings ∧
      (session.recordSlow sql params elapsed between).outcome = .ok () ∧
      Leaves (session.complete sql params response elapsed world)
        (session.recordSlow sql params elapsed between).state.slowLog
        (slowWarnings (session.recordSlow sql params elapsed between).events) := by
  rcases complete_cases response with ⟨failure, failed, _⟩ | ⟨between, _, log, settings, comes, leaves⟩
  · rw [failed] at succeeded
    cases succeeded
  · refine ⟨between, log, settings, ?_, leaves⟩
    rw [comes] at succeeded
    cases recorded : (session.recordSlow sql params elapsed between).outcome with
    | ok done => rfl
    | error failure =>
        rw [recorded] at succeeded
        cases succeeded

private theorem complete_of_error {response : Value} {failure : Failure}
    (failed : (session.complete sql params response elapsed world).outcome = .error failure) :
    Leaves (session.complete sql params response elapsed world) world.slowLog [] := by
  rcases complete_cases response with ⟨_, _, leaves⟩ | ⟨between, _, log, _, comes, leaves⟩
  · exact leaves
  · rw [comes] at failed
    cases recorded : (session.recordSlow sql params elapsed between).outcome with
    | ok done =>
        rw [recorded] at failed
        cases failed
    | error other =>
        rw [recordSlow_of_error recorded] at leaves
        exact ⟨leaves.slowLog.trans log, leaves.warned⟩

private theorem reportFailure_leaves (id : LeaseId) :
    Leaves (session.reportFailure id sql params world) world.slowLog [] := by
  have logs := leaves_of_unchanged (session.logFailure_unchanged sql params)
    (fun _event => Event.IsFailureLine.isSlowWarning) world
  unfold Session.reportFailure
  cases logged : (session.logFailure sql params world).outcome with
  | error failure =>
      rw [Action.bind_of_error _ _ world failure logged]
      exact ⟨logs.slowLog, logs.warned⟩
  | ok done =>
      have keeps := leaves_of_heedless (keepFailure_heedless id sql params)
        (session.logFailure sql params world).state
      rw [Action.bind_of_ok _ _ world done logged]
      refine ⟨keeps.slowLog.trans logs.slowLog, ?_⟩
      rw [slowWarnings_append, logs.warned, keeps.warned]
      rfl

variable {asking : Asking σ}

theorem slowEntry?_of_error {failure : Failure}
    (failed : (session.asked asking).outcome = .error failure) :
    session.slowEntry? asking = none := by
  unfold slowEntry?
  rw [failed]

private theorem asked_of_error {failure : Failure}
    (failed : (session.asked asking).outcome = .error failure) :
    Leaves (session.asked asking) asking.world.slowLog [] := by
  have executes := leaves_of_heedless
    (Lease.execute_heedless session.driver asking.id asking.sql asking.params) asking.world
  unfold asked at failed ⊢
  cases executed : (Lease.execute session.driver asking.id asking.sql asking.params
      asking.world).outcome with
  | ok response =>
      rw [session.query_of_response _ _ _ _ response executed] at failed ⊢
      have completes := complete_of_error failed
      refine ⟨completes.slowLog.trans executes.slowLog, ?_⟩
      dsimp only
      rw [slowWarnings_append, executes.warned, completes.warned]
      rfl
  | error cause =>
      cases ordinary : cause.isOrdinary with
      | false =>
          rw [session.query_of_interruption _ _ _ _ cause executed ordinary]
          exact ⟨executes.slowLog, executes.warned⟩
      | true =>
          rw [session.query_of_failure _ _ _ _ cause executed ordinary]
          have reports (world : World σ) : Leaves
              (session.reportFailure asking.id asking.sql asking.params world) world.slowLog [] :=
            reportFailure_leaves asking.id
          refine ⟨(reports _).slowLog.trans executes.slowLog, ?_⟩
          dsimp only
          rw [slowWarnings_append, executes.warned, (reports _).warned]
          rfl

theorem asked_of_ok {outcome : Outcome} (succeeded : (session.asked asking).outcome = .ok outcome) :
    ∃ between : World σ, between.slowLog = asking.world.slowLog ∧
      between.settings = asking.world.settings ∧
      (session.recordSlow asking.sql asking.params (session.timeOf asking) between).outcome =
        .ok () ∧
      Leaves (session.asked asking)
        (session.recordSlow asking.sql asking.params (session.timeOf asking) between).state.slowLog
        (slowWarnings
          (session.recordSlow asking.sql asking.params (session.timeOf asking) between).events) := by
  have executes := leaves_of_heedless
    (Lease.execute_heedless session.driver asking.id asking.sql asking.params) asking.world
  have steady := (Lease.execute_within session.driver asking.id asking.sql asking.params).state
    asking.world
  unfold asked at succeeded ⊢
  cases executed : (Lease.execute session.driver asking.id asking.sql asking.params
      asking.world).outcome with
  | ok response =>
      rw [session.query_of_response _ _ _ _ response executed] at succeeded ⊢
      obtain ⟨between, log, settings, recorded, leaves⟩ := complete_of_ok succeeded
      refine ⟨between, log.trans executes.slowLog, settings.trans steady.settings, recorded,
        leaves.slowLog, ?_⟩
      dsimp only
      rw [slowWarnings_append, executes.warned]
      exact leaves.warned
  | error cause =>
      obtain ⟨failure, failed⟩ := session.query_fails _ _ _ executed
      rw [failed] at succeeded
      cases succeeded

/-- Where a statement succeeds, it is known whether it is slow, and a slow one has an entry. -/
theorem slowEntry?_of_ok {outcome : Outcome}
    (succeeded : (session.asked asking).outcome = .ok outcome) :
    (isSlow asking.world.settings (session.timeOf asking) = .ok false ∧
      session.slowEntry? asking = none) ∨
    (isSlow asking.world.settings (session.timeOf asking) = .ok true ∧
      ∃ key, Fingerprint.ofStatement (some session.dialect) asking.sql asking.params = .ok key ∧
        session.slowEntry? asking =
          some ⟨key, asking.sql, asking.params, .float (session.timeOf asking)⟩) := by
  obtain ⟨between, _, settings, recorded, _⟩ := asked_of_ok succeeded
  unfold slowEntry?
  rw [succeeded]
  cases decided : isSlow between.settings (session.timeOf asking) with
  | error failure =>
      rw [session.recordSlow_of_undecided _ _ _ _ decided] at recorded
      cases recorded
  | ok slow =>
      rw [settings] at decided
      rw [decided]
      cases slow with
      | false => exact .inl ⟨rfl, rfl⟩
      | true =>
          rw [← settings] at decided
          cases keyed : Fingerprint.ofStatement (some session.dialect) asking.sql asking.params with
          | error failure =>
              rw [session.recordSlow_of_unkeyed _ _ _ _ decided keyed] at recorded
              cases recorded
          | ok key => exact .inr ⟨rfl, key, rfl, rfl⟩

theorem eq_of_slowEntry? {entry : SlowEntry} (made : session.slowEntry? asking = some entry) :
    (session.asked asking).outcome.isOk = true ∧
      Fingerprint.ofStatement (some session.dialect) asking.sql asking.params = .ok entry.key ∧
      entry = ⟨entry.key, asking.sql, asking.params, .float (session.timeOf asking)⟩ := by
  cases outcome : (session.asked asking).outcome with
  | error failure =>
      rw [slowEntry?_of_error outcome] at made
      cases made
  | ok result =>
      rcases slowEntry?_of_ok outcome with ⟨_, nothing⟩ | ⟨_, key, keyed, entered⟩
      · rw [nothing] at made
        cases made
      · rw [entered] at made
        cases made
        exact ⟨rfl, keyed, rfl⟩

/-- Between numbers that have a place in the order, a statement has an entry if it succeeds
while records are asked for, and takes longer than the threshold. -/
theorem slowEntry?_isSome_iff (number : (session.timeOf asking).isNumber = true)
    (threshold : asking.world.settings.slowThreshold.isNumber = true) :
    (session.slowEntry? asking).isSome = true ↔ (session.asked asking).outcome.isOk = true ∧
      asking.world.settings.recordsSlow.isTruthy = true ∧
      (Number.float (session.timeOf asking)).Exceeds asking.world.settings.slowThreshold := by
  rw [← isSlow_iff_exceeds number threshold]
  cases outcome : (session.asked asking).outcome with
  | error failure =>
      rw [slowEntry?_of_error outcome]
      constructor
      · intro entered
        cases entered
      · rintro ⟨succeeded, _⟩
        cases succeeded
  | ok result =>
      rcases slowEntry?_of_ok outcome with ⟨quick, nothing⟩ | ⟨slow, key, _, entered⟩
      · rw [nothing, quick]
        constructor
        · intro entered
          cases entered
        · rintro ⟨_, slow⟩
          cases slow
      · rw [entered, slow]
        exact ⟨fun _entered => ⟨rfl, rfl⟩, fun _slow => rfl⟩

/-- A statement leaves the log with its entry, if that is new, and warns about new ones. -/
theorem asked_leaves (asking : Asking σ) :
    Leaves (session.asked asking) (session.logAfter (.asked asking) asking.world.slowLog)
      (session.warnings (.asked asking)) := by
  unfold logAfter warnings deedEntry?
  rw [show (Deed.asked asking).clears = false from rfl, if_neg Bool.false_ne_true]
  dsimp only
  cases outcome : (session.asked asking).outcome with
  | error failure =>
      rw [slowEntry?_of_error outcome]
      exact asked_of_error outcome
  | ok result =>
      obtain ⟨between, log, settings, _, leaves⟩ := asked_of_ok outcome
      rcases slowEntry?_of_ok outcome with ⟨quick, nothing⟩ | ⟨slow, key, keyed, entry⟩
      · rw [← settings] at quick
        rw [nothing]
        rw [session.recordSlow_of_quick _ _ _ _ quick, log] at leaves
        exact leaves
      · obtain ⟨text, rendered⟩ := render_of_fingerprint keyed
        rw [← settings] at slow
        rw [entry, rendered]
        unfold SlowLog.add
        dsimp only
        cases known : asking.world.slowLog.has key with
        | true =>
            rw [if_pos rfl, if_pos rfl]
            rw [session.recordSlow_of_known _ _ _ _ slow keyed (by rw [log]; exact known), log]
              at leaves
            exact leaves
        | false =>
            rw [if_neg Bool.false_ne_true, if_neg Bool.false_ne_true]
            rw [session.recordSlow_of_new _ _ _ _ slow keyed (by rw [log]; exact known) rendered,
              log] at leaves
            refine ⟨leaves.slowLog, leaves.warned.trans ?_⟩
            unfold slowWarning
            cases Severity.warning.reaches session.logFloor <;> rfl

end Statement

end Session
end PooledQuery
