/-
Executions that differ in what is noted down.

Two worlds are akin if they differ in their watches only, and two executions are alike if
they have the same outcome, akin final states, and the same events but for records of the
log.  What heedless actions do in akin worlds is alike, and likeness passes through every
way of composing actions.
-/
import PooledQuery.Proofs.Fingerprint
import PooledQuery.Proofs.Rows.Summary
import PooledQuery.Proofs.Session.Noting
import PooledQuery.Proofs.Session.Stages

namespace PooledQuery

variable {σ α β : Type}

/-- Two worlds that differ in their watches only, with settled thresholds. -/
structure World.Akin (first second : World σ) : Prop where
  same : ∃ watch, second = first.watchedBy watch
  settled : first.settings.Settled
  otherSettled : second.settings.Settled

/-- Two executions of the same outcome and of the same events, but for records of the log. -/
structure Execution.Alike (first second : Execution (World σ) α) : Prop where
  outcome : second.outcome = first.outcome
  state : World.Akin first.state second.state
  events : withoutRecords second.events = withoutRecords first.events

/-- An execution that does no more than to make records. -/
structure World.Notes (world : World σ) (execution : Execution (World σ) Unit) : Prop where
  outcome : execution.outcome = .ok ()
  state : ∃ slowLog, execution.state = { world with slowLog := slowLog }
  events : ∀ event ∈ execution.events, event.isRecord = true

namespace World

variable {first second : World σ}

theorem Akin.collaborators (akin : Akin first second) :
    second.collaborators = first.collaborators := by
  obtain ⟨watch, rfl⟩ := akin.same
  rfl

theorem Akin.leases (akin : Akin first second) : second.leases = first.leases := by
  obtain ⟨watch, rfl⟩ := akin.same
  rfl

theorem Akin.defaultLimit (akin : Akin first second) :
    second.settings.defaultLimit = first.settings.defaultLimit := by
  obtain ⟨watch, rfl⟩ := akin.same
  rfl

theorem Heedless.settled {action : Action (World σ) α} (heedless : Heedless action)
    (settled : first.settings.Settled) : (action first).state.settings.Settled := by
  have same : (action first).state.settings.slowThreshold = first.settings.slowThreshold :=
    congrArg Watch.slowThreshold (heedless.watch first)
  unfold Settings.Settled
  rw [same]
  exact settled

theorem Heedless.alike {action : Action (World σ) α} (heedless : Heedless action)
    (akin : Akin first second) : Execution.Alike (action first) (action second) := by
  have settled := heedless.settled akin.settled
  have otherSettled := heedless.settled akin.otherSettled
  obtain ⟨watch, rfl⟩ := akin.same
  have same := heedless.same first watch
  refine ⟨by rw [same], ⟨⟨watch, by rw [same]⟩, settled, otherSettled⟩, by rw [same]⟩

theorem Notes.settings {world : World σ} {execution : Execution (World σ) Unit}
    (notes : Notes world execution) : execution.state.settings = world.settings := by
  obtain ⟨slowLog, same⟩ := notes.state
  rw [same]

theorem Notes.settled {world : World σ} {execution : Execution (World σ) Unit}
    (notes : Notes world execution) (settled : world.settings.Settled) :
    execution.state.settings.Settled := by
  rw [notes.settings]
  exact settled

theorem Notes.alike {former latter : Execution (World σ) Unit} (akin : Akin first second)
    (notes : Notes first former) (otherNotes : Notes second latter) :
    Execution.Alike former latter where
  outcome := otherNotes.outcome.trans notes.outcome.symm
  state := by
    refine ⟨?_, notes.settled akin.settled, otherNotes.settled akin.otherSettled⟩
    obtain ⟨slowLog, same⟩ := notes.state
    obtain ⟨otherLog, otherSame⟩ := otherNotes.state
    obtain ⟨watch, rfl⟩ := akin.same
    exact ⟨{ watch with slowLog := otherLog }, by rw [same, otherSame]; rfl⟩
  events := by
    rw [withoutRecords_of_records notes.events, withoutRecords_of_records otherNotes.events]

theorem notes_of_unchanged {allowed : Event → Prop} {action : Action (World σ) Unit}
    (bounded : Action.Within unchanged allowed action)
    (records : ∀ event, allowed event → event.isRecord = true) (world : World σ)
    (succeeds : (action world).outcome = .ok ()) : Notes world (action world) where
  outcome := succeeds
  state := ⟨world.slowLog, bounded.state world⟩
  events := fun event member => records event (bounded.events world event member)

end World

namespace Execution.Alike

variable {first second : World σ}

theorem bind {action : Action (World σ) α} {next : α → Action (World σ) β}
    (alike : Alike (action first) (action second))
    (follows : ∀ result, (action first).outcome = .ok result →
      Alike (next result (action first).state) (next result (action second).state)) :
    Alike ((action >>= next) first) ((action >>= next) second) := by
  cases outcome : (action first).outcome with
  | ok result =>
      have following := follows result outcome
      rw [Action.bind_of_ok action next first result outcome,
        Action.bind_of_ok action next second result (alike.outcome.trans outcome)]
      refine ⟨following.outcome, following.state, ?_⟩
      rw [withoutRecords_append, withoutRecords_append, alike.events, following.events]
  | error failure =>
      rw [Action.bind_of_error action next first failure outcome,
        Action.bind_of_error action next second failure (alike.outcome.trans outcome)]
      exact ⟨rfl, alike.state, alike.events⟩

theorem attempt {action : Action (World σ) α} (alike : Alike (action first) (action second)) :
    Alike (Action.attempt action first) (Action.attempt action second) :=
  ⟨congrArg Except.ok alike.outcome, alike.state, alike.events⟩

theorem attemptThen {action : Action (World σ) α}
    {next : Except Failure α → Action (World σ) β}
    (alike : Alike (action first) (action second))
    (follows : Alike (next (action first).outcome (action first).state)
      (next (action first).outcome (action second).state)) :
    Alike ((Action.attempt action >>= next) first) ((Action.attempt action >>= next) second) := by
  refine alike.attempt.bind fun outcome same => ?_
  cases same
  exact follows

end Execution.Alike

/-! ### Statements -/

namespace Session

variable (session : Session σ)

def ChangesTo (id : LeaseId) (sql : Text) (params : List Value) (world : World σ)
    (summary : ChangeSummary) : Prop :=
  ∃ response, (Lease.execute session.driver id sql params world).outcome = .ok response ∧
    (World.outcomeOf response (Lease.execute session.driver id sql params world).state).outcome =
      .ok (.change summary)

/-- A statement can be shown: its rendered text has a UTF-8 form, the clock gives finite
times, and the insert id of its change has a JSON form. -/
structure CanShow (id : LeaseId) (sql : Text) (params : List Value) (world : World σ) :
    Prop where
  rendered : ∃ text, Template.render (some session.dialect) sql params = .ok text ∧
    ∃ bytes, Text.utf8 text = .ok bytes
  started : (session.driver.now world.collaborators).isFinite = true
  ended : (session.driver.now
    (Lease.execute session.driver id sql params world).state.collaborators).isFinite = true
  insertId : ∀ summary, session.ChangesTo id sql params world summary →
    ∃ json, Json.ofValue true summary.insertId = .ok json

/-- Where its outcome is echoed as JSON, the counts of a statement's change can be written. -/
def EchoesCounts (id : LeaseId) (sql : Text) (params : List Value) (world : World σ) : Prop :=
  session.EchoesInFull world.settings → ∀ summary, session.ChangesTo id sql params world summary →
    ∃ texts, summary.countTexts = .ok texts

variable {session} {id : LeaseId} {sql : Text} {params : List Value} {world first second : World σ}

theorem ChangesTo.akin (akin : World.Akin first second) {summary : ChangeSummary}
    (changes : session.ChangesTo id sql params first summary) :
    session.ChangesTo id sql params second summary := by
  obtain ⟨response, answered, made⟩ := changes
  have executes := (Lease.execute_heedless session.driver id sql params).alike akin
  have makes := (World.Heedless.outcomeOf response).alike executes.state
  exact ⟨response, executes.outcome.trans answered, makes.outcome.trans made⟩

theorem CanShow.isWritable (canShow : session.CanShow id sql params world)
    {response : Value} {outcome : Outcome}
    (answered : (Lease.execute session.driver id sql params world).outcome = .ok response)
    (made : (World.outcomeOf response
      (Lease.execute session.driver id sql params world).state).outcome = .ok outcome)
    (counts : ∀ summary, session.ChangesTo id sql params world summary →
      ∃ texts, summary.countTexts = .ok texts) :
    outcome.IsWritable := by
  cases outcome with
  | rows items => exact trivial
  | change summary =>
      have changes : session.ChangesTo id sql params world summary := ⟨response, answered, made⟩
      exact ⟨counts summary changes, canShow.insertId summary changes⟩

private theorem echo_notes {outcome : Outcome} {text : Text}
    (rendered : Template.render (some session.dialect) sql params = .ok text)
    (writable : session.EchoesInFull world.settings → outcome.IsWritable) :
    World.Notes world (session.echo sql params outcome world) :=
  World.notes_of_unchanged (session.echo_unchanged sql params outcome)
    (fun _event => Event.IsEcho.isRecord) world
    (session.echo_outcome sql params world rendered fun full => (writable full).written)

theorem recordSlow_notes {elapsed : Binary64}
    (keyed : ∃ key, session.recordKey sql params elapsed world.settings = .ok key) :
    World.Notes world (session.recordSlow sql params elapsed world) := by
  obtain ⟨key, keyed⟩ := keyed
  have bounded := session.recordSlow_bounded sql params elapsed
  exact ⟨by rw [session.recordSlow_outcome, keyed]; rfl, bounded.state world, bounded.events world⟩

private theorem complete_alike (akin : World.Akin first second) {response : Value}
    {elapsed : Binary64}
    (notes : ∀ outcome, (World.outcomeOf response first).outcome = .ok outcome →
      ∀ world : World σ, world.settings = first.settings ∨ world.settings = second.settings →
        World.Notes world (session.echo sql params outcome world) ∧
          World.Notes world (session.recordSlow sql params elapsed world)) :
    Execution.Alike (session.complete sql params response elapsed first)
      (session.complete sql params response elapsed second) := by
  have made := (World.Heedless.outcomeOf response).alike akin
  refine made.bind fun outcome succeeds => ?_
  have can := notes outcome succeeds
  have settings (world : World σ) :
      (World.outcomeOf response world).state.settings = world.settings :=
    ((outcomeOf_within response).state world).settings
  have firstEchoes := (can _ (.inl (settings first))).1
  have secondEchoes := (can _ (.inr (settings second))).1
  have echoes := World.Notes.alike made.state firstEchoes secondEchoes
  refine echoes.bind fun _echoed _succeeds => ?_
  have firstRecords := (can _ (.inl (firstEchoes.settings.trans (settings first)))).2
  have secondRecords := (can _ (.inr (secondEchoes.settings.trans (settings second)))).2
  have records := World.Notes.alike echoes.state firstRecords secondRecords
  exact records.bind fun _recorded _succeeds => (World.Heedless.pure outcome).alike records.state

theorem logFailure_notes (loggable : session.CanLogFailure sql params world.settings) :
    World.Notes world (session.logFailure sql params world) := by
  obtain ⟨lines, inward, logged⟩ := session.logFailure_run sql params world loggable
  exact World.notes_of_unchanged (session.logFailure_unchanged sql params)
    (fun _event => Event.IsFailureLine.isRecord) world (by rw [logged])

private theorem query_alike_of_failure (akin : World.Akin first second) {failure : Failure}
    (outcome : (Lease.execute session.driver id sql params first).outcome = .error failure)
    (logs : ∀ world : World σ,
      world.settings = (Lease.execute session.driver id sql params first).state.settings ∨
        world.settings = (Lease.execute session.driver id sql params second).state.settings →
      World.Notes world (session.logFailure sql params world)) :
    Execution.Alike (session.query id sql params first) (session.query id sql params second) := by
  have executes := (Lease.execute_heedless session.driver id sql params).alike akin
  have failed := executes.outcome.trans outcome
  cases ordinary : failure.isOrdinary with
  | false =>
      rw [session.query_of_interruption id sql params first failure outcome ordinary,
        session.query_of_interruption id sql params second failure failed ordinary]
      exact ⟨rfl, executes.state, executes.events⟩
  | true =>
      have logged := World.Notes.alike executes.state (logs _ (.inl rfl)) (logs _ (.inr rfl))
      have reports := logged.bind fun _logged _succeeds =>
        (keepFailure_heedless id sql params).alike logged.state
      rw [session.query_of_failure id sql params first failure outcome ordinary,
        session.query_of_failure id sql params second failure failed ordinary]
      unfold Session.reportFailure
      refine ⟨?_, reports.state, ?_⟩
      · dsimp only
        rw [reports.outcome]
      · dsimp only
        rw [withoutRecords_append, withoutRecords_append, executes.events, reports.events]

/-- A statement is alike where whatever is noted down about it succeeds. -/
theorem query_alike_of_notes (akin : World.Akin first second)
    (completes : ∀ response outcome,
      (Lease.execute session.driver id sql params first).outcome = .ok response →
      (World.outcomeOf response (Lease.execute session.driver id sql params first).state).outcome =
        .ok outcome →
      ∀ world : World σ, world.settings = first.settings ∨ world.settings = second.settings →
        World.Notes world (session.echo sql params outcome world) ∧
          World.Notes world
            (session.recordSlow sql params (session.elapsed id sql params first) world))
    (logs : ∀ world : World σ, world.settings = first.settings ∨ world.settings = second.settings →
      World.Notes world (session.logFailure sql params world)) :
    Execution.Alike (session.query id sql params first) (session.query id sql params second) := by
  have executes := (Lease.execute_heedless session.driver id sql params).alike akin
  have settings (world : World σ) :
      (Lease.execute session.driver id sql params world).state.settings = world.settings :=
    ((Lease.execute_within session.driver id sql params).state world).settings
  cases outcome : (Lease.execute session.driver id sql params first).outcome with
  | ok response =>
      have answered := executes.outcome.trans outcome
      have elapsed : session.elapsed id sql params second = session.elapsed id sql params first := by
        unfold elapsed
        rw [akin.collaborators, executes.state.collaborators]
      have completes := complete_alike executes.state fun made succeeds => by
        rw [settings first, settings second]
        exact completes response made outcome succeeds
      rw [session.query_of_response id sql params first response outcome,
        session.query_of_response id sql params second response answered, elapsed]
      refine ⟨completes.outcome, completes.state, ?_⟩
      dsimp only
      rw [withoutRecords_append, withoutRecords_append, executes.events, completes.events]
  | error failure =>
      exact query_alike_of_failure akin outcome fun world same => logs world <|
        same.imp (·.trans (settings first)) (·.trans (settings second))

theorem query_alike (akin : World.Akin first second)
    (canShow : session.CanShow id sql params first)
    (counts : session.EchoesCounts id sql params first)
    (otherCounts : session.EchoesCounts id sql params second) :
    Execution.Alike (session.query id sql params first) (session.query id sql params second) := by
  obtain ⟨text, rendered, encoded⟩ := canShow.rendered
  have keyed := (Fingerprint.ofStatement_ok_iff rendered).mpr (Text.utf8_ok_iff.mp encoded)
  have number : (session.elapsed id sql params first).isNumber = true :=
    isNumber_milliseconds canShow.started canShow.ended
  refine query_alike_of_notes akin (fun response outcome answered made world same => ?_)
    fun world _same => logFailure_notes (.inr ⟨text, rendered⟩)
  constructor
  · refine echo_notes rendered fun full => canShow.isWritable answered made ?_
    intro summary changes
    rcases same with same | same <;> rw [same] at full
    · exact counts full summary changes
    · exact otherCounts full summary (changes.akin akin)
  · have settled : world.settings.Settled := by
      rcases same with same | same <;> rw [same]
      · exact akin.settled
      · exact akin.otherSettled
    exact recordSlow_notes (session.exists_recordKey sql params settled number fun _slow => keyed)

end Session
end PooledQuery
