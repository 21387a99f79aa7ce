/-
What recording slow statements may spoil.

A session that echoes nothing notes down slow statements only, and only after their success.
To be recorded a statement needs a fingerprint, and so a rendered text that has a UTF-8 form.
Where every slow statement has one, recording makes no difference.  A slow statement without
one fails after the driver has executed it; and where it was to be committed, a transaction
whose body heeds failures is rolled back instead.
-/
import PooledQuery.Proofs.Session.Askings
import PooledQuery.Proofs.Session.Observability
import PooledQuery.Proofs.Session.SlowCapture

namespace PooledQuery

variable {σ α : Type}

/-- The world in which records are asked for as given. -/
def World.recording (world : World σ) (enabled : Value) (threshold : Number) : World σ :=
  world.watchedBy ⟨world.settings.echo, enabled, threshold, world.slowLog⟩

namespace Session

variable (session : Session σ)

def Answers (asking : Asking σ) (outcome : Outcome) : Prop :=
  ∃ response, (Lease.execute session.driver asking.id asking.sql asking.params
      asking.world).outcome = .ok response ∧
    (World.outcomeOf response (Lease.execute session.driver asking.id asking.sql asking.params
      asking.world).state).outcome = .ok outcome

def askingKey (settings : Settings) (asking : Asking σ) : Except Failure (Option Text) :=
  session.recordKey asking.sql asking.params (session.timeOf asking) settings

/-! ### Single statements -/

variable (sql : Text) (params : List Value) {elapsed : Binary64} {world : World σ}

theorem echo_of_silent (outcome : Outcome) (silent : world.settings.echo = .silent) :
    session.echo sql params outcome world = ⟨.ok (), world, []⟩ := by
  unfold Session.echo
  rw [Action.read_bind, if_neg fun spoken => spoken.1 silent]
  rfl

theorem complete_of_silent (silent : world.settings.echo = .silent) {response : Value}
    {outcome : Outcome} (made : (World.outcomeOf response world).outcome = .ok outcome) :
    (session.complete sql params response elapsed world).outcome =
      (session.recordKey sql params elapsed world.settings).map fun _key => outcome := by
  have settings : (World.outcomeOf response world).state.settings = world.settings :=
    ((outcomeOf_within response).state world).settings
  rw [← settings] at silent
  have echoed := session.echo_of_silent sql params outcome silent
  unfold Session.complete
  rw [Action.bind_of_ok _ _ world outcome made]
  dsimp only
  rw [Action.bind_of_ok _ _ _ () (by rw [echoed]), echoed]
  dsimp only
  rw [Action.bind_pure]
  dsimp only
  rw [session.recordSlow_outcome, settings]
  cases session.recordKey sql params elapsed world.settings <;> rfl

section Asked

variable {session} {asking : Asking σ}
  (silent : asking.world.settings.echo = .silent)

include silent

/-- A statement that the driver has answered fails exactly if it cannot be recorded. -/
theorem asked_of_answers {outcome : Outcome} (answers : session.Answers asking outcome) :
    (session.asked asking).outcome =
      (session.askingKey asking.world.settings asking).map fun _key => outcome := by
  obtain ⟨response, answered, made⟩ := answers
  have settings := ((Lease.execute_within session.driver asking.id asking.sql asking.params).state
    asking.world).settings
  rw [← settings] at silent
  unfold asked
  rw [session.query_of_response _ _ _ _ response answered]
  dsimp only
  rw [session.complete_of_silent _ _ silent made, settings]
  rfl

private theorem answers_of_asked {outcome : Outcome}
    (succeeds : (session.asked asking).outcome = .ok outcome) :
    session.Answers asking outcome := by
  unfold asked at succeeds
  cases answered : (Lease.execute session.driver asking.id asking.sql asking.params
      asking.world).outcome with
  | error failure =>
      obtain ⟨other, fails⟩ := session.query_fails asking.id asking.sql asking.params answered
      rw [fails] at succeeds
      cases succeeds
  | ok response =>
      have settings := ((Lease.execute_within session.driver asking.id asking.sql
        asking.params).state asking.world).settings
      rw [← settings] at silent
      rw [session.query_of_response _ _ _ _ response answered] at succeeds
      dsimp only at succeeds
      refine ⟨response, answered, ?_⟩
      cases made : (World.outcomeOf response (Lease.execute session.driver asking.id asking.sql
          asking.params asking.world).state).outcome with
      | error failure =>
          unfold Session.complete at succeeds
          rw [Action.bind_of_error _ _ _ failure made] at succeeds
          cases succeeds
      | ok other =>
          rw [session.complete_of_silent _ _ silent made] at succeeds
          cases keyed : session.recordKey asking.sql asking.params
              (session.elapsed asking.id asking.sql asking.params asking.world)
              (Lease.execute session.driver asking.id asking.sql asking.params
                asking.world).state.settings with
          | error failure =>
              rw [keyed] at succeeds
              cases succeeds
          | ok key =>
              rw [keyed] at succeeds
              exact succeeds

end Asked

/-! ### Two sessions -/

section Contrast

variable {session} {sql : Text} {params : List Value} {id : LeaseId} {first second : World σ}

theorem answers_akin (akin : World.Akin first second) {outcome : Outcome} :
    session.Answers ⟨id, sql, params, second⟩ outcome ↔
      session.Answers ⟨id, sql, params, first⟩ outcome := by
  have executes := (Lease.execute_heedless session.driver id sql params).alike akin
  have made (response : Value) :=
    ((World.Heedless.outcomeOf response).alike executes.state).outcome
  unfold Answers
  dsimp only
  rw [executes.outcome]
  simp only [made]

private theorem timeOf_akin (akin : World.Akin first second) :
    session.timeOf ⟨id, sql, params, second⟩ = session.timeOf ⟨id, sql, params, first⟩ := by
  have executes := (Lease.execute_heedless session.driver id sql params).alike akin
  unfold timeOf elapsed
  dsimp only
  rw [akin.collaborators, executes.state.collaborators]

structure Contrast (first second : World σ) : Prop where
  akin : World.Akin first second
  silent : first.settings.echo = .silent
  otherSilent : second.settings.echo = .silent
  disabled : first.settings.recordsSlow.isTruthy = false

theorem Contrast.firstKey (contrast : Contrast first second) (asking : Asking σ) :
    session.askingKey first.settings asking = .ok none :=
  session.recordKey_of_quick _ _ (isSlow_of_not_enabled contrast.disabled)

theorem Contrast.after (contrast : Contrast first second) {next following : World σ}
    (akin : World.Akin next following) (settings : next.settings = first.settings)
    (otherSettings : following.settings = second.settings) : Contrast next following where
  akin := akin
  silent := settings ▸ contrast.silent
  otherSilent := otherSettings ▸ contrast.otherSilent
  disabled := settings ▸ contrast.disabled

theorem Contrast.query_alike (contrast : Contrast first second)
    (keyed : ∀ outcome, session.Answers ⟨id, sql, params, first⟩ outcome →
      ∃ key, session.askingKey second.settings ⟨id, sql, params, first⟩ = .ok key) :
    Execution.Alike (session.query id sql params first) (session.query id sql params second) := by
  have silent (world : World σ)
      (same : world.settings = first.settings ∨ world.settings = second.settings) :
      world.settings.echo = .silent := by
    rcases same with same | same <;> rw [same]
    · exact contrast.silent
    · exact contrast.otherSilent
  refine query_alike_of_notes contrast.akin (fun response outcome answered made world same => ?_)
    fun world same => logFailure_notes (.inl (silent world same))
  have echoed := session.echo_of_silent sql params outcome (silent world same)
  refine ⟨⟨by rw [echoed], ⟨world.slowLog, by rw [echoed]⟩, ?_⟩, recordSlow_notes ?_⟩
  · intro event member
    rw [echoed] at member
    cases member
  · change ∃ key, session.askingKey world.settings ⟨id, sql, params, first⟩ = .ok key
    rcases same with same | same <;> rw [same]
    · exact ⟨none, contrast.firstKey _⟩
    · exact keyed outcome ⟨response, answered, made⟩

theorem Contrast.asked (contrast : Contrast first second)
    (alike : Execution.Alike (session.query id sql params first)
      (session.query id sql params second)) :
    Contrast (session.query id sql params first).state
      (session.query id sql params second).state :=
  contrast.after alike.state ((session.query_within id sql params).state first).settings
    ((session.query_within id sql params).state second).settings

private theorem Contrast.query_of_quiet (contrast : Contrast first second) {outcome : Outcome}
    (answers : session.Answers ⟨id, sql, params, first⟩ outcome) :
    (session.query id sql params first).outcome = .ok outcome := by
  have silent : (Asking.mk id sql params first).world.settings.echo = .silent := contrast.silent
  have recorded := asked_of_answers silent answers
  change _ = (session.askingKey first.settings _).map _ at recorded
  rw [contrast.firstKey] at recorded
  exact recorded

private theorem Contrast.query_of_recording (contrast : Contrast first second) {outcome : Outcome}
    (answers : session.Answers ⟨id, sql, params, first⟩ outcome) :
    (session.query id sql params second).outcome =
      (session.askingKey second.settings ⟨id, sql, params, first⟩).map fun _key => outcome := by
  have silent : (Asking.mk id sql params second).world.settings.echo = .silent :=
    contrast.otherSilent
  have recorded := asked_of_answers silent ((answers_akin contrast.akin).mpr answers)
  have same : session.askingKey second.settings ⟨id, sql, params, second⟩ =
      session.askingKey second.settings ⟨id, sql, params, first⟩ := by
    unfold askingKey
    rw [timeOf_akin contrast.akin]
  change _ = (session.askingKey second.settings ⟨id, sql, params, second⟩).map _ at recorded
  rw [same] at recorded
  exact recorded

theorem Contrast.query_of_unkeyed (contrast : Contrast first second) {outcome : Outcome}
    (answers : session.Answers ⟨id, sql, params, first⟩ outcome) {failure : Failure}
    (unkeyed : session.askingKey second.settings ⟨id, sql, params, first⟩ = .error failure) :
    (session.query id sql params second).outcome = .error failure := by
  rw [contrast.query_of_recording answers, unkeyed]
  rfl

private theorem Contrast.key_of_passed (contrast : Contrast first second) {outcome : Outcome}
    (passes : (session.query id sql params second).outcome = .ok outcome) :
    ∃ key, session.askingKey second.settings ⟨id, sql, params, first⟩ = .ok key := by
  have silent : (Asking.mk id sql params second).world.settings.echo = .silent :=
    contrast.otherSilent
  have answers := (answers_akin contrast.akin).mp (answers_of_asked silent passes)
  cases keyed : session.askingKey second.settings ⟨id, sql, params, first⟩ with
  | ok key => exact ⟨key, rfl⟩
  | error failure =>
      rw [contrast.query_of_unkeyed answers keyed] at passes
      cases passes

/-! ### Bodies -/

/-- Where each statement that is answered can be recorded, recording makes no difference to a
body. -/
theorem Contrast.perform_alike (body : Body α) (contrast : Contrast first second)
    (keyed : ∀ asking ∈ session.askings id body first, ∀ outcome, session.Answers asking outcome →
      ∃ key, session.askingKey second.settings asking = .ok key) :
    Execution.Alike (session.perform id body first) (session.perform id body second) := by
  induction body generalizing first second with
  | finish result => exact (World.Heedless.pure result).alike contrast.akin
  | stop failure => exact (World.Heedless.fail failure).alike contrast.akin
  | query sql params next ih =>
      have alike := contrast.query_alike (keyed _ List.mem_cons_self)
      have settings := ((session.query_within id sql params).state second).settings
      refine alike.attemptThen (ih _ (contrast.asked alike) fun asking member => ?_)
      rw [settings]
      exact keyed asking (List.mem_cons_of_mem _ member)

private theorem Contrast.exists_failed {body : Body α} (contrast : Contrast first second)
    {asking : Asking σ} (member : asking ∈ session.askings id body first) {failure : Failure}
    (unkeyed : session.askingKey second.settings asking = .error failure) :
    ∃ later ∈ session.askings id body second, ∃ failure,
      (session.asked later).outcome = .error failure := by
  -- Up to the first statement that fails when records are made, both bodies ask the same.
  induction body generalizing first second with
  | finish result => cases member
  | stop other => cases member
  | query sql params next ih =>
      cases passes : (session.query id sql params second).outcome with
      | error other => exact ⟨⟨id, sql, params, second⟩, List.mem_cons_self, other, passes⟩
      | ok passed =>
          have key := contrast.key_of_passed passes
          have alike := contrast.query_alike fun _outcome _answers => key
          rcases List.mem_cons.mp member with rfl | later
          · obtain ⟨key, keyed⟩ := key
            rw [keyed] at unkeyed
            cases unkeyed
          · have settings := ((session.query_within id sql params).state second).settings
            rw [← settings] at unkeyed
            obtain ⟨last, asks, other, fails⟩ := ih _ (contrast.asked alike) later unkeyed
            change last ∈ session.askings id (next (session.query id sql params first).outcome) _
              at asks
            rw [← alike.outcome] at asks
            exact ⟨last, List.mem_cons_of_mem _ asks, other, fails⟩

end Contrast

/-! ### Runs -/

section Runs

variable {session} {first second : World σ}

theorem Contrast.entered (contrast : Contrast first second) (transactional : Bool) :
    Contrast (session.entered transactional first) (session.entered transactional second) :=
  contrast.after (entered_akin transactional contrast.akin)
    (session.entered_settings first transactional) (session.entered_settings second transactional)

private theorem Contrast.runBody_alike (contrast : Contrast first second) (transactional : Bool)
    (body : Body α)
    (keyed : ∀ asking ∈ session.runAskings transactional body first, ∀ outcome,
      session.Answers asking outcome →
        ∃ key, session.askingKey second.settings asking = .ok key) :
    Execution.Alike (session.runBody transactional body first)
      (session.runBody transactional body second) := by
  refine run_alike transactional contrast.akin fun entered => ?_
  unfold runAskings at keyed
  rw [if_pos entered] at keyed
  unfold acted
  rw [nextLease_akin contrast.akin]
  refine (contrast.entered transactional).perform_alike body fun asking member => ?_
  rw [session.entered_settings second transactional]
  exact keyed asking member

/-- A transaction whose body heeds failures is rolled back where a statement of it could not be
recorded. -/
theorem Contrast.rolledBack (contrast : Contrast first second) {body : Body α}
    (heeds : body.HeedsFailures) {asking : Asking σ} {failure : Failure}
    (member : asking ∈ session.runAskings true body first)
    (unkeyed : session.askingKey second.settings asking = .error failure) :
    (∃ failure, (session.runBody true body second).outcome = .error failure) ∧
      session.runTrace true body second =
        .acquire :: (driverTrace (session.begun second).events ++
          driverTrace (session.executing (session.runAskings true body second)) ++
          [.rollback]) ++ session.returnCalls := by
  obtain ⟨acquired, begins⟩ := entered_of_mem_runAskings member
  have otherAcquired := (session.acquire_heedless.alike contrast.akin).outcome.trans acquired
  have otherBegins := (begun_alike contrast.akin).outcome.trans begins
  rw [runAskings_of_begun acquired begins] at member
  rw [← session.entered_settings second true] at unkeyed
  obtain ⟨later, asks, other, fails⟩ := (contrast.entered true).exists_failed member unkeyed
  rw [← nextLease_akin contrast.akin, ← runAskings_of_begun otherAcquired otherBegins] at asks
  have stops := completes_of_heeded otherAcquired otherBegins heeds asks fails
  rw [runTrace_of_begun otherAcquired otherBegins,
    closingCalls_of_heeded otherAcquired otherBegins heeds asks fails]
  exact ⟨runBody_of_not_completed otherAcquired stops, rfl⟩

end Runs

/-! ### Statements that cannot be recorded -/

/-- A statement that has a rendered text, with a UTF-8 form if it is slow by the settings. -/
structure IsRecordable (settings : Settings) (asking : Asking σ) : Prop where
  timed : (session.timeOf asking).isNumber = true
  encodable : ∃ text, Template.render (some session.dialect) asking.sql asking.params = .ok text ∧
    (isSlow settings (session.timeOf asking) = .ok true → text.IsEncodable)

/-- A statement that is slow by the settings and has a rendered text without a UTF-8 form. -/
structure IsUnrecordable (settings : Settings) (asking : Asking σ) (run : Text.UnencodableRun) :
    Prop where
  slow : isSlow settings (session.timeOf asking) = .ok true
  unencodable : ∃ text, Template.render (some session.dialect) asking.sql asking.params = .ok text ∧
    Text.utf8 text = .error run

section Records

variable {session} {settings : Settings} {asking : Asking σ}

theorem IsRecordable.keyed (can : session.IsRecordable settings asking)
    (settled : settings.Settled) :
    ∃ key, session.askingKey settings asking = .ok key := by
  obtain ⟨text, rendered, encodable⟩ := can.encodable
  exact session.exists_recordKey _ _ settled can.timed fun slow =>
    (Fingerprint.ofStatement_ok_iff rendered).mpr (encodable slow)

theorem IsUnrecordable.unkeyed {run : Text.UnencodableRun}
    (cannot : session.IsUnrecordable settings asking run) :
    session.askingKey settings asking = .error (.unencodable run) := by
  obtain ⟨text, rendered, unencodable⟩ := cannot.unencodable
  rw [askingKey, session.recordKey_of_slow _ _ cannot.slow,
    Fingerprint.ofStatement_of_unencodable rendered unencodable]
  rfl

private theorem isRecordable_or {text : Text} (timed : (session.timeOf asking).isNumber = true)
    (rendered : Template.render (some session.dialect) asking.sql asking.params = .ok text) :
    session.IsRecordable settings asking ∨ ∃ run, session.IsUnrecordable settings asking run := by
  by_cases encodable : isSlow settings (session.timeOf asking) = .ok true → text.IsEncodable
  · exact .inl ⟨timed, text, rendered, encodable⟩
  · obtain ⟨slow, surrogates⟩ := Classical.not_imp.mp encodable
    obtain ⟨run, unencodable⟩ := Text.utf8_of_not_encodable surrogates
    exact .inr ⟨run, slow, text, rendered, unencodable⟩

end Records

/-- What it amounts to that slow statements are recorded as given from a world on. -/
structure RecordingEffect (world : World σ) (enabled : Value) (threshold : Number) : Prop where
  -- A statement that can be rendered has a fingerprint unless its text has surrogates.
  fingerprint : ∀ dialect sql params text, Template.render dialect sql params = .ok text →
    ((∃ key, Fingerprint.ofStatement dialect sql params = .ok key) ↔ text.IsEncodable)
  decided : ∀ asking text, (session.timeOf asking).isNumber = true →
    Template.render (some session.dialect) asking.sql asking.params = .ok text →
    session.IsRecordable (world.recording enabled threshold).settings asking ∨
      ∃ run, session.IsUnrecordable (world.recording enabled threshold).settings asking run
  kept : ∀ id sql params,
    session.IsRecordable (world.recording enabled threshold).settings ⟨id, sql, params, world⟩ →
    Execution.Alike (session.query id sql params world)
      (session.query id sql params (world.recording enabled threshold))
  -- A success turns into a failure where the statement cannot be recorded.
  lost : ∀ id sql params outcome run, session.Answers ⟨id, sql, params, world⟩ outcome →
    session.IsUnrecordable (world.recording enabled threshold).settings
      ⟨id, sql, params, world⟩ run →
    (session.query id sql params world).outcome = .ok outcome ∧
      (session.query id sql params (world.recording enabled threshold)).outcome =
        .error (.unencodable run)
  alike : ∀ {α : Type} (transactional : Bool) (body : Body α),
    (∀ asking ∈ session.runAskings transactional body world, ∀ outcome,
      session.Answers asking outcome →
        session.IsRecordable (world.recording enabled threshold).settings asking) →
    Execution.Alike (session.runBody transactional body world)
      (session.runBody transactional body (world.recording enabled threshold))
  -- A transaction whose body heeds failures does not commit where a statement of it cannot be
  -- recorded.
  rolledBack : ∀ {α : Type} (body : Body α), body.HeedsFailures →
    ∀ asking ∈ session.runAskings true body world, ∀ run,
    session.IsUnrecordable (world.recording enabled threshold).settings asking run →
    (∃ failure, (session.runBody true body (world.recording enabled threshold)).outcome =
        .error failure) ∧
      session.runTrace true body (world.recording enabled threshold) =
        .acquire :: (driverTrace (session.begun (world.recording enabled threshold)).events ++
          driverTrace (session.executing
            (session.runAskings true body (world.recording enabled threshold))) ++
          [.rollback]) ++ session.returnCalls

theorem recording_effect (world : World σ) (silent : world.settings.echo = .silent)
    (disabled : world.settings.recordsSlow.isTruthy = false) (settled : world.settings.Settled)
    (enabled : Value) {threshold : Number}
    (passed : threshold.holds .less (.int 0) = .ok false) :
    session.RecordingEffect world enabled threshold := by
  have contrast : Contrast world (world.recording enabled threshold) :=
    ⟨⟨⟨_, rfl⟩, settled, passed⟩, silent, silent, disabled⟩
  have otherSettled : (world.recording enabled threshold).settings.Settled := passed
  exact {
    fingerprint := fun _dialect _sql _params _text rendered =>
      Fingerprint.ofStatement_ok_iff rendered
    decided := fun _asking _text timed rendered => isRecordable_or timed rendered
    kept := fun id sql params can => contrast.query_alike fun _outcome _answers =>
      can.keyed otherSettled
    lost := fun _id _sql _params _outcome _run answers cannot =>
      ⟨contrast.query_of_quiet answers, contrast.query_of_unkeyed answers cannot.unkeyed⟩
    alike := fun transactional body can => contrast.runBody_alike transactional body
      fun asking member outcome answers => (can asking member outcome answers).keyed otherSettled
    rolledBack := fun body heeds asking member run cannot =>
      contrast.rolledBack heeds member cannot.unkeyed }

/-! ### An insert -/

def slowInserts : List Rehearsal.Line :=
  [⟨"INSERT", [⟨some (Binary64.ofRat 2), none, none, [], [("rowcount", .int 1)]⟩]⟩]

def insertingSession : Session Rehearsal.Stage :=
  Rehearsal.willingSession .mysql slowInserts

def insertingWorld : World Rehearsal.Stage :=
  Rehearsal.quietWorld .silent slowInserts []

theorem slow_insert_recording_effect :
    (insertingWorld.settings.echo = .silent ∧
      insertingWorld.settings.recordsSlow.isTruthy = false ∧ insertingWorld.settings.Settled ∧
      (Number.int 1000).holds .less (.int 0) = .ok false) ∧
      insertingSession.RecordingEffect insertingWorld (.bool true) (.int 1000) :=
  ⟨⟨rfl, rfl, rfl, rfl⟩,
    insertingSession.recording_effect insertingWorld rfl rfl rfl (.bool true) rfl⟩

/-- An insert of one byte that is not ASCII. -/
def byteInsert : Body Outcome :=
  .ask "INSERT INTO t VALUES (%s)" [.bytes .fixed [0xFF]]

/-- A slow insert that commits is rolled back when slow statements are recorded, although its
statement can be rendered. -/
theorem byteInsert_rolled_back :
    (Template.render (some .mysql) "INSERT INTO t VALUES (%s)" [.bytes .fixed [0xFF]]).isOk = true ∧
      (Fingerprint.ofStatement (some .mysql) "INSERT INTO t VALUES (%s)"
        [.bytes .fixed [0xFF]]).isOk = false ∧
      (insertingSession.runBody true byteInsert insertingWorld).outcome.isOk = true ∧
      insertingSession.runTrace true byteInsert insertingWorld =
        [.acquire, .begin, .execute, .close, .commit, .release] ∧
      (insertingSession.runBody true byteInsert
          (insertingWorld.recording (.bool true) (.int 1000))).outcome.map (fun _inserted => ()) =
        .error (.unencodable ⟨23, 1, .surrogate 0x4FF⟩) ∧
      insertingSession.runTrace true byteInsert
          (insertingWorld.recording (.bool true) (.int 1000)) =
        [.acquire, .begin, .execute, .close, .rollback, .release] := by
  decide +kernel

end Session
end PooledQuery
