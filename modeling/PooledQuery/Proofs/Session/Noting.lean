/-
What a statement notes down.

After a success a statement is echoed, and recorded if it was slow; after a failure the log
gets a line.  Lines change nothing.  A record changes the log of slow statements alone, and
only if the statement is new there; then, and only then, there is a warning as well.
-/
import PooledQuery.Proofs.Session.Statement
import PooledQuery.Proofs.Session.Watch
import PooledQuery.Proofs.Settings.Threshold
import PooledQuery.Session.Select

namespace PooledQuery

variable {σ : Type}

def World.unchanged : Frame (World σ) where
  relates := fun before after => after = before
  refl := fun _world => rfl
  trans := fun former latter => latter.trans former

/-- Nothing changes but the log of slow statements. -/
def World.relogging : Frame (World σ) where
  relates := fun before after => ∃ slowLog, after = { before with slowLog := slowLog }
  refl := fun world => ⟨world.slowLog, rfl⟩
  trans := by
    rintro first _ _ ⟨former, rfl⟩ ⟨latter, rfl⟩
    exact ⟨latter, rfl⟩

def Event.IsEcho (event : Event) : Prop :=
  ∃ line, event = .log .statements .info line none

def Event.IsFailureLine (event : Event) : Prop :=
  ∃ text, event = .log .statements .warning (.text ("SQL failed] " ++ text)) none

def Event.IsPageLine (event : Event) : Prop :=
  ∃ line cause, event = .log .pages .error line cause

theorem Event.IsEcho.isRecord {event : Event} (echoes : event.IsEcho) : event.isRecord = true := by
  obtain ⟨line, rfl⟩ := echoes
  rfl

theorem Event.IsFailureLine.isRecord {event : Event} (reports : event.IsFailureLine) :
    event.isRecord = true := by
  obtain ⟨text, rfl⟩ := reports
  rfl

theorem Event.IsPageLine.isRecord {event : Event} (reports : event.IsPageLine) :
    event.isRecord = true := by
  obtain ⟨line, cause, rfl⟩ := reports
  rfl

namespace Session

variable (session : Session σ) (sql : Text) (params : List Value)

theorem log_unchanged {allowed : Event → Prop} {channel : LogChannel} {severity : Severity}
    {line : LogLine} {cause : Option Failure}
    (one : allowed (.log channel severity line cause)) :
    Action.Within World.unchanged allowed (session.log channel severity line cause) := by
  unfold Session.log
  cases severity.reaches session.logFloor with
  | true => exact Action.Within.emit _ one
  | false => exact Action.Within.pure ()

private theorem log_outcome (channel : LogChannel) (severity : Severity) (line : LogLine)
    (cause : Option Failure) (world : World σ) :
    (session.log channel severity line cause world).outcome = .ok () := by
  unfold Session.log
  cases severity.reaches session.logFloor <;> rfl

/-! ### Lines -/

theorem echo_unchanged (outcome : Outcome) :
    Action.Within World.unchanged Event.IsEcho (session.echo sql params outcome) := by
  unfold Session.echo
  refine Action.Within.read.bind fun world => ?_
  dsimp only
  split
  · refine (Action.Within.ofExcept _).bind fun statement => ?_
    exact (Action.Within.ofExcept _).bind fun line => session.log_unchanged ⟨line, rfl⟩
  · exact Action.Within.pure ()

theorem logFailure_unchanged :
    Action.Within World.unchanged Event.IsFailureLine (session.logFailure sql params) := by
  unfold Session.logFailure
  refine Action.Within.read.bind fun world => ?_
  split
  · exact (Action.Within.ofExcept _).bind fun statement => session.log_unchanged ⟨_, rfl⟩
  · exact Action.Within.pure ()

theorem logPageFailure_unchanged (page : Value) (limit : Number) (failure : Failure) :
    Action.Within World.unchanged Event.IsPageLine (session.logPageFailure page limit failure) := by
  unfold Session.logPageFailure
  refine Action.Within.read.bind fun world => ?_
  split
  · exact session.log_unchanged ⟨_, _, rfl⟩
  · exact Action.Within.pure ()

variable (world : World σ)

/-- The record about a page that could not be read. -/
def pageRecord (page : Value) (limit : Number) (failure : Failure) : Event :=
  .log .pages .error (.pageFailed page limit) (some failure)

/-- Whether there is a record about a page that could not be read for a failure. -/
def NotesPage (level : Echo) (failure : Failure) : Prop :=
  failure.isOrdinary = true ∧ level ≠ .silent ∧ Severity.error.reaches session.logFloor = true

theorem logPageFailure_of_noted (page : Value) (limit : Number) {failure : Failure}
    (noted : session.NotesPage world.settings.echo failure) :
    session.logPageFailure page limit failure world =
      ⟨.ok (), world, [pageRecord page limit failure]⟩ := by
  obtain ⟨ordinary, spoken, kept⟩ := noted
  unfold Session.logPageFailure Session.log
  rw [Action.read_bind, if_pos ⟨ordinary, spoken⟩, kept, if_pos rfl]
  rfl

theorem logPageFailure_of_unnoted (page : Value) (limit : Number) {failure : Failure}
    (unnoted : ¬ session.NotesPage world.settings.echo failure) :
    session.logPageFailure page limit failure world = ⟨.ok (), world, []⟩ := by
  unfold Session.logPageFailure Session.log
  rw [Action.read_bind]
  split
  · rename_i spoken
    rw [if_neg fun kept => unnoted ⟨spoken.1, spoken.2, kept⟩]
    rfl
  · rfl

theorem logPageFailure_outcome (page : Value) (limit : Number) (failure : Failure) :
    (session.logPageFailure page limit failure world).outcome = .ok () := by
  by_cases noted : session.NotesPage world.settings.echo failure
  · rw [session.logPageFailure_of_noted world page limit noted]
  · rw [session.logPageFailure_of_unnoted world page limit noted]

/-- Whether successes are echoed with their outcomes as JSON. -/
def EchoesInFull (settings : Settings) : Prop :=
  settings.echo = .full ∧ Severity.info.reaches session.logFloor = true

theorem echo_outcome {statement : Text} {outcome : Outcome}
    (rendered : Template.render (some session.dialect) sql params = .ok statement)
    (written : session.EchoesInFull world.settings → ∃ text, outcome.written = .ok text) :
    (session.echo sql params outcome world).outcome = .ok () := by
  unfold Session.echo Session.rendered
  rw [Action.read_bind, rendered]
  split
  · rename_i spoken
    obtain ⟨line, shows⟩ := exists_echoLine statement fun full => written ⟨full, spoken.2⟩
    rw [Action.ofExcept_ok_bind, shows, Action.ofExcept_ok_bind]
    exact session.log_outcome _ _ _ _ world
  · rfl

/-! ### Records of slow statements -/

variable (elapsed : Binary64)

/-- The warning about a slow statement, where the log keeps warnings. -/
def slowWarning (statement : Text) : List Event :=
  if Severity.warning.reaches session.logFloor then
    [.log .statements .warning (.text ("Slow SQL] " ++ elapsed.oneDecimal ++ "ms " ++ statement)) none]
  else []

theorem recordSlow_of_undecided {failure : Failure}
    (undecided : isSlow world.settings elapsed = .error failure) :
    session.recordSlow sql params elapsed world = ⟨.error failure, world, []⟩ := by
  unfold Session.recordSlow
  rw [Action.read_bind, undecided, Action.ofExcept_error_bind]
  rfl

theorem recordSlow_of_quick (quick : isSlow world.settings elapsed = .ok false) :
    session.recordSlow sql params elapsed world = ⟨.ok (), world, []⟩ := by
  unfold Session.recordSlow
  rw [Action.read_bind, quick, Action.ofExcept_ok_bind]
  rfl

section Slow

variable (slow : isSlow world.settings elapsed = .ok true)

include slow

theorem recordSlow_of_unkeyed {failure : Failure}
    (unkeyed : Fingerprint.ofStatement (some session.dialect) sql params = .error failure) :
    session.recordSlow sql params elapsed world = ⟨.error failure, world, []⟩ := by
  unfold Session.recordSlow
  rw [Action.read_bind, slow, Action.ofExcept_ok_bind, if_pos rfl, unkeyed,
    Action.ofExcept_error_bind]
  rfl

variable {key : Text}
  (keyed : Fingerprint.ofStatement (some session.dialect) sql params = .ok key)

include keyed

theorem recordSlow_of_known (known : world.slowLog.has key = true) :
    session.recordSlow sql params elapsed world = ⟨.ok (), world, []⟩ := by
  unfold Session.recordSlow
  rw [Action.read_bind, slow, Action.ofExcept_ok_bind, if_pos rfl, keyed,
    Action.ofExcept_ok_bind, Action.read_bind]
  unfold SlowLog.add
  rw [if_pos known]
  rfl

theorem recordSlow_of_new (new : world.slowLog.has key = false) {statement : Text}
    (rendered : Template.render (some session.dialect) sql params = .ok statement) :
    session.recordSlow sql params elapsed world =
      { outcome := .ok ()
        state := { world with
          slowLog := world.slowLog ++ [⟨key, sql, params, .float elapsed⟩] }
        events := session.slowWarning elapsed statement } := by
  unfold Session.recordSlow Session.rendered Session.log slowWarning
  rw [Action.read_bind, slow, Action.ofExcept_ok_bind, if_pos rfl, keyed,
    Action.ofExcept_ok_bind, Action.read_bind]
  unfold SlowLog.add
  rw [new, if_neg Bool.false_ne_true, rendered]
  cases Severity.warning.reaches session.logFloor <;> rfl

end Slow

theorem recordSlow_bounded :
    Action.Within World.relogging (fun event => event.isRecord = true)
      (session.recordSlow sql params elapsed) := by
  have updated (slowLog : SlowLog) : Action.Within World.relogging
      (fun event => event.isRecord = true)
      (Action.update fun world : World σ => { world with slowLog := slowLog }) :=
    Action.Within.update _ fun _world => ⟨slowLog, rfl⟩
  unfold Session.recordSlow
  refine Action.Within.read.bind fun world => ?_
  refine (Action.Within.ofExcept _).bind fun slow => ?_
  cases slow with
  | false => exact Action.Within.pure ()
  | true =>
      refine (Action.Within.ofExcept _).bind fun key => ?_
      refine Action.Within.read.bind fun world => ?_
      refine (updated _).bind fun _updated => ?_
      split
      · refine (Action.Within.ofExcept _).bind fun statement => ?_
        apply Action.Within.enlarge (session.log_unchanged _)
        · intro before _after same
          exact ⟨before.slowLog, same⟩
        · rfl
      · exact Action.Within.pure ()

/-- The fingerprint under which a statement that took so long is recorded, if it is slow. -/
def recordKey (settings : Settings) : Except Failure (Option Text) := do
  if ← isSlow settings elapsed then
    return some (← Fingerprint.ofStatement (some session.dialect) sql params)
  else
    return none

variable {elapsed} {settings : Settings}

theorem recordKey_of_quick (quick : isSlow settings elapsed = .ok false) :
    session.recordKey sql params elapsed settings = .ok none := by
  rw [recordKey, quick]
  rfl

theorem recordKey_of_slow (slow : isSlow settings elapsed = .ok true) :
    session.recordKey sql params elapsed settings = do
      return some (← Fingerprint.ofStatement (some session.dialect) sql params) := by
  rw [recordKey, slow]
  rfl

/-- Recording a statement fails exactly as finding the fingerprint for it does. -/
theorem recordSlow_outcome :
    (session.recordSlow sql params elapsed world).outcome =
      (session.recordKey sql params elapsed world.settings).map fun _key => () := by
  cases decided : isSlow world.settings elapsed with
  | error failure =>
      rw [session.recordSlow_of_undecided sql params world elapsed decided, recordKey, decided]
      rfl
  | ok slow =>
      cases slow with
      | false =>
          rw [session.recordSlow_of_quick sql params world elapsed decided,
            session.recordKey_of_quick sql params decided]
          rfl
      | true =>
          rw [session.recordKey_of_slow sql params decided]
          cases keyed : Fingerprint.ofStatement (some session.dialect) sql params with
          | error failure =>
              rw [session.recordSlow_of_unkeyed sql params world elapsed decided keyed]
              rfl
          | ok key =>
              obtain ⟨text, rendered⟩ := render_of_fingerprint keyed
              cases known : world.slowLog.has key with
              | true =>
                  rw [session.recordSlow_of_known sql params world elapsed decided keyed known]
                  rfl
              | false =>
                  rw [session.recordSlow_of_new sql params world elapsed decided keyed known
                    rendered]
                  rfl

/-- Against a settled threshold a statement that took some time has a key, if it has a
fingerprint in case that it is slow. -/
theorem exists_recordKey (settled : settings.Settled) (number : elapsed.isNumber = true)
    (keyed : isSlow settings elapsed = .ok true →
      ∃ key, Fingerprint.ofStatement (some session.dialect) sql params = .ok key) :
    ∃ key, session.recordKey sql params elapsed settings = .ok key := by
  obtain ⟨slow, decided⟩ := isSlow_of_settled settled number
  cases slow with
  | false => exact ⟨none, session.recordKey_of_quick sql params decided⟩
  | true =>
      obtain ⟨key, keyed⟩ := keyed decided
      rw [session.recordKey_of_slow sql params decided, keyed]
      exact ⟨some key, rfl⟩

end Session
end PooledQuery
