/-
What the log of slow statements holds in the course of a conversation.

At every point the log holds, of the statements that succeeded since it was cleared and that
were slow when they were executed, the first of every fingerprint.  The warnings are those
about the entries that were added.  Slow means that the time exceeds the threshold.  That
says nothing about a threshold that is no number: such a threshold passes its check.
-/
import PooledQuery.Proofs.Session.Rehearsed
import PooledQuery.Proofs.Session.SlowCapture

namespace PooledQuery.Session

variable {σ α β : Type} (session : Session σ)

/-! ### What passes through conversations -/

/-- The log passes from each deed to the next. -/
inductive Leads : SlowLog → List (Deed σ) → SlowLog → Prop where
  | nil (log : SlowLog) : Leads log [] log
  | cons (deed : Deed σ) (rest : List (Deed σ)) (final : SlowLog)
      (follows : Leads (session.logAfter deed deed.world.slowLog) rest final) :
      Leads deed.world.slowLog (deed :: rest) final

/-- An execution leaves the log to which its deeds lead, and makes their warnings. -/
structure Tells (before : SlowLog) (deeds : List (Deed σ)) (execution : Execution (World σ) α) :
    Prop where
  leads : session.Leads before deeds execution.state.slowLog
  warned : slowWarnings execution.events = deeds.flatMap session.warnings

variable {session}

theorem Leads.append {first between last : SlowLog} {former latter : List (Deed σ)}
    (leads : session.Leads first former between) (follows : session.Leads between latter last) :
    session.Leads first (former ++ latter) last := by
  induction leads with
  | nil log => exact follows
  | cons deed rest final _ ih => exact .cons deed (rest ++ latter) last (ih follows)

namespace Tells

variable {before : SlowLog} {deeds : List (Deed σ)} {world : World σ}

theorem of_heedless (session : Session σ) {action : Action (World σ) α}
    (heedless : World.Heedless action) (world : World σ) :
    session.Tells world.slowLog [] (action world) := by
  have leaves := leaves_of_heedless heedless world
  refine ⟨?_, leaves.warned⟩
  rw [leaves.slowLog]
  exact .nil world.slowLog

theorem of_deed (deed : Deed σ) {execution : Execution (World σ) α}
    (leaves : Leaves execution (session.logAfter deed deed.world.slowLog)
      (session.warnings deed)) : session.Tells deed.world.slowLog [deed] execution := by
  refine ⟨.cons deed [] _ ?_, ?_⟩
  · rw [leaves.slowLog]
    exact .nil _
  · rw [leaves.warned, List.flatMap_singleton]

theorem after {action : Action (World σ) α} (heedless : World.Heedless action)
    {execution : Execution (World σ) β}
    (tells : session.Tells (action world).state.slowLog deeds execution)
    (outcome : Except Failure β) :
    session.Tells world.slowLog deeds
      ⟨outcome, execution.state, (action world).events ++ execution.events⟩ := by
  have leaves := leaves_of_heedless heedless world
  rw [leaves.slowLog] at tells
  refine ⟨tells.leads, ?_⟩
  dsimp only
  rw [slowWarnings_append, leaves.warned, tells.warned]
  rfl

theorem followedBy {execution : Execution (World σ) α}
    (tells : session.Tells before deeds execution) {action : Action (World σ) β}
    (heedless : World.Heedless action) {γ : Type} (outcome : Except Failure γ) :
    session.Tells before deeds ⟨outcome, (action execution.state).state,
      execution.events ++ (action execution.state).events⟩ := by
  have leaves := leaves_of_heedless heedless execution.state
  refine ⟨?_, ?_⟩
  · dsimp only
    rw [leaves.slowLog]
    exact tells.leads
  · dsimp only
    rw [slowWarnings_append, leaves.warned, tells.warned, List.append_nil]

end Tells

section Run

variable {transactional : Bool} {body : LeaseId → Action (World σ) α} {world : World σ}
  {deeds : List (Deed σ)}

private theorem tried_tells
    (acts : (session.begun world).outcome = .ok () →
      session.Tells (session.begun world).state.slowLog deeds (session.acted true body world)) :
    session.Tells (session.borrowed true world).slowLog
      (if (session.begun world).outcome.isOk then deeds else []) (session.tried body world) := by
  have begins := Lease.begin_heedless session.driver session.dialect (nextLease world)
  have commits := Lease.commit_heedless session.driver (nextLease world)
  cases begun : (session.begun world).outcome with
  | error failure =>
      rw [session.tried_of_not_begun body world failure begun]
      have tells := Tells.of_heedless session begins (session.borrowed true world)
      exact ⟨tells.leads, tells.warned⟩
  | ok done =>
      have acts := acts begun
      cases acted : (session.acted true body world).outcome with
      | error failure =>
          rw [session.tried_of_stopped body world failure begun acted]
          exact acts.after begins (.error failure)
      | ok result =>
          rw [session.tried_of_completed body world result begun acted]
          exact (acts.followedBy commits (session.acted true body world).outcome).after begins _

private theorem handled_tells
    (acts : (!transactional || (session.begun world).outcome.isOk) = true →
      session.Tells (session.entered transactional world).slowLog deeds
        (session.acted transactional body world)) :
    session.Tells (session.acquire world).state.slowLog
      (if !transactional || (session.begun world).outcome.isOk then deeds else [])
      (session.handled transactional body world) := by
  cases transactional with
  | false => exact acts rfl
  | true =>
      have tries : session.Tells (session.borrowed true world).slowLog
          (if (session.begun world).outcome.isOk then deeds else []) (session.tried body world) :=
        tried_tells fun begun => acts (by rw [begun]; rfl)
      cases tried : (session.tried body world).outcome with
      | ok result =>
          rw [session.handled_of_tried body world result tried]
          exact tries
      | error failure =>
          rw [session.handled_of_failed body world failure tried]
          exact tries.followedBy (session.abandon_heedless (nextLease world)) _

private theorem run_tells {history : LeaseId → History σ}
    (tells : ∀ id world, session.Tells world.slowLog (history id world) (body id world)) :
    session.Tells world.slowLog (session.runHistory transactional history world)
      (session.run transactional body world) := by
  unfold runHistory
  cases acquired : (session.acquire world).outcome with
  | error failure =>
      have asks := Tells.of_heedless session session.acquire_heedless world
      rw [session.run_of_refused transactional body world failure acquired]
      exact ⟨asks.leads, asks.warned⟩
  | ok done =>
      have acts : session.Tells (session.acquire world).state.slowLog
          (if !transactional || (session.begun world).outcome.isOk then
            history (nextLease world) (session.entered transactional world) else [])
          (session.handled transactional body world) :=
        handled_tells fun _entered => tells (nextLease world) _
      have releases := Lease.release_heedless session.pool session.driver (nextLease world)
      -- What the pool does before and after leaves the log alone.
      have runs := (acts.followedBy releases
        (session.handled transactional body world).outcome).after session.acquire_heedless
        ((session.returned transactional body world).outcome.bind fun _returned =>
          (session.handled transactional body world).outcome)
      rw [session.acquire_events_of_ok world acquired] at runs
      rw [session.run_stages transactional body world acquired]
      exact runs

end Run

private theorem adjust_tells (adjustment : Adjustment) (world : World σ) :
    session.Tells world.slowLog [.adjusted adjustment world] (adjustment.apply world) := by
  have keeps (change : Settings → Except Failure Settings) :
      Leaves (World.updateSettings change world) world.slowLog [] := by
    unfold World.updateSettings
    rw [Action.read_bind]
    cases change world.settings <;> exact ⟨rfl, rfl⟩
  refine Tells.of_deed (.adjusted adjustment world) ?_
  cases adjustment with
  | clearSlow => exact ⟨rfl, rfl⟩
  | echo value => exact keeps fun settings => settings.withEcho value
  | defaultLimit value => exact keeps fun settings => settings.withDefaultLimit value
  | recordsSlow value => exact keeps fun settings => .ok (settings.withRecordsSlow value)
  | slowThreshold value => exact keeps fun settings => settings.withSlowThreshold value

theorem pervades_tells : session.Pervades fun _α action history =>
    ∀ world, session.Tells world.slowLog (history world) (action world) where
  ofExcept := fun outcome world => Tells.of_heedless session (World.Heedless.ofExcept outcome) world
  query := fun id sql params world =>
    Tells.of_deed (.asked ⟨id, sql, params, world⟩) (asked_leaves ⟨id, sql, params, world⟩)
  adjust := adjust_tells
  pageFailed := fun page limit failure world =>
    Tells.of_deed (.pageFailed page limit failure world)
      (leaves_of_unchanged (session.logPageFailure_unchanged page limit failure)
        (fun _event => Event.IsPageLine.isSlowWarning) world)
  run := fun transactional body former tells world => run_tells tells
  attempt := fun _action _former tells world => ⟨(tells world).leads, (tells world).warned⟩
  bind := by
    intro α β first next former latter tells follows world
    have head := tells world
    unfold History.andThen
    cases outcome : (first world).outcome with
    | error failure =>
        rw [Action.bind_of_error first next world failure outcome, List.append_nil]
        exact ⟨head.leads, head.warned⟩
    | ok result =>
        have tail := follows result (first world).state
        rw [Action.bind_of_ok first next world result outcome]
        refine ⟨head.leads.append tail.leads, ?_⟩
        dsimp only
        rw [slowWarnings_append, head.warned, tail.warned, List.flatMap_append]
  readLimit := fun _next _latter follows world => follows world.settings.defaultLimit world

/-! ### At every point -/

namespace Leads

variable {first last : SlowLog} {earlier later deeds prior : List (Deed σ)} {deed : Deed σ}

theorem upTo (leads : session.Leads first (earlier ++ deed :: later) last) :
    session.Leads first earlier deed.world.slowLog := by
  induction earlier generalizing first with
  | nil =>
      cases leads with
      | cons _ _ _ _ => exact .nil deed.world.slowLog
  | cons head rest ih =>
      cases leads with
      | cons _ _ _ follows => exact .cons head rest deed.world.slowLog (ih follows)

/-- From what some deeds have left, more deeds lead to what all of them leave. -/
theorem eq_captured (leads : session.Leads (session.captured prior) deeds last) :
    last = session.captured (prior ++ deeds) := by
  -- Each deed starts in the log that the deeds before it have left, so it joins those.
  generalize start : session.captured prior = first at leads
  induction leads generalizing prior with
  | nil log => rw [List.append_nil, start]
  | cons deed rest final _ ih =>
      rw [List.append_cons]
      refine ih ?_
      rw [session.captured_concat, start]

end Leads

variable (session)

structure Captures (deeds : List (Deed σ)) (log : SlowLog) : Prop where
  -- The entries of the slow statements since it was cleared, the first of each key.
  entries : log = session.captured deeds
  first : ∀ entry, entry ∈ log ↔ ∃ before after,
    (sinceCleared deeds).filterMap session.deedEntry? = before ++ entry :: after ∧
      ∀ earlier ∈ before, earlier.key ≠ entry.key
  distinct : log.Distinct
  keyed : ∀ entry ∈ log,
    Fingerprint.ofStatement (some session.dialect) entry.sql entry.params = .ok entry.key
  -- An entry is that of a statement that succeeded since the log was cleared.
  own : ∀ entry ∈ log, ∃ asking, .asked asking ∈ sinceCleared deeds ∧
    (session.asked asking).outcome.isOk = true ∧ entry.sql = asking.sql ∧
      entry.params = asking.params ∧ entry.elapsed = .float (session.timeOf asking)
  finds : ∀ key entry, log.get? key = some entry ↔ entry ∈ log ∧ entry.key = key
  has : ∀ key, log.has key = true ↔ ∃ entry ∈ log, entry.key = key

/-- What a conversation leaves in the log of slow statements. -/
structure CapturesSlow (conversation : Conversation α) (world : World σ) : Prop where
  -- What is captured has taken longer than the threshold that was in force.
  slow : ∀ asking, .asked asking ∈ session.history conversation world →
    (session.timeOf asking).isNumber = true →
    asking.world.settings.slowThreshold.isNumber = true →
    ((session.slowEntry? asking).isSome = true ↔ (session.asked asking).outcome.isOk = true ∧
      asking.world.settings.recordsSlow.isTruthy = true ∧
      (Number.float (session.timeOf asking)).Exceeds asking.world.settings.slowThreshold)
  during : ∀ earlier deed later,
    session.history conversation world = earlier ++ deed :: later →
    session.Captures earlier deed.world.slowLog
  afterwards : session.Captures (session.history conversation world)
    (session.converse conversation world).state.slowLog
  -- There is a warning for each entry that is added.
  warned : slowWarnings (session.converse conversation world).events =
    (session.history conversation world).flatMap session.warnings

theorem captured_captures (deeds : List (Deed σ)) :
    session.Captures deeds (session.captured deeds) := by
  have source (entry : SlowEntry) (member : entry ∈ session.captured deeds) :
      ∃ asking, .asked asking ∈ sinceCleared deeds ∧ session.slowEntry? asking = some entry := by
    obtain ⟨deed, present, entered⟩ :=
      List.mem_filterMap.mp (SlowLog.mem_of_mem_firstOfEachKey member)
    cases deed with
    | asked asking => exact ⟨asking, present, entered⟩
    | adjusted adjustment world => cases entered
    | pageFailed page limit failure world => cases entered
  have distinct : (session.captured deeds).Distinct := SlowLog.firstOfEachKey_distinct _
  exact {
    entries := rfl
    first := fun _entry => SlowLog.mem_firstOfEachKey_iff
    distinct := distinct
    keyed := by
      intro entry member
      obtain ⟨asking, _, entered⟩ := source entry member
      obtain ⟨_, keyed, same⟩ := eq_of_slowEntry? entered
      rw [same]
      exact keyed
    own := by
      intro entry member
      obtain ⟨asking, present, entered⟩ := source entry member
      obtain ⟨succeeded, _, same⟩ := eq_of_slowEntry? entered
      rw [same]
      exact ⟨asking, present, succeeded, rfl, rfl, rfl⟩
    finds := fun _key _entry => SlowLog.get?_eq_some_iff distinct
    has := fun _key => SlowLog.has_eq_true_iff }

theorem converse_captures_slow (conversation : Conversation α) (world : World σ)
    (empty : world.slowLog = []) : session.CapturesSlow conversation world := by
  have tells := session.pervades_tells.converse conversation world
  have leads := tells.leads
  rw [empty] at leads
  refine ⟨fun _asking _member => slowEntry?_isSome_iff, ?_, ?_, tells.warned⟩
  · intro earlier deed later split
    rw [split] at leads
    have reached : deed.world.slowLog = session.captured ([] ++ earlier) := leads.upTo.eq_captured
    rw [reached]
    exact session.captured_captures earlier
  · have reached : (session.converse conversation world).state.slowLog =
        session.captured ([] ++ session.history conversation world) := leads.eq_captured
    rw [reached]
    exact session.captured_captures _

/-! ### Three conversations -/

def dawdling : List Rehearsal.Line :=
  [⟨"SELECT", [⟨some (Binary64.ofRat 2), none, none, [], [("rowcount", .int 0)]⟩]⟩]

def dawdlingSession : Session Rehearsal.Stage :=
  Rehearsal.willingSession .mysql dawdling

/-- A world in which statements are recorded if they take longer than a second. -/
def recordingWorld : World Rehearsal.Stage :=
  { Rehearsal.quietWorld .silent dawdling [] with
    settings := ⟨.silent, .int 10, .bool true, .int 1000, .text "IGNORE"⟩ }

def askedOnce : Conversation (Except Failure Outcome) :=
  .request (.single "SELECT 1" []) .finish

/-- A statement before and after the log is cleared. -/
def askedAgain : Conversation (Except Failure Outcome) :=
  .request (.single "SELECT 1" []) fun _outcome => .adjust .clearSlow fun _cleared => askedOnce

theorem askedAgain_captures_slow :
    recordingWorld.slowLog = [] ∧ dawdlingSession.CapturesSlow askedAgain recordingWorld :=
  ⟨rfl, converse_captures_slow dawdlingSession askedAgain recordingWorld rfl⟩

example : (dawdlingSession.converse askedAgain recordingWorld).state.slowLog.length = 1 := by
  decide +kernel

def askedAboveNothing : Conversation (Except Failure Outcome) :=
  .adjust (.slowThreshold (.number (.float .nan))) fun _changed => askedOnce

/-- A log that keeps no warnings gets none about a record.  A statement that exceeds nothing
is recorded above a threshold that is no number. -/
theorem recorded_unwarned_or_unexceeding :
    (({ dawdlingSession with logFloor := .error }.converse askedOnce
        recordingWorld).state.slowLog.length = 1 ∧
      slowWarnings ({ dawdlingSession with logFloor := .error }.converse askedOnce
        recordingWorld).events = []) ∧
      (dawdlingSession.converse askedAboveNothing recordingWorld).state.slowLog.length = 1 ∧
        ∀ asking, .asked asking ∈ dawdlingSession.history askedAboveNothing recordingWorld →
          ¬ (Number.float (dawdlingSession.timeOf asking)).Exceeds
            asking.world.settings.slowThreshold := by
  have unwarned : slowWarnings ({ dawdlingSession with logFloor := .error }.converse askedOnce
      recordingWorld).events = [] := List.length_eq_zero_iff.mp (by decide +kernel)
  refine ⟨⟨by decide +kernel, unwarned⟩, by decide +kernel, ?_⟩
  intro asking member exceeds
  change _ ∈ [Deed.adjusted _ _, Deed.asked _] at member
  have unordered : asking.world.settings.slowThreshold = .float .nan := by
    rcases List.mem_cons.mp member with same | present
    · cases same
    · cases List.mem_singleton.mp present
      rfl
  unfold Number.Exceeds at exceeds
  rw [unordered, Number.compare?_of_not_number (Bool.and_false _)] at exceeds
  cases exceeds

end PooledQuery.Session
