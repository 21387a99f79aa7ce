/-
What is noted down makes no difference.

Two sessions over the same collaborators that differ only in their echo level and in whether,
and above which time, they record slow statements have like conversations: the same answers,
the same failures, and the same events but for the log, as long as what might be noted down
can be written.
-/
import PooledQuery.Proofs.Session.Alike
import PooledQuery.Proofs.Session.Askings
import PooledQuery.Proofs.Session.Conversation
import PooledQuery.Proofs.Session.Rehearsed

namespace PooledQuery

variable {σ α : Type}

namespace Session

/-- The statement of a deed can be shown. -/
def CanShowDeed (session : Session σ) : Deed σ → Prop
  | .asked asking => session.CanShow asking.id asking.sql asking.params asking.world
  | _ => True

def EchoesDeedCounts (session : Session σ) : Deed σ → Prop
  | .asked asking => session.EchoesCounts asking.id asking.sql asking.params asking.world
  | _ => True

/-- What a session may note down in these histories can be written: their statements can be
shown, and so can the counts that are echoed in one or the other. -/
structure CanNote (session : Session σ) (deeds otherDeeds : List (Deed σ)) : Prop where
  shown : ∀ deed ∈ deeds, session.CanShowDeed deed
  counts : ∀ deed ∈ deeds, session.EchoesDeedCounts deed
  otherCounts : ∀ deed ∈ otherDeeds, session.EchoesDeedCounts deed

/-- The action does alike in akin worlds, if its deeds can be noted. -/
def Ignores (session : Session σ) (α : Type) (action : Action (World σ) α) (history : History σ) :
    Prop :=
  ∀ first second, World.Akin first second → session.CanNote (history first) (history second) →
    Execution.Alike (action first) (action second)

variable {session : Session σ} {first second : World σ}

section

variable {former latter otherFormer otherLatter : List (Deed σ)}
  (canNote : session.CanNote (former ++ latter) (otherFormer ++ otherLatter))

include canNote

theorem CanNote.left : session.CanNote former otherFormer where
  shown deed member := canNote.shown deed (List.mem_append_left _ member)
  counts deed member := canNote.counts deed (List.mem_append_left _ member)
  otherCounts deed member := canNote.otherCounts deed (List.mem_append_left _ member)

theorem CanNote.right : session.CanNote latter otherLatter where
  shown deed member := canNote.shown deed (List.mem_append_right _ member)
  counts deed member := canNote.counts deed (List.mem_append_right _ member)
  otherCounts deed member := canNote.otherCounts deed (List.mem_append_right _ member)

end

/-! ### Runs -/

section Run

variable (transactional : Bool)

theorem nextLease_akin (akin : World.Akin first second) : nextLease second = nextLease first :=
  congrArg List.length akin.leases

theorem borrowed_akin (akin : World.Akin first second) :
    World.Akin (session.borrowed transactional first) (session.borrowed transactional second) :=
  ((World.Heedless.addLease transactional).alike (session.acquire_heedless.alike akin).state).state

theorem begun_alike (akin : World.Akin first second) :
    Execution.Alike (session.begun first) (session.begun second) := by
  unfold begun
  rw [nextLease_akin akin]
  exact (Lease.begin_heedless session.driver session.dialect _).alike (borrowed_akin true akin)

theorem entered_akin (akin : World.Akin first second) :
    World.Akin (session.entered transactional first) (session.entered transactional second) := by
  cases transactional with
  | false => exact borrowed_akin false akin
  | true => exact (begun_alike akin).state

private theorem isEntered_akin (akin : World.Akin first second) :
    ((session.acquire second).outcome.isOk &&
        (!transactional || (session.begun second).outcome.isOk)) =
      ((session.acquire first).outcome.isOk &&
        (!transactional || (session.begun first).outcome.isOk)) := by
  rw [(session.acquire_heedless.alike akin).outcome, (begun_alike akin).outcome]

variable {body : LeaseId → Action (World σ) α}

private theorem tried_alike (akin : World.Akin first second)
    (acts : (session.begun first).outcome = .ok () →
      Execution.Alike (session.acted true body first) (session.acted true body second)) :
    Execution.Alike (session.tried body first) (session.tried body second) := by
  have borrows : World.Akin (session.borrowed true first) (session.borrowed true second) :=
    borrowed_akin true akin
  have begins :=
    (Lease.begin_heedless session.driver session.dialect (nextLease first)).alike borrows
  have entered : session.entered true second = (Lease.begin session.driver session.dialect
      (nextLease first) (session.borrowed true second)).state := by
    rw [← nextLease_akin akin]
    rfl
  unfold acted at acts
  unfold tried
  rw [nextLease_akin akin, entered] at acts
  rw [nextLease_akin akin]
  refine begins.bind fun done begun => ?_
  have acted : Execution.Alike (body (nextLease first) (Lease.begin session.driver
      session.dialect (nextLease first) (session.borrowed true first)).state) _ := acts begun
  refine acted.bind fun result _succeeds => ?_
  have commits := (Lease.commit_heedless session.driver (nextLease first)).alike acted.state
  exact commits.bind fun _committed _succeeds =>
    (World.Heedless.pure result).alike commits.state

private theorem handled_alike (akin : World.Akin first second)
    (acts : (!transactional || (session.begun first).outcome.isOk) = true →
      Execution.Alike (session.acted transactional body first)
        (session.acted transactional body second)) :
    Execution.Alike (session.handled transactional body first)
      (session.handled transactional body second) := by
  cases transactional with
  | false => exact acts rfl
  | true =>
      have tries := tried_alike akin fun begun => acts (by rw [begun]; rfl)
      unfold tried at tries
      unfold handled
      rw [nextLease_akin akin] at tries ⊢
      refine tries.attemptThen ?_
      cases (session.enclosed (nextLease first) (body (nextLease first))
          (session.borrowed true first)).outcome with
      | ok result => exact (World.Heedless.pure result).alike tries.state
      | error failure =>
          have abandons := (session.abandon_heedless (nextLease first)).alike tries.state
          exact abandons.bind fun _abandoned _succeeds =>
            (World.Heedless.fail failure).alike abandons.state

theorem run_alike (akin : World.Akin first second)
    (acts : ((session.acquire first).outcome.isOk &&
        (!transactional || (session.begun first).outcome.isOk)) = true →
      Execution.Alike (session.acted transactional body first)
        (session.acted transactional body second)) :
    Execution.Alike (session.run transactional body first)
      (session.run transactional body second) := by
  have asks := session.acquire_heedless.alike akin
  cases acquired : (session.acquire first).outcome with
  | error failure =>
      rw [session.run_of_refused transactional body first failure acquired,
        session.run_of_refused transactional body second failure (asks.outcome.trans acquired)]
      exact ⟨rfl, asks.state, asks.events⟩
  | ok done =>
      have works : Execution.Alike (session.handled transactional body first)
          (session.handled transactional body second) :=
        handled_alike transactional akin fun entered => acts (by rw [acquired]; exact entered)
      have returns := (Lease.release_heedless session.pool session.driver (nextLease first)).alike
        works.state
      rw [session.run_stages transactional body first acquired,
        session.run_stages transactional body second (asks.outcome.trans acquired)]
      unfold returned
      rw [nextLease_akin akin]
      refine ⟨?_, returns.state, ?_⟩
      · dsimp only
        rw [returns.outcome, works.outcome]
      · change Event.acquire :: withoutRecords (_ ++ _) = .acquire :: withoutRecords (_ ++ _)
        rw [withoutRecords_append, withoutRecords_append, works.events, returns.events]

end Run

/-! ### Settings and pages -/

theorem updateSettings_alike (akin : World.Akin first second)
    (change : Settings → Except Failure Settings)
    (changes : (∃ failure, change first.settings = .error failure ∧
        change second.settings = .error failure) ∨
      ∃ former latter, change first.settings = .ok former ∧ change second.settings = .ok latter ∧
        latter.defaultLimit = former.defaultLimit ∧ latter.ignoreMarker = former.ignoreMarker ∧
        former.Settled ∧ latter.Settled) :
    Execution.Alike (World.updateSettings change first) (World.updateSettings change second) := by
  unfold World.updateSettings
  rw [Action.read_bind, Action.read_bind]
  rcases changes with ⟨failure, refused, alsoRefused⟩ |
    ⟨former, latter, changed, alsoChanged, limit, marker, settled, otherSettled⟩
  · rw [refused, alsoRefused]
    exact ⟨rfl, akin, rfl⟩
  · rw [changed, alsoChanged]
    refine ⟨rfl, ⟨?_, settled, otherSettled⟩, rfl⟩
    obtain ⟨watch, rfl⟩ := akin.same
    refine ⟨⟨latter.echo, latter.recordsSlow, latter.slowThreshold, watch.slowLog⟩, ?_⟩
    cases latter
    cases former
    cases limit
    cases marker
    rfl

private theorem adjust_alike (akin : World.Akin first second) (adjustment : Adjustment) :
    Execution.Alike (adjustment.apply first) (adjustment.apply second) := by
  have settled := akin.settled
  have otherSettled := akin.otherSettled
  have limit := akin.defaultLimit
  have marker : second.settings.ignoreMarker = first.settings.ignoreMarker := by
    obtain ⟨watch, rfl⟩ := akin.same
    rfl
  cases adjustment with
  | clearSlow =>
      obtain ⟨watch, rfl⟩ := akin.same
      exact ⟨rfl, ⟨⟨{ watch with slowLog := [] }, rfl⟩, settled, otherSettled⟩, rfl⟩
  | echo value =>
      refine updateSettings_alike akin (fun settings => settings.withEcho value) ?_
      unfold Settings.withEcho
      cases Echo.ofName value with
      | error failure => exact .inl ⟨failure, rfl, rfl⟩
      | ok echo => exact .inr ⟨_, _, rfl, rfl, limit, marker, settled, otherSettled⟩
  | defaultLimit value =>
      refine updateSettings_alike akin (fun settings => settings.withDefaultLimit value) ?_
      unfold Settings.withDefaultLimit
      cases value.notBelow 1 .limitBelowOne with
      | error failure => exact .inl ⟨failure, rfl, rfl⟩
      | ok defaultLimit => exact .inr ⟨_, _, rfl, rfl, rfl, marker, settled, otherSettled⟩
  | recordsSlow value =>
      exact updateSettings_alike akin (fun settings => .ok (settings.withRecordsSlow value))
        (.inr ⟨_, _, rfl, rfl, limit, marker, settled, otherSettled⟩)
  | slowThreshold value =>
      refine updateSettings_alike akin (fun settings => settings.withSlowThreshold value) ?_
      unfold Settings.withSlowThreshold
      cases passed : value.notBelow 0 .negativeSlowTime with
      | error failure => exact .inl ⟨failure, rfl, rfl⟩
      | ok threshold =>
          have holds := Settings.holds_of_notBelow passed
          exact .inr ⟨_, _, rfl, rfl, limit, marker, holds, holds⟩

theorem logPageFailure_notes (page : Value) (limit : Number) (failure : Failure)
    (world : World σ) : World.Notes world (session.logPageFailure page limit failure world) :=
  World.notes_of_unchanged (session.logPageFailure_unchanged page limit failure)
    (fun _event => Event.IsPageLine.isRecord) world
    (session.logPageFailure_outcome world page limit failure)

/-! ### Conversations -/

theorem pervades_ignores : session.Pervades session.Ignores where
  ofExcept := fun outcome first second akin _canNote =>
    (World.Heedless.ofExcept outcome).alike akin
  query := fun id sql params first second akin canNote =>
    query_alike akin (canNote.shown _ List.mem_cons_self) (canNote.counts _ List.mem_cons_self)
      (canNote.otherCounts _ List.mem_cons_self)
  adjust := fun adjustment first second akin _canNote => adjust_alike akin adjustment
  pageFailed := fun page limit failure first second akin _canNote =>
    World.Notes.alike akin (logPageFailure_notes page limit failure first)
      (logPageFailure_notes page limit failure second)
  run := by
    intro α transactional body former ignores first second akin canNote
    refine run_alike transactional akin fun entered => ?_
    -- Only a body that is entered has deeds, and only then must they be such as can be noted.
    have otherEntered := (isEntered_akin transactional akin).trans entered
    unfold runHistory at canNote
    rw [if_pos entered, if_pos otherEntered, nextLease_akin akin] at canNote
    unfold acted
    rw [nextLease_akin akin]
    exact ignores _ _ _ (entered_akin transactional akin) canNote
  attempt := fun action former ignores first second akin canNote =>
    (ignores first second akin canNote).attempt
  bind := by
    intro α β action next former latter ignores follows first second akin canNote
    have alike := ignores first second akin canNote.left
    refine alike.bind fun result succeeds => ?_
    -- The first outcome is the same in both worlds, so the deeds that follow it are those.
    have rest := canNote.right
    rw [alike.outcome, succeeds] at rest
    exact follows result _ _ alike.state rest
  readLimit := by
    intro α next latter follows first second akin canNote
    dsimp only at canNote
    rw [akin.defaultLimit] at canNote
    rw [Action.read_bind, Action.read_bind, akin.defaultLimit]
    exact follows _ first second akin canNote

theorem converse_alike (conversation : Conversation α) (akin : World.Akin first second)
    (canNote : session.CanNote (session.history conversation first)
      (session.history conversation second)) :
    Execution.Alike (session.converse conversation first)
      (session.converse conversation second) :=
  pervades_ignores.converse conversation first second akin canNote

/-! ### Two sessions -/

def onlyRequest (request : Request α) : Conversation (Except Failure α) :=
  .request request .finish

theorem history_onlyRequest (request : Request α) :
    session.history (onlyRequest request) = session.requestHistory request :=
  (session.requestHistory request).andThen_none _

/-- A session that echoes statements in full. -/
def loudWorld (script : List Rehearsal.Line) : World Rehearsal.Stage :=
  Rehearsal.quietWorld .full script []

/-- A session that echoes nothing, and records every statement that takes any time. -/
def silentWorld (script : List Rehearsal.Line) : World Rehearsal.Stage :=
  (loudWorld script).watchedBy ⟨.silent, .bool true, .int 0, []⟩

theorem loudWorld_akin (script : List Rehearsal.Line) :
    World.Akin (loudWorld script) (silentWorld script) :=
  ⟨⟨_, rfl⟩, rfl, rfl⟩

def singleChange : Conversation (Except Failure Outcome) :=
  onlyRequest (.single "UPDATE t SET x = %s" [.text "a"])

def changingOne : List Rehearsal.Line :=
  [⟨"UPDATE", [⟨none, none, none, [], [("rowcount", .int 1)]⟩]⟩]

theorem singleChange_alike :
    (World.Akin (loudWorld changingOne) (silentWorld changingOne) ∧
      (Rehearsal.willingSession .mysql changingOne).CanNote
        ((Rehearsal.willingSession .mysql changingOne).history singleChange
          (loudWorld changingOne))
        ((Rehearsal.willingSession .mysql changingOne).history singleChange
          (silentWorld changingOne))) ∧
      Execution.Alike
        ((Rehearsal.willingSession .mysql changingOne).converse singleChange
          (loudWorld changingOne))
        ((Rehearsal.willingSession .mysql changingOne).converse singleChange
          (silentWorld changingOne)) := by
  have canNote : (Rehearsal.willingSession .mysql changingOne).CanNote
      ((Rehearsal.willingSession .mysql changingOne).history singleChange (loudWorld changingOne))
      ((Rehearsal.willingSession .mysql changingOne).history singleChange
        (silentWorld changingOne)) := by
    rw [singleChange, history_onlyRequest]
    constructor <;> intro deed member <;> cases List.mem_singleton.mp member
    · refine ⟨⟨_, rfl, _, rfl⟩, rfl, rfl, ?_⟩
      rintro summary ⟨response, answered, made⟩
      cases answered
      cases made
      exact ⟨_, rfl⟩
    · rintro _full summary ⟨response, answered, made⟩
      cases answered
      cases made
      exact ChangeSummary.countTexts_of_short (by decide +kernel) (by decide +kernel)
    · rintro ⟨full, _reaches⟩
      cases full
  exact ⟨⟨loudWorld_akin changingOne, canNote⟩,
    converse_alike singleChange (loudWorld_akin changingOne) canNote⟩

/-- A script by which the database answers the counting statement with a change of so many
rows that their number has more than 4300 digits. -/
def changingTooMany : List Rehearsal.Line :=
  [⟨"COUNT(1)", [⟨none, none, none, [], [("rowcount", .decimal (.finite false 1 5000))]⟩]⟩]

def firstHalf : Request SlicePage :=
  .slice "SELECT 1" ⟨.int 0, .int 2⟩ []

private theorem outcomeOf_outcome (response : Value) (world : World σ) :
    (World.outcomeOf response world).outcome =
      (Outcome.ofResponse world.transform response).outcome.1 := by
  unfold World.outcomeOf
  rw [Action.read_bind]
  dsimp only
  split <;> rfl

/-- The counting statement fails in the full echo, so nothing else is asked; and but for its
counts it can be shown. -/
theorem changingTooMany_canShow (asking : Asking Rehearsal.Stage)
    (member : .asked asking ∈ (Rehearsal.willingSession .mysql changingTooMany).history
      (onlyRequest firstHalf) (loudWorld changingTooMany)) :
    (Rehearsal.willingSession .mysql changingTooMany).CanShow asking.id asking.sql
      asking.params asking.world := by
  have fails : ((Rehearsal.willingSession .mysql changingTooMany).asked
      ⟨0, Paging.countStatement "SELECT 1", [], (Rehearsal.willingSession .mysql
        changingTooMany).entered true (loudWorld changingTooMany)⟩).outcome.isOk = false := by
    decide +kernel
  rw [history_onlyRequest] at member
  change _ ∈ (Rehearsal.willingSession .mysql changingTooMany).bodyHistory 0
    (Body.ask _ _ >>= _) _ at member
  rw [bodyHistory_eq_map, askings_ask_bind] at member
  dsimp only at member
  split at member
  · rename_i outcome succeeded
    rw [succeeded] at fails
    cases fails
  · rw [List.map_singleton] at member
    cases List.mem_singleton.mp member
    refine ⟨⟨_, rfl, _, rfl⟩, rfl, rfl, ?_⟩
    rintro summary ⟨response, answered, made⟩
    cases answered
    rw [outcomeOf_outcome] at made
    have noId := ChangeSummary.insertId_of_table (Outcome.ofResponse_change made)
    rw [noId]
    exact ⟨.null, rfl⟩

/-- A number that is too long to be written rolls a transaction back where statements are
echoed in full, and makes no difference where they are not. -/
theorem overlong_count_not_alike :
    World.Akin (loudWorld changingTooMany) (silentWorld changingTooMany) ∧
      (∀ asking, .asked asking ∈ (Rehearsal.willingSession .mysql changingTooMany).history
          (onlyRequest firstHalf) (loudWorld changingTooMany) →
        (Rehearsal.willingSession .mysql changingTooMany).CanShow asking.id asking.sql
          asking.params asking.world) ∧
      ¬ Execution.Alike
        ((Rehearsal.willingSession .mysql changingTooMany).converse (onlyRequest firstHalf)
          (loudWorld changingTooMany))
        ((Rehearsal.willingSession .mysql changingTooMany).converse (onlyRequest firstHalf)
          (silentWorld changingTooMany)) := by
  refine ⟨loudWorld_akin changingTooMany, changingTooMany_canShow, ?_⟩
  intro alike
  have same := congrArg (fun outcome => outcome.map Except.isOk) alike.outcome
  have loud : ((Rehearsal.willingSession .mysql changingTooMany).answer firstHalf
      (loudWorld changingTooMany)).outcome.isOk = false := by decide +kernel
  have silent : ((Rehearsal.willingSession .mysql changingTooMany).answer firstHalf
      (silentWorld changingTooMany)).outcome.isOk = true := by decide +kernel
  change Except.ok _ = Except.ok _ at same
  rw [loud, silent] at same
  cases same

end Session
end PooledQuery
