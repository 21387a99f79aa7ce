/-
The protocol of selections.

A page asks its range and, only if that succeeds, the total, on a connection of its own and
outside a transaction; if its run fails ordinarily, the log of pages gets one record, where
statements are echoed and that log keeps errors.  A slice asks, within a transaction, the
total and, only if that succeeds and there are rows, its range; it commits only after all of
its statements have succeeded.
-/
import PooledQuery.Proofs.Paging
import PooledQuery.Proofs.Session.Askings
import PooledQuery.Proofs.Session.Noting
import PooledQuery.Proofs.Session.Rehearsed
import PooledQuery.Proofs.Session.Selection

namespace PooledQuery

variable {σ α : Type}

/-! ### Records about pages -/

def Event.isPageRecord : Event → Bool
  | .log .pages _ _ _ => true
  | _ => false

def pageRecords (events : List Event) : List Event :=
  events.filter Event.isPageRecord

@[simp] theorem pageRecords_append (first second : List Event) :
    pageRecords (first ++ second) = pageRecords first ++ pageRecords second :=
  List.filter_append first second

theorem pageRecords_of_none {events : List Event}
    (none : ∀ event ∈ events, event.isPageRecord = false) : pageRecords events = [] := by
  unfold pageRecords
  rw [List.filter_eq_nil_iff]
  intro event member
  rw [none event member]
  exact Bool.false_ne_true

/-- The frame of actions that may change anything. -/
def World.unbounded : Frame (World σ) where
  relates := fun _before _after => True
  refl := fun _world => trivial
  trans := fun _former _latter => trivial

/-- Actions that make no record about a page. -/
abbrev Action.Pageless (action : Action (World σ) α) : Prop :=
  Action.Within World.unbounded (fun event => event.isPageRecord = false) action

private theorem Event.isPageRecord_of_unrecorded {event : Event}
    (unrecorded : event.isRecord = false) :
    event.isPageRecord = false := by
  cases event with
  | log channel severity message cause => cases unrecorded
  | _ => rfl

theorem World.Heedless.pageless {action : Action (World σ) α} (heedless : World.Heedless action) :
    action.Pageless where
  state := fun _world => trivial
  events := fun world event member =>
    Event.isPageRecord_of_unrecorded (heedless.unrecorded world event member)

theorem Action.Within.pageless {frame : Frame (World σ)} {allowed : Event → Prop}
    {action : Action (World σ) α} (bounded : Action.Within frame allowed action)
    (others : ∀ event, allowed event → event.isPageRecord = false) : action.Pageless where
  state := fun _world => trivial
  events := fun world event member => others event (bounded.events world event member)

namespace Session

variable (session : Session σ) (id : LeaseId) (sql : Text) (params : List Value)

private theorem log_pageless (severity : Severity) (line : LogLine) (cause : Option Failure) :
    (session.log .statements severity line cause).Pageless := by
  unfold Session.log
  cases severity.reaches session.logFloor with
  | true => exact Action.Within.emit _ rfl
  | false => exact Action.Within.pure ()

private theorem recordSlow_pageless (elapsed : Binary64) :
    (session.recordSlow sql params elapsed).Pageless := by
  unfold Session.recordSlow
  refine Action.Within.read.bind fun world => ?_
  refine (Action.Within.ofExcept _).bind fun slow => ?_
  split
  · refine (Action.Within.ofExcept _).bind fun key => ?_
    refine Action.Within.read.bind fun world => ?_
    refine (Action.Within.update _ fun _world => trivial).bind fun _updated => ?_
    split
    · exact (Action.Within.ofExcept _).bind fun statement => session.log_pageless _ _ _
    · exact Action.Within.pure ()
  · exact Action.Within.pure ()

private theorem complete_pageless (response : Value) (elapsed : Binary64) :
    (session.complete sql params response elapsed).Pageless := by
  have echoes (outcome : Outcome) : (session.echo sql params outcome).Pageless := by
    refine (session.echo_unchanged sql params outcome).pageless fun event echoed => ?_
    obtain ⟨message, rfl⟩ := echoed
    rfl
  unfold Session.complete
  refine (World.Heedless.outcomeOf response).pageless.bind fun outcome => ?_
  refine (echoes outcome).bind fun _echoed => ?_
  exact (session.recordSlow_pageless sql params elapsed).bind fun _recorded =>
    Action.Within.pure outcome

private theorem reportFailure_pageless : (session.reportFailure id sql params).Pageless := by
  have logs : (session.logFailure sql params).Pageless := by
    refine (session.logFailure_unchanged sql params).pageless fun event line => ?_
    obtain ⟨text, rfl⟩ := line
    rfl
  unfold Session.reportFailure
  exact logs.bind fun _logged => (keepFailure_heedless id sql params).pageless

private theorem query_pageless : (session.query id sql params).Pageless := by
  have executes : (Lease.execute session.driver id sql params).Pageless :=
    (Lease.execute_heedless session.driver id sql params).pageless
  unfold Session.query
  refine session.now_heedless.pageless.bind fun started => ?_
  refine executes.attempt.bind fun outcome => ?_
  cases outcome with
  | ok response =>
      refine session.now_heedless.pageless.bind fun ended => ?_
      exact session.complete_pageless sql params response _
  | error failure =>
      dsimp only
      split
      · exact (session.reportFailure_pageless id sql params).bind fun _reported =>
          Action.Within.fail failure
      · exact (Action.Within.pure ()).bind fun _passed => Action.Within.fail failure

private theorem perform_pageless (body : Body α) : (session.perform id body).Pageless := by
  induction body with
  | finish result => exact Action.Within.pure result
  | stop failure => exact Action.Within.fail failure
  | query sql params next ih => exact (session.query_pageless id sql params).attempt.bind ih

theorem pageRecords_runBody (body : Body α) (world : World σ) :
    pageRecords (session.runBody false body world).events = [] := by
  cases acquired : (session.acquire world).outcome with
  | error failure =>
      unfold Session.runBody
      rw [session.run_of_refused false _ world failure acquired]
      exact pageRecords_of_none (session.acquire_heedless.pageless.events world)
  | ok done =>
      have performs := session.perform_pageless (nextLease world) body
      have performed := pageRecords_of_none (performs.events (session.entered false world))
      have returned : pageRecords (Lease.returnEvents session.pool session.driver) = [] := by
        rcases Lease.returnEvents_cases session.pool session.driver with back | back | back <;>
          rw [back] <;> rfl
      rw [(session.runBody_of_acquired body world false acquired).2]
      change pageRecords ((session.perform (nextLease world) body
        (session.entered false world)).events ++ _) = []
      rw [pageRecords_append, performed, returned, List.append_nil]

/-! ### Pages -/

abbrev pageRun (page : Value) (limit : Number) (offset : Value) (world : World σ) :
    Execution (World σ) Page :=
  session.runBody false (Paging.pageBody session.dialect sql params page limit offset) world

/-- The statements that the run of a page asks. -/
abbrev pageStatements (page : Value) (limit : Number) (offset : Value) (world : World σ) :
    List (Asking σ) :=
  session.runAskings false (Paging.pageBody session.dialect sql params page limit offset) world

/-- What holds of a page whose number, limit and offset are given. -/
structure PageProtocol (clause sql : Text) (params : List Value) (request : PageRequest)
    (page : Value) (limit : Number) (offset : Value) (world : World σ) : Prop where
  -- Without a connection nothing is asked.
  refused : ∀ failure, (session.acquire world).outcome = .error failure →
    session.pageStatements sql params page limit offset world = []
  -- The range comes first, and the total only after its success.
  asked : (session.acquire world).outcome = .ok () →
    session.pageStatements sql params page limit offset world =
      session.pageAskings (nextLease world) clause sql params offset (.number limit)
        (session.entered false world)
  -- Cursors get these statements, with their own parameters.
  given : givenTrace (session.selectPage sql request params world).events =
    givenTrace (session.executing (session.pageStatements sql params page limit offset world))
  -- The statements are executed on one connection, which is then given back.
  calls : (session.acquire world).outcome = .ok () →
    driverTrace (session.selectPage sql request params world).events =
      .acquire :: driverTrace
        (session.executing (session.pageStatements sql params page limit offset world)) ++
        session.returnCalls
  plain : ∀ call ∈ [DriverCall.begin, .beginTransaction, .direct, .commit, .rollback],
    call ∉ driverTrace (session.selectPage sql request params world).events
  found : ∀ found, (session.pageRun sql params page limit offset world).outcome = .ok found →
    (session.selectPage sql request params world).outcome = .ok found ∧
      pageRecords (session.selectPage sql request params world).events = []
  -- An ordinary failure of the run makes one record, and is handed on.
  noted : ∀ failure,
    (session.pageRun sql params page limit offset world).outcome = .error failure →
    session.NotesPage world.settings.echo failure →
    (session.selectPage sql request params world).outcome = .error failure ∧
      pageRecords (session.selectPage sql request params world).events =
        [pageRecord page limit failure]
  -- Any other failure of the run makes none, and is handed on.
  unnoted : ∀ failure,
    (session.pageRun sql params page limit offset world).outcome = .error failure →
    ¬ session.NotesPage world.settings.echo failure →
    (session.selectPage sql request params world).outcome = .error failure ∧
      pageRecords (session.selectPage sql request params world).events = []

private theorem runBody_echo (transactional : Bool) (body : Body α) (world : World σ) :
    (session.runBody transactional body world).state.settings.echo = world.settings.echo := by
  cases acquired : (session.acquire world).outcome with
  | error failure =>
      unfold Session.runBody
      rw [session.run_of_refused transactional _ world failure acquired]
      exact congrArg Settings.echo (session.acquire_within.state world).settings
  | ok done =>
      have works := session.work_fills body world transactional
      -- The release may close the lease, but is heedless of the echo level.
      have releases := (Lease.release_heedless session.pool session.driver (nextLease world)).watch
        (session.work transactional body world).state
      rw [(session.runBody_of_acquired body world transactional acquired).1]
      exact (congrArg Watch.echo releases).trans (congrArg Settings.echo
        (works.settings.trans (session.borrowed_settings transactional world)))

section Page

variable {session sql params} {clause : Text} {request : PageRequest} {page : Value}
  {limit : Number} {offset : Value} {world : World σ}
  (bounds : PageBounds world.settings request page limit offset)

include bounds

theorem driverTrace_selectPage :
    driverTrace (session.selectPage sql request params world).events =
      session.runTrace false (Paging.pageBody session.dialect sql params page limit offset)
        world := by
  obtain ⟨lines, inward, events⟩ := session.selectPage_events sql params bounds
  have silent : driverTrace lines = [] :=
    driverTrace_of_callsAtMost_nil fun event member => (inward event member).callsAtMost
  rw [events, driverTrace_append, silent, List.append_nil]
  rfl

theorem selectPage_of_logged {failure : Failure} {lines : List Event}
    (fails : (session.runBody false
      (Paging.pageBody session.dialect sql params page limit offset) world).outcome =
        .error failure)
    (logged : ∀ after : World σ, after.settings.echo = world.settings.echo →
      session.logPageFailure page limit failure after = ⟨.ok (), after, lines⟩) :
    (session.selectPage sql request params world).outcome = .error failure ∧
      pageRecords (session.selectPage sql request params world).events = pageRecords lines := by
  rw [session.selectPage_of_failed sql params bounds fails]
  dsimp only
  rw [logged _ (session.runBody_echo false _ world), pageRecords_append,
    session.pageRecords_runBody]
  exact ⟨rfl, rfl⟩

private theorem page_follows_protocol (bounded : session.dialect.rangeClause = .ok clause) :
    session.PageProtocol clause sql params request page limit offset world where
  refused := by
    intro failure refused
    refine session.runAskings_of_unentered false _ world ?_
    rw [refused]
    rfl
  asked := fun acquired => (runAskings_of_plain acquired).trans
    (session.askings_pageBody _ sql params clause bounded page limit offset _)
  given := by
    rw [session.givenTrace_selectPage_run sql params bounds, session.givenTrace_runBody,
      session.runCourse_eq_map]
    rfl
  calls := by
    intro acquired
    rw [driverTrace_selectPage bounds]
    exact runTrace_of_plain acquired
  plain := by
    intro call member
    rw [driverTrace_selectPage bounds]
    refine session.not_mem_runTrace_of_plain _ world ?_ ?_ ?_ <;>
      (revert member; revert call; decide)
  found := by
    intro found succeeds
    rw [session.selectPage_of_found sql params bounds succeeds, session.pageRecords_runBody]
    exact ⟨succeeds, rfl⟩
  noted := by
    intro failure fails noted
    have logged (after : World σ) (same : after.settings.echo = world.settings.echo) :
        session.logPageFailure page limit failure after =
          ⟨.ok (), after, [pageRecord page limit failure]⟩ := by
      rw [← same] at noted
      exact session.logPageFailure_of_noted after page limit noted
    exact selectPage_of_logged bounds fails logged
  unnoted := by
    intro failure fails unnoted
    have logged (after : World σ) (same : after.settings.echo = world.settings.echo) :
        session.logPageFailure page limit failure after = ⟨.ok (), after, []⟩ := by
      rw [← same] at unnoted
      exact session.logPageFailure_of_unnoted after page limit unnoted
    exact selectPage_of_logged bounds fails logged

end Page

/-! ### Slices -/

theorem heedsFailures_sliceBody (dialect : Dialect) (slice : Slice) :
    (Paging.sliceBody dialect sql params slice).HeedsFailures := by
  unfold Paging.sliceBody
  refine Body.heedsFailures_ask_bind _ _ fun counted => ?_
  refine Body.heedsFailures_ofExcept_bind _ fun all => ?_
  split
  · exact trivial
  · refine Body.heedsFailures_ofExcept_bind _ fun size => ?_
    refine Body.heedsFailures_ofExcept_bind _ fun before => ?_
    refine Body.heedsFailures_ofExcept_bind _ fun range => ?_
    refine Body.heedsFailures_ask_bind _ _ fun rows => ?_
    exact Body.heedsFailures_ofExcept_bind _ fun last => trivial

/-- The statements that the run of a slice asks. -/
abbrev sliceStatements (slice : Slice) (world : World σ) : List (Asking σ) :=
  session.runAskings true (Paging.sliceBody session.dialect sql params slice) world

structure SliceProtocol (clause sql : Text) (params : List Value) (slice : Slice)
    (world : World σ) : Prop where
  -- Without a connection or a transaction nothing is asked.
  unentered : (session.acquire world).outcome.isOk = false ∨
      (session.begun world).outcome.isOk = false →
    session.sliceStatements sql params slice world = []
  -- The total comes first, and the range only after its success, if there are rows.
  asked : (session.acquire world).outcome = .ok () → (session.begun world).outcome = .ok () →
    session.sliceStatements sql params slice world =
      session.sliceAskings (nextLease world) clause sql params slice (session.entered true world)
  given : givenTrace (session.selectSlice sql slice params world).events =
    givenTrace (session.executing (session.sliceStatements sql params slice world))
  unbegun : (session.acquire world).outcome = .ok () →
    (session.begun world).outcome.isOk = false →
    driverTrace (session.selectSlice sql slice params world).events =
      .acquire :: (driverTrace (session.begun world).events ++ [.rollback]) ++
        session.returnCalls
  -- The statements stand between the calls that begin and those that end the transaction.
  calls : (session.acquire world).outcome = .ok () → (session.begun world).outcome = .ok () →
    driverTrace (session.selectSlice sql slice params world).events =
      .acquire :: (driverTrace (session.begun world).events ++
        driverTrace (session.executing (session.sliceStatements sql params slice world)) ++
        session.closingCalls (Paging.sliceBody session.dialect sql params slice) world) ++
        session.returnCalls
  -- After a failed statement there is no commit, but a rollback.
  failed : (session.acquire world).outcome = .ok () → (session.begun world).outcome = .ok () →
    ∀ asking ∈ session.sliceStatements sql params slice world,
    ∀ failure, (session.asked asking).outcome = .error failure →
    session.closingCalls (Paging.sliceBody session.dialect sql params slice) world = [.rollback]

private theorem slice_follows_protocol {clause : Text}
    (bounded : session.dialect.rangeClause = .ok clause)
    (slice : Slice) (world : World σ) : session.SliceProtocol clause sql params slice world where
  unentered := by
    intro unentered
    refine session.runAskings_of_unentered true _ world ?_
    rcases unentered with refused | unbegun
    · rw [refused, Bool.false_and]
    · rw [unbegun, Bool.not_true, Bool.or_false, Bool.and_false]
  asked := fun acquired begins => (runAskings_of_begun acquired begins).trans
    (session.askings_sliceBody _ sql params clause bounded slice _)
  given := by
    unfold Session.selectSlice
    rw [session.givenTrace_runBody, session.runCourse_eq_map]
    rfl
  unbegun := fun acquired failed => runTrace_of_not_begun acquired failed
  calls := fun acquired begins => runTrace_of_begun acquired begins
  failed := fun acquired begins _asking member _failure failed =>
    closingCalls_of_heeded acquired begins
      (heedsFailures_sliceBody sql params session.dialect slice) member failed

/-! ### Selections -/

/-- What holds of the selections of a statement, whatever a pool, a driver and a sink do. -/
structure SelectionProtocol (clause sql : Text) (params : List Value) (world : World σ) : Prop where
  page : ∀ request page limit offset, PageBounds world.settings request page limit offset →
    session.PageProtocol clause sql params request page limit offset world
  -- A limit of its own below zero is refused before anything is done.
  belowZero : ∀ page own, own.holds .less (.int 0) = .ok true →
    session.selectPage sql (.limited page (.number own)) params world =
      ⟨.error .limitBelowOne, world, []⟩
  slice : ∀ slice, session.SliceProtocol clause sql params slice world

theorem selections_follow_protocol {clause : Text}
    (bounded : session.dialect.rangeClause = .ok clause) (world : World σ) :
    session.SelectionProtocol clause sql params world where
  page := fun _request _page _limit _offset bounds => page_follows_protocol bounds bounded
  belowZero := by
    intro page own negative
    unfold Session.selectPage
    rw [Action.read_bind, PageRequest.resolve_of_negative _ page negative,
      Action.ofExcept_error_bind]
    rfl
  slice := fun slice => session.slice_follows_protocol sql params bounded slice world

theorem willing_selections_follow_protocol :
    (Rehearsal.willingSession .mysql []).dialect.rangeClause = .ok "LIMIT %s, %s" ∧
      (Rehearsal.willingSession .mysql []).SelectionProtocol "LIMIT %s, %s" "SELECT id FROM t" []
        (Rehearsal.quietWorld .full [] []) :=
  ⟨rfl, selections_follow_protocol (Rehearsal.willingSession .mysql []) "SELECT id FROM t" [] rfl
    (Rehearsal.quietWorld .full [] [])⟩

/-- A session whose pool has no connections, and whose log keeps no errors. -/
def exhaustedSession : Session Rehearsal.Stage :=
  { Rehearsal.willingSession .mysql [] with
    pool := Rehearsal.pool ⟨.immediate, .immediate, ["acquire"]⟩
    logFloor := .critical }

/-- A log that keeps no errors gets no record about a page, although statements are echoed
and the failure is ordinary. -/
theorem exhausted_page_unnoted :
    (Rehearsal.quietWorld .full [] []).settings.echo ≠ .silent ∧
      (∃ failure, failure.isOrdinary = true ∧
        (exhaustedSession.selectPage "SELECT 1" (.number (.int 0)) []
          (Rehearsal.quietWorld .full [] [])).outcome = .error failure) ∧
      pageRecords (exhaustedSession.selectPage "SELECT 1" (.number (.int 0)) []
        (Rehearsal.quietWorld .full [] [])).events = [] :=
  ⟨by decide, ⟨_, rfl, rfl⟩, rfl⟩

end Session
end PooledQuery
