/-
Rehearsals.

No command of a scripted session leaves a lease open that was closed before: a run closes its
own lease, and nothing else opens one.  So a statement on a lease that a routine has left
behind fails without a call once the routine is over.  A script for a single lease comes down
to the lease's operations, and one for a log of slow statements to the first entries of the
keys that were added since the log was cleared.
-/
import PooledQuery.Proofs.Session.Holding
import PooledQuery.Proofs.Session.Lifecycle
import PooledQuery.Proofs.SlowLog
import PooledQuery.Rehearsal.LeaseScript
import PooledQuery.Rehearsal.SlowLogScript

namespace PooledQuery

variable {σ α : Type}

namespace World

def opening : Frame (World σ) where
  relates := fun before after =>
    ∀ id, (after.lease id).isOpen = true → (before.lease id).isOpen = true
  refl := fun _world _id isOpen => isOpen
  trans := fun former latter id isOpen => former id (latter id isOpen)

abbrev Tidy (action : Action (World σ) α) : Prop :=
  Action.Within opening (fun _event => True) action

def AllClosed (world : World σ) : Prop :=
  ∀ id, (world.lease id).isOpen = false

private theorem opening_of_steady {before after : World σ} (same : Steady before after) :
    opening.relates before after := by
  intro id isOpen
  rw [same.lease id] at isOpen
  exact isOpen

private theorem tidy_of_steady {allowed : Event → Prop} {action : Action (World σ) α}
    (bounded : Action.Within steady allowed action) : Tidy action :=
  (bounded.enlarge opening_of_steady).widen fun _event _allowed => trivial

private theorem tidy_update (change : World σ → World σ)
    (leases : ∀ world, (change world).leases = world.leases) : Tidy (Action.update change) := by
  refine Action.Within.update _ fun world id isOpen => ?_
  unfold World.lease at isOpen ⊢
  rw [leases] at isOpen
  exact isOpen

private theorem tidy_updateSettings (change : Settings → Except Failure Settings) :
    Tidy (World.updateSettings change : Action (World σ) Unit) :=
  Action.Within.read.bind fun _world => (Action.Within.ofExcept _).bind fun _settings =>
    tidy_update _ fun _world => rfl

theorem AllClosed.after {world : World σ} (closed : world.AllClosed) {action : Action (World σ) α}
    (tidy : Tidy action) : (action world).state.AllClosed := by
  intro id
  by_contra isOpen
  have before := tidy.state world id ((Bool.not_eq_false _).mp isOpen)
  exact Bool.noConfusion ((closed id).symm.trans before)

end World

namespace Session

variable (session : Session σ)

private theorem release_tidy (id : LeaseId) :
    World.Tidy (Lease.release session.pool session.driver id) := by
  refine (Lease.release_bounded session.pool session.driver id World.opening_of_steady
    fun world other isOpen => ?_).widen fun _event _called => trivial
  by_cases same : other = id
  · rw [same] at isOpen
    exact Bool.noConfusion ((Lease.isOpen_closing id world).symm.trans isOpen)
  · rw [World.lease_modify_other world id other _ same] at isOpen
    exact isOpen

private theorem run_tidy (transactional : Bool) {body : LeaseId → Action (World σ) α}
    (tidy : ∀ id, World.Tidy (body id)) : World.Tidy (session.run transactional body) := by
  refine Action.Within.of_each fun world => ⟨?_, fun _event _member => trivial⟩
  cases acquired : (session.acquire world).outcome with
  | error failure =>
      rw [session.run_of_refused transactional body world failure acquired]
      exact (World.tidy_of_steady session.acquire_within).state world
  | ok done =>
      rw [session.run_stages transactional body world acquired]
      intro id isOpen
      have works : World.opening.relates (session.borrowed transactional world)
          (session.handled transactional body world).state := by
        cases transactional with
        | false => exact (tidy (nextLease world)).state _
        | true =>
            exact (session.inTransaction_framed World.opening_of_steady (nextLease world)
              (tidy (nextLease world))).state _
      -- The lease of the run is closed in the end, so the open one is another.
      have different : id ≠ nextLease world := by
        rintro rfl
        have closed := Lease.release_closes session.driver (nextLease world) session.pool
          (session.handled transactional body world).state
        exact Bool.noConfusion (closed.symm.trans isOpen)
      have borrowed := works id ((session.release_tidy (nextLease world)).state _ id isOpen)
      rw [session.lease_borrowed_other transactional world different] at borrowed
      exact borrowed

/-- Whatever is asked of a session, it leaves no further lease open. -/
theorem pervades_tidy : session.Pervades fun _α action _history => World.Tidy action where
  ofExcept := Action.Within.ofExcept
  query := fun id sql params => by
    refine ((session.query_within id sql params).enlarge fun fills other isOpen => ?_).widen
      fun _event _called => trivial
    by_cases same : other = id
    · rw [same, fills.isOpen, ← same] at isOpen
      exact isOpen
    · rw [fills.others other same] at isOpen
      exact isOpen
  adjust := by
    intro adjustment
    cases adjustment with
    | clearSlow => exact World.tidy_update _ fun _world => rfl
    | echo value => exact World.tidy_updateSettings fun settings => settings.withEcho value
    | defaultLimit value =>
        exact World.tidy_updateSettings fun settings => settings.withDefaultLimit value
    | recordsSlow value =>
        exact World.tidy_updateSettings fun settings => .ok (settings.withRecordsSlow value)
    | slowThreshold value =>
        exact World.tidy_updateSettings fun settings => settings.withSlowThreshold value
  pageFailed := fun page limit failure =>
    World.tidy_of_steady (session.logPageFailure_within page limit failure)
  run := fun transactional _body _former tidy => session.run_tidy transactional tidy
  attempt := fun _action _former tidy => tidy.attempt
  bind := fun _first _next _former _latter tidy follows => tidy.bind follows
  readLimit := fun _next _latter follows =>
    Action.Within.read.bind fun world => follows world.settings.defaultLimit

private theorem query_of_closed {id : LeaseId} (sql : Text) (params : List Value) {world : World σ}
    (closed : (world.lease id).isOpen = false) :
    driverTrace (session.query id sql params world).events = [] ∧
      ∃ failure, (session.query id sql params world).outcome = .error failure := by
  have refused : Lease.execute session.driver id sql params world =
      ⟨.error .connectionClosed, world, []⟩ :=
    Lease.requireOpen_bind_of_closed id _ closed
  obtain ⟨following, called, silent⟩ := session.query_events id sql params world
  constructor
  · rw [called, refused]
    exact driverTrace_of_callsAtMost_nil silent
  · exact session.query_fails id sql params (by rw [refused])

end Session

namespace Rehearsal

/-! ### Scripted sessions -/

variable (session : Session Stage)

private theorem answering_tidy {first : Play α} (tidy : World.Tidy first) (shows : α → Answer) :
    World.Tidy (first >>= fun result => pure (shows result)) :=
  tidy.bind fun result => Action.Within.pure (shows result)

private theorem savedLease_tidy (missing : Failure) : World.Tidy (savedLease missing) := by
  refine Action.Within.read.bind fun world => ?_
  cases world.collaborators.saved with
  | some id => exact Action.Within.pure id
  | none => exact Action.Within.fail missing

private theorem saveLease_tidy (id : LeaseId) : World.Tidy (saveLease id) :=
  World.tidy_update _ fun _world => rfl

private theorem guarded_tidy (suppressed : Bool) {play : Play Answer} (tidy : World.Tidy play) :
    World.Tidy (guarded suppressed play) := by
  refine tidy.attempt.bind fun outcome => ?_
  cases outcome with
  | ok answer => exact Action.Within.pure answer
  | error failure =>
      dsimp only
      split
      · exact Action.Within.pure _
      · exact Action.Within.fail failure

mutual

/-- No command leaves a lease open that was closed before. -/
theorem perform_tidy : ∀ command, World.Tidy (perform session command)
  | .query sql params => answering_tidy (session.pervades_tidy.answer (.single sql params)) _
  | .first sql params => answering_tidy (session.pervades_tidy.answer (.first sql params)) _
  | .fetch sql params => answering_tidy (session.pervades_tidy.answer (.rows sql params)) _
  | .page sql request params =>
      answering_tidy (session.pervades_tidy.answer (.page sql request params)) _
  | .slice sql _index _count params =>
      (Action.Within.ofExcept _).bind fun part =>
        answering_tidy (session.pervades_tidy.answer (.slice sql part params)) _
  | .run transactional routine =>
      session.pervades_tidy.run transactional _ (fun _id => History.none)
        fun id => performRoutine_tidy id routine
  | .savedQuery sql params =>
      (savedLease_tidy _).bind fun id => answering_tidy (session.pervades_tidy.query id sql params) _
  | .savedFailures => (savedLease_tidy _).bind fun _id => answering_tidy Action.Within.read _
  | .answered sql params response =>
      answering_tidy (World.tidy_of_steady (session.complete_within sql params response _)) _
  | .slowLog => answering_tidy Action.Within.read _
  | .slowHas _key => answering_tidy Action.Within.read _
  | .clearSlow => answering_tidy (session.pervades_tidy.adjust .clearSlow) _
  | .ignores _sql => Action.Within.read.bind fun _world => answering_tidy (Action.Within.ofExcept _) _
  | .settings => answering_tidy Action.Within.read _
  | .setEcho value => answering_tidy (session.pervades_tidy.adjust (.echo value)) _
  | .setDefaultLimit value => answering_tidy (session.pervades_tidy.adjust (.defaultLimit value)) _
  | .setRecordsSlow value => answering_tidy (session.pervades_tidy.adjust (.recordsSlow value)) _
  | .setSlowThreshold value =>
      answering_tidy (session.pervades_tidy.adjust (.slowThreshold value)) _
  | .setTransform transform =>
      answering_tidy
        (World.tidy_update (fun world => { world with transform := transform }) fun _world => rfl) _
  | .setSink sink =>
      answering_tidy (World.tidy_update (fun world => { world with sink := sink }) fun _world => rfl) _

theorem performRoutine_tidy (id : LeaseId) :
    ∀ routine, World.Tidy (performRoutine session id routine)
  | .constant value => Action.Within.pure (Answer.value value)
  | .steps saves steps => by
      unfold performRoutine
      cases saves with
      | true =>
          exact (saveLease_tidy id).bind fun _saved => answering_tidy (performSteps_tidy id steps) _
      | false => exact answering_tidy (performSteps_tidy id steps) _

theorem performSteps_tidy (id : LeaseId) :
    ∀ steps, World.Tidy (performSteps session id steps)
  | [] => Action.Within.pure []
  | step :: rest =>
      (performStep_tidy id step).bind fun answer =>
        (performSteps_tidy id rest).bind fun answers => Action.Within.pure (answer :: answers)

theorem performStep_tidy (id : LeaseId) : ∀ step, World.Tidy (performStep session id step)
  | .query suppressed sql params =>
      guarded_tidy suppressed (answering_tidy (session.pervades_tidy.query id sql params) _)
  | .failures suppressed => guarded_tidy suppressed (answering_tidy Action.Within.read _)
  | .stop suppressed failure => guarded_tidy suppressed (Action.Within.fail failure)
  | .command suppressed command => guarded_tidy suppressed (perform_tidy command)

end

private theorem savedLease_run (missing : Failure) (world : World Stage) :
    savedLease missing world =
      ⟨world.collaborators.saved.elim (.error missing) .ok, world, []⟩ := by
  unfold savedLease
  rw [Action.read_bind]
  cases world.collaborators.saved <;> rfl

/-- Where all leases are closed, a statement on a lease that a routine has left behind fails,
and nothing is called. -/
theorem savedQuery_of_closed {world : World Stage} (closed : world.AllClosed) (sql : Text)
    (params : List Value) :
    driverTrace (perform session (.savedQuery sql params) world).events = [] ∧
      ∃ failure, (perform session (.savedQuery sql params) world).outcome = .error failure := by
  have seeks := savedLease_run (.notCallable "NoneType") world
  unfold perform
  cases saved : world.collaborators.saved with
  | none =>
      rw [saved] at seeks
      rw [Action.bind_of_error _ _ world (.notCallable "NoneType") (by rw [seeks]; rfl), seeks]
      exact ⟨rfl, _, rfl⟩
  | some id =>
      rw [saved] at seeks
      obtain ⟨silent, failure, fails⟩ := session.query_of_closed sql params (closed id)
      rw [Action.bind_of_ok _ _ world id (by rw [seeks]; rfl), seeks]
      dsimp only
      rw [Action.bind_of_error _ _ world failure fails]
      exact ⟨silent, failure, rfl⟩

private theorem playAll_perform (commands : List Command) {world : World Stage}
    (closed : world.AllClosed) :
    List.Forall₂ (fun command record => ∃ before : World Stage, before.AllClosed ∧
        record = ⟨(perform session command before).outcome, (perform session command before).events⟩)
      commands (playAll world (commands.map (perform session))) := by
  induction commands generalizing world with
  | nil => exact .nil
  | cons command rest ih =>
      exact .cons ⟨world, closed, rfl⟩ (ih (closed.after (perform_tidy session command)))

/-- The query function that a routine has left behind is of no use in any rehearsal. -/
theorem rehearse_savedQuery {plan : SessionPlan} {records : List (Record Answer)}
    (rehearses : rehearse plan = .ok records) :
    List.Forall₂ (fun command record => ∀ sql params, command = .savedQuery sql params →
      driverTrace record.events = [] ∧ ∃ failure, record.outcome = .error failure)
      plan.commands records := by
  obtain ⟨⟨session, world⟩, opened, plays⟩ := Failure.bind_ok rehearses
  obtain rfl := Except.ok.inj plays
  have closed : world.AllClosed := by
    obtain ⟨settings, _settled, opened⟩ := Failure.bind_ok opened
    cases pool : plan.pool with
    | none =>
        rw [pool] at opened
        cases opened
    | some poolPlan =>
        rw [pool] at opened
        cases opened
        exact fun _id => rfl
  refine (playAll_perform session plan.commands closed).imp ?_
  rintro command record ⟨before, started, rfl⟩ sql params rfl
  exact savedQuery_of_closed session started sql params

/-! ### Scripts for a lease -/

/-- The operation that a command performs; to make a table of a row is none. -/
def LeaseCommand.operation? : LeaseCommand → Option (Lease.Operation Stage)
  | .execute sql params => some (.execute sql params)
  | .begin => some .begin
  | .commit => some .commit
  | .rollback => some .rollback
  | .release plan => some (.release (pool plan))
  | .tabulate _ _ => none

section Lease

variable {driver : Driver Stage} {dialect : Dialect}

private theorem withoutResult_runs (action : Play Unit) (world : World Stage) :
    (withoutResult action world).events =
        ((action >>= fun _done => pure none : Play (Option Value)) world).events ∧
      (withoutResult action world).state =
        ((action >>= fun _done => pure none : Play (Option Value)) world).state := by
  unfold withoutResult
  rw [Action.bind_pure, Action.bind_pure]
  exact ⟨rfl, rfl⟩

private theorem performOnLease_of_operation {command : LeaseCommand}
    {operation : Lease.Operation Stage}
    (performs : command.operation? = some operation) (world : World Stage) :
    (performOnLease driver dialect command world).events =
        (operation.run driver dialect 0 world).events ∧
      (performOnLease driver dialect command world).state =
        (operation.run driver dialect 0 world).state := by
  cases command with
  | execute sql params =>
      cases performs
      change _ = ((Lease.execute driver 0 sql params >>= fun answer => pure (some answer)) world).events ∧
        _ = ((Lease.execute driver 0 sql params >>= fun answer => pure (some answer)) world).state
      unfold performOnLease
      cases outcome : (Lease.execute driver 0 sql params world).outcome with
      | ok answer =>
          rw [Action.bind_of_ok _ _ world answer outcome]
          exact ⟨(List.append_nil _).symm, rfl⟩
      | error failure =>
          rw [Action.bind_of_error _ _ world failure outcome]
          exact ⟨rfl, rfl⟩
  | begin =>
      cases performs
      exact withoutResult_runs (Lease.begin driver dialect 0) world
  | commit =>
      cases performs
      exact withoutResult_runs (Lease.commit driver 0) world
  | rollback =>
      cases performs
      exact withoutResult_runs (Lease.rollback driver 0) world
  | release plan =>
      cases performs
      exact withoutResult_runs (Lease.release (pool plan) driver 0) world
  | tabulate columns row => cases performs

private theorem playAll_performOnLease (commands : List LeaseCommand) (world : World Stage) :
    (playAll world (commands.map (performOnLease driver dialect))).flatMap Record.events =
      (Lease.runAll (fun _stage => driver) dialect 0
        (commands.filterMap LeaseCommand.operation?) world).flatMap Execution.events := by
  induction commands generalizing world with
  | nil => rfl
  | cons command rest ih =>
      rw [List.map_cons, playAll, List.flatMap_cons]
      cases performs : command.operation? with
      | some operation =>
          obtain ⟨events, state⟩ := performOnLease_of_operation performs world
          rw [List.filterMap_cons_some performs, Lease.runAll, List.flatMap_cons, ih, state]
          exact congrArg (· ++ _) events
      | none =>
          rw [List.filterMap_cons_none performs, ih]
          cases command with
          | tabulate columns row => rfl
          | _ => cases performs

/-- However often a script gives a connection back, it is given back by one call at most. -/
theorem rehearseLease_returns (plan : LeasePlan) :
    ∃ records, rehearseLease plan = .ok records ∧
      returnsAmong (records.flatMap Record.events) ≤ 1 := by
  refine ⟨_, rfl, ?_⟩
  rw [playAll_performOnLease]
  exact Lease.returnsAmong_runAll_le _ _ _ _ _

end Lease

/-! ### Scripts for a log of slow statements -/

/-- The entries that were added since the log was cleared, after one more command. -/
def SlowLogCommand.grown (entries : List SlowEntry) : SlowLogCommand → List SlowEntry
  | .add entry => entries ++ [entry]
  | .clear => []
  | _ => entries

private theorem performOnSlowLog_grown (entries : List SlowEntry) (command : SlowLogCommand) :
    (performOnSlowLog (SlowLog.firstOfEachKey entries) command).2 =
      SlowLog.firstOfEachKey (command.grown entries) := by
  cases command with
  | add entry => exact (SlowLog.firstOfEachKey_concat entries entry).symm
  | _ => rfl

/-- Every command is answered by the first entries of the keys that were added since the log
was cleared. -/
theorem rehearseSlowLog_append (before later : List SlowLogCommand) (command : SlowLogCommand)
    (entries : List SlowEntry) :
    ∃ earlier following, earlier.length = before.length ∧
      rehearseSlowLog (SlowLog.firstOfEachKey entries) (before ++ command :: later) =
        earlier ++ (performOnSlowLog (SlowLog.firstOfEachKey
          (before.foldl SlowLogCommand.grown entries)) command).1 :: following := by
  induction before generalizing entries with
  | nil => exact ⟨[], _, rfl, rfl⟩
  | cons first rest ih =>
      obtain ⟨earlier, following, same, answers⟩ := ih (first.grown entries)
      refine ⟨(performOnSlowLog (SlowLog.firstOfEachKey entries) first).1 :: earlier, following,
        congrArg Nat.succ same, ?_⟩
      change _ :: rehearseSlowLog (performOnSlowLog _ first).2 (rest ++ command :: later) = _
      rw [performOnSlowLog_grown, answers]
      rfl

end Rehearsal
end PooledQuery
