/-
Runs under two transforms, side by side.

Two executions that start in worlds with different transforms, and otherwise the same, go
abreast: as far as both of them come, their cursors are given the same statements, and if
both succeed their results agree and their worlds still differ in the transforms only.  The
execution under the former transform may fail first, and the one under the latter may do so
if there is an excuse.  Going abreast passes through every way of composing actions.
-/
import PooledQuery.Proofs.Rows.Visits
import PooledQuery.Proofs.Session.Askings
import PooledQuery.Proofs.Session.Indifference

namespace PooledQuery

variable {σ α β : Type}

/-- Two transforms that are compared, and what excuses a failure under the latter one. -/
structure Comparison where
  former : Transform
  latter : Transform
  excuse : Prop

namespace World

def under (world : World σ) (transform : Transform) : World σ :=
  { world with transform := transform }

private theorem refits_under (transform : Transform) :
    Refits fun world : World σ => world.under transform where
  collaborators := fun _world => rfl
  leases := fun _world => rfl
  sink := fun _world => rfl
  ignoreMarker := fun _world => rfl
  setCollaborators := fun _world _state => rfl
  setLeases := fun _world _leases => rfl

/-- The action fails in every world, and gives no statement to a cursor before. -/
structure GivesUp (action : Action (World σ) α) : Prop where
  fails : ∀ world, ∃ failure, (action world).outcome = .error failure
  silent : ∀ world, givenTrace (action world).events = []

namespace GivesUp

theorem fail (failure : Failure) : GivesUp (Action.fail failure : Action (World σ) α) :=
  ⟨fun _world => ⟨failure, rfl⟩, fun _world => rfl⟩

theorem after {first : Action (World σ) α}
    (silent : ∀ world, givenTrace (first world).events = []) (failure : Failure) :
    GivesUp (first >>= fun _done => (Action.fail failure : Action (World σ) β)) where
  fails := by
    intro world
    rw [Action.bind_fail]
    dsimp only
    cases (first world).outcome with
    | ok done => exact ⟨failure, rfl⟩
    | error other => exact ⟨other, rfl⟩
  silent := by
    intro world
    rw [Action.bind_fail]
    exact silent world

end GivesUp
end World

theorem Action.bind_events (first : Action (World σ) α) (next : α → Action (World σ) β)
    (world : World σ) :
    ∃ later, ((first >>= next) world).events = (first world).events ++ later := by
  cases outcome : (first world).outcome with
  | ok result =>
      rw [bind_of_ok first next world result outcome]
      exact ⟨_, rfl⟩
  | error failure =>
      rw [bind_of_error first next world failure outcome]
      exact ⟨[], (List.append_nil _).symm⟩

namespace Comparison

variable (comparison : Comparison)

/-- Two worlds that are the same but for the transforms that are compared. -/
def Apart (first second : World σ) : Prop :=
  ∃ world : World σ, first = world.under comparison.former ∧ second = world.under comparison.latter

/-- Two outcomes that agree, unless one of them is a failure; the second one needs the
excuse to be one alone. -/
inductive Matches (agree : α → α → Prop) : Except Failure α → Except Failure α → Prop
  | together (result other : α) (agrees : agree result other) :
      Matches agree (.ok result) (.ok other)
  | stops (failure : Failure) (other : Except Failure α) : Matches agree (.error failure) other
  | strays (outcome : Except Failure α) (failure : Failure) (excused : comparison.excuse) :
      Matches agree outcome (.error failure)

/-- Two executions that go abreast. -/
inductive Abreast (agree : α → α → Prop) (first second : Execution (World σ) α) : Prop
  | together (result other : α) (succeeds : first.outcome = .ok result)
      (succeedsToo : second.outcome = .ok other) (agrees : agree result other)
      (apart : comparison.Apart first.state second.state)
      (given : givenTrace first.events = givenTrace second.events)
  | stops (failure : Failure) (fails : first.outcome = .error failure)
      (given : givenTrace first.events <+: givenTrace second.events)
  | strays (failure : Failure) (fails : second.outcome = .error failure)
      (excused : comparison.excuse) (given : givenTrace second.events <+: givenTrace first.events)

def Tracks (agree : α → α → Prop) (action other : Action (World σ) α) : Prop :=
  ∀ first second, comparison.Apart first second →
    comparison.Abreast agree (action first) (other second)

variable {comparison}

theorem Abreast.after {agree : α → α → Prop} {first second : Execution (World σ) α}
    (abreast : comparison.Abreast agree first second) {earlier others : List Event}
    (given : givenTrace earlier = givenTrace others) :
    comparison.Abreast agree ⟨first.outcome, first.state, earlier ++ first.events⟩
      ⟨second.outcome, second.state, others ++ second.events⟩ := by
  have extend {former latter : List Event} (later : givenTrace former <+: givenTrace latter) :
      givenTrace earlier ++ givenTrace former <+: givenTrace earlier ++ givenTrace latter :=
    (List.prefix_append_right_inj _).mpr later
  cases abreast with
  | together result other succeeds succeedsToo agrees apart later =>
      refine .together result other succeeds succeedsToo agrees apart ?_
      rw [givenTrace_append, givenTrace_append, given, later]
  | stops failure fails later =>
      refine .stops failure fails ?_
      rw [givenTrace_append, givenTrace_append, ← given]
      exact extend later
  | strays failure fails excused later =>
      refine .strays failure fails excused ?_
      rw [givenTrace_append, givenTrace_append, ← given]
      exact extend later

namespace Tracks

variable {agree : α → α → Prop} {reached : β → β → Prop}

theorem ofExcept {outcome other : Except Failure α}
    (same : comparison.Matches agree outcome other) :
    comparison.Tracks agree (Action.ofExcept outcome : Action (World σ) α)
      (Action.ofExcept other) := by
  intro first second apart
  cases same with
  | together result other agrees => exact .together result other rfl rfl agrees apart rfl
  | stops failure other => exact .stops failure rfl (List.prefix_refl _)
  | strays outcome failure excused => exact .strays failure rfl excused (List.prefix_refl _)

theorem pure {result other : α} (agrees : agree result other) :
    comparison.Tracks agree (Pure.pure result : Action (World σ) α) (Pure.pure other) :=
  ofExcept (.together result other agrees)

theorem stopped (failure : Failure) (other : Action (World σ) α) :
    comparison.Tracks agree (Action.fail failure) other :=
  fun _first _second _apart => .stops failure rfl (List.nil_prefix)

private theorem strayed (excused : comparison.excuse) (action : Action (World σ) α)
    (failure : Failure) :
    comparison.Tracks agree action (Action.fail failure) :=
  fun _first _second _apart => .strays failure rfl excused (List.nil_prefix)

theorem read : comparison.Tracks comparison.Apart
    (Action.read : Action (World σ) (World σ)) Action.read :=
  fun first second apart => .together first second rfl rfl apart apart rfl

theorem emitAll {events others : List Event} (silent : givenTrace events = [])
    (silentToo : givenTrace others = []) :
    comparison.Tracks (fun _done _other => True) (Action.emitAll events : Action (World σ) Unit)
      (Action.emitAll others) :=
  fun _first _second apart =>
    .together () () rfl rfl trivial apart (silent.trans silentToo.symm)

theorem of_indifferent {allowed : Event → Prop} {action : Action (World σ) α}
    (indifferent : ∀ transform,
      Action.Indifferent (fun world => world.under transform) allowed action)
    (agrees : ∀ world result, (action world).outcome = .ok result → agree result result) :
    comparison.Tracks agree action action := by
  rintro first second ⟨world, rfl, rfl⟩
  have former := (indifferent comparison.former).same world
  have latter := (indifferent comparison.latter).same world
  rw [former, latter]
  cases outcome : (action world).outcome with
  | ok result =>
      exact .together result result rfl rfl (agrees world result outcome) ⟨_, rfl, rfl⟩ rfl
  | error failure => exact .stops failure rfl (List.prefix_refl _)

theorem of_refits {action : Action (World σ) α}
    (indifferent : ∀ change, World.Refits change →
      Action.Indifferent change (fun _event => True) action)
    (agrees : ∀ world result, (action world).outcome = .ok result → agree result result) :
    comparison.Tracks agree action action :=
  of_indifferent (fun transform => indifferent _ (World.refits_under transform)) agrees

theorem bind {action other : Action (World σ) α} {next nextOther : α → Action (World σ) β}
    (tracks : comparison.Tracks agree action other)
    (follows : ∀ result other, agree result other →
      comparison.Tracks reached (next result) (nextOther other)) :
    comparison.Tracks reached (action >>= next) (other >>= nextOther) := by
  intro first second apart
  cases tracks first second apart with
  | together result last succeeds succeedsToo agrees reachedApart given =>
      rw [Action.bind_of_ok action next first result succeeds,
        Action.bind_of_ok other nextOther second last succeedsToo]
      exact (follows result last agrees _ _ reachedApart).after given
  | stops failure fails given =>
      obtain ⟨later, events⟩ := Action.bind_events other nextOther second
      refine .stops failure (by rw [Action.bind_of_error action next first failure fails]) ?_
      rw [Action.bind_of_error action next first failure fails, events, givenTrace_append]
      exact given.trans (List.prefix_append _ _)
  | strays failure fails excused given =>
      obtain ⟨later, events⟩ := Action.bind_events action next first
      refine .strays failure (by rw [Action.bind_of_error other nextOther second failure fails])
        excused ?_
      rw [Action.bind_of_error other nextOther second failure fails, events, givenTrace_append]
      exact given.trans (List.prefix_append _ _)

theorem attemptThen {action other : Action (World σ) α}
    {next nextOther : Except Failure α → Action (World σ) β}
    (tracks : comparison.Tracks agree action other)
    (givesUp : ∀ failure, World.GivesUp (next (.error failure)))
    (givesUpToo : ∀ failure, World.GivesUp (nextOther (.error failure)))
    (follows : ∀ result other, agree result other →
      comparison.Tracks reached (next (.ok result)) (nextOther (.ok other))) :
    comparison.Tracks reached (Action.attempt action >>= next)
      (Action.attempt other >>= nextOther) := by
  intro first second apart
  rw [Action.attempt_bind, Action.attempt_bind]
  cases tracks first second apart with
  | together result last succeeds succeedsToo agrees reachedApart given =>
      rw [succeeds, succeedsToo]
      exact (follows result last agrees _ _ reachedApart).after given
  | stops failure fails given =>
      rw [fails]
      obtain ⟨last, ends⟩ := (givesUp failure).fails (action first).state
      refine .stops last ends ?_
      dsimp only
      rw [givenTrace_append, givenTrace_append, (givesUp failure).silent, List.append_nil]
      exact given.trans (List.prefix_append _ _)
  | strays failure fails excused given =>
      rw [fails]
      obtain ⟨last, ends⟩ := (givesUpToo failure).fails (other second).state
      refine .strays last ends excused ?_
      dsimp only
      rw [givenTrace_append, givenTrace_append, (givesUpToo failure).silent, List.append_nil]
      exact given.trans (List.prefix_append _ _)

theorem thenAlways {action other : Action (World σ) α} {cleanup : Action (World σ) Unit}
    (tracks : comparison.Tracks agree action other)
    (cleans : comparison.Tracks (fun _done _other => True) cleanup cleanup)
    (silent : ∀ world, givenTrace (cleanup world).events = []) :
    comparison.Tracks agree (Action.thenAlways action cleanup)
      (Action.thenAlways other cleanup) := by
  have givesUp (failure : Failure) : World.GivesUp (cleanup >>= fun _cleaned =>
      (Action.ofExcept (.error failure) : Action (World σ) α)) :=
    World.GivesUp.after silent failure
  refine tracks.attemptThen givesUp givesUp fun result last agrees => ?_
  exact cleans.bind fun _cleaned _other _true => pure agrees

end Tracks

theorem Matches.self (outcome : Except Failure α) :
    comparison.Matches (fun result other => other = result) outcome outcome := by
  cases outcome with
  | ok result => exact .together result result rfl
  | error failure => exact .stops failure _

theorem Matches.map {agree : α → α → Prop} {reached : β → β → Prop}
    {outcome other : Except Failure α} (same : comparison.Matches agree outcome other)
    {wrap wrapOther : α → β}
    (wraps : ∀ result other, agree result other → reached (wrap result) (wrapOther other)) :
    comparison.Matches reached (outcome.map wrap) (other.map wrapOther) := by
  cases same with
  | together result other agrees => exact .together _ _ (wraps result other agrees)
  | stops failure other => exact .stops failure _
  | strays outcome failure excused => exact .strays _ failure excused

end Comparison

/-! ### Statements -/

/-- Outcomes of one statement under two transforms: the same change, or rows that agree. -/
inductive Outcome.Corresponds (agree : List Json → List Json → Prop) : Outcome → Outcome → Prop
  | rows (items others : List Json) (agrees : agree items others) :
      Corresponds agree (.rows items) (.rows others)
  | change (summary : ChangeSummary) : Corresponds agree (.change summary) (.change summary)

/-- Whatever tables a driver answers, what normalizing them comes to matches. -/
def Comparison.Normalizes (comparison : Comparison) (agree : List Json → List Json → Prop) :
    Prop :=
  ∀ tables : List Entries, comparison.Matches agree
    (Fields.normalized comparison.former (tables.map (Value.table false))).outcome.1
    (Fields.normalized comparison.latter (tables.map (Value.table false))).outcome.1

variable {comparison : Comparison} {agree : List Json → List Json → Prop}

private theorem Outcome.ofResponse_matches (normalizes : comparison.Normalizes agree)
    {response : Value}
    (answer : Lease.IsAnswer response) :
    comparison.Matches (Outcome.Corresponds agree)
      (Outcome.ofResponse comparison.former response).outcome.1
      (Outcome.ofResponse comparison.latter response).outcome.1 := by
  cases answer with
  | rows tables =>
      unfold Outcome.ofResponse
      dsimp only
      rw [Visit.outcome_returning, Visit.outcome_returning]
      exact (normalizes tables).map fun items others agrees => .rows items others agrees
  | status entries =>
      unfold Outcome.ofResponse
      dsimp only
      cases ChangeSummary.ofResponse (.table false entries) with
      | ok summary => exact .together _ _ (.change summary)
      | error failure => exact .stops failure _

namespace Session

variable (session : Session σ) (sql : Text) (params : List Value)

private theorem log_tracks (channel : LogChannel) (severity : Severity) (line other : LogLine)
    (cause otherCause : Option Failure) :
    comparison.Tracks (fun _done _other => True)
      (session.log channel severity line cause)
      (session.log channel severity other otherCause) := by
  unfold Session.log
  cases severity.reaches session.logFloor with
  | true => exact Comparison.Tracks.emitAll rfl rfl
  | false => exact Comparison.Tracks.pure trivial

theorem outcomeOf_run (response : Value) (world : World σ) :
    ∃ calls, givenTrace calls = [] ∧ World.outcomeOf response world =
      ⟨(Outcome.ofResponse world.transform response).outcome.1, world, calls⟩ := by
  refine ⟨(World.outcomeOf response world).events,
    givenTrace_of_inward ((outcomeOf_within response).events world), ?_⟩
  unfold World.outcomeOf
  rw [Action.read_bind]
  dsimp only
  cases world.transform.observed <;> rfl

private theorem outcomeOf_tracks (normalizes : comparison.Normalizes agree) {response : Value}
    (answer : Lease.IsAnswer response) :
    comparison.Tracks (Outcome.Corresponds agree)
      (World.outcomeOf response : Action (World σ) Outcome) (World.outcomeOf response) := by
  intro first second apart
  have same := Outcome.ofResponse_matches normalizes answer
  obtain ⟨calls, silent, ran⟩ := outcomeOf_run response first
  obtain ⟨others, silentToo, ranToo⟩ := outcomeOf_run response second
  obtain ⟨world, rfl, rfl⟩ := apart
  have abreast := (Comparison.Tracks.ofExcept same _ _ ⟨world, rfl, rfl⟩).after
    (silent.trans silentToo.symm)
  simp only [Action.ofExcept, List.append_nil] at abreast
  rw [ran, ranToo]
  exact abreast

private theorem echo_tracks {outcome other : Outcome}
    (corresponds : Outcome.Corresponds agree outcome other) :
    comparison.Tracks (fun _done _other => True) (session.echo sql params outcome)
      (session.echo sql params other) := by
  have shown (level : Echo) (text : Text) : comparison.Matches (fun _line _other => True)
      (echoLine level text outcome) (echoLine level text other) := by
    cases corresponds with
    | rows items others agrees => cases level <;> exact .together _ _ trivial
    | change summary =>
        cases echoLine level text (.change summary) with
        | ok line => exact .together line line trivial
        | error failure => exact .stops failure _
  have statement : comparison.Tracks (fun text other => text = other)
      (session.rendered sql params) (session.rendered sql params) := by
    unfold Session.rendered
    cases Template.render (some session.dialect) sql params with
    | ok text => exact Comparison.Tracks.ofExcept (.together text text rfl)
    | error failure => exact Comparison.Tracks.ofExcept (.stops failure _)
  unfold Session.echo
  refine Comparison.Tracks.read.bind fun first second apart => ?_
  obtain ⟨world, rfl, rfl⟩ := apart
  dsimp only [World.under]
  split
  · refine statement.bind fun text same equal => ?_
    cases equal
    exact (Comparison.Tracks.ofExcept (shown _ text)).bind
      fun line otherLine _shown => session.log_tracks _ _ line otherLine _ _
  · exact Comparison.Tracks.pure trivial

private theorem recordSlow_indifferent (elapsed : Binary64) (transform : Transform) :
    Action.Indifferent (fun world : World σ => world.under transform) (fun _event => True)
      (session.recordSlow sql params elapsed) := by
  unfold Session.recordSlow
  refine Action.Indifferent.readThen (fun _world => rfl) fun world => ?_
  refine (Action.Indifferent.ofExcept _).bind fun slow => ?_
  split
  · refine (Action.Indifferent.ofExcept _).bind fun key => ?_
    refine Action.Indifferent.readThen (fun _world => rfl) fun world => ?_
    obtain ⟨isNew, slowLog⟩ := world.slowLog.add ⟨key, sql, params, .float elapsed⟩
    have updates : Action.Indifferent (fun world : World σ => world.under transform)
        (fun _event => True) (Action.update fun world => { world with slowLog := slowLog }) :=
      Action.Indifferent.update fun _world => rfl
    refine updates.bind fun _updated => ?_
    split
    · refine (Action.Indifferent.ofExcept _).bind fun statement => ?_
      unfold Session.log
      split
      · exact Action.Indifferent.emit trivial
      · exact Action.Indifferent.pure ()
    · exact Action.Indifferent.pure ()
  · exact Action.Indifferent.pure ()

private theorem complete_tracks (normalizes : comparison.Normalizes agree) {response : Value}
    (answer : Lease.IsAnswer response) (elapsed : Binary64) :
    comparison.Tracks (Outcome.Corresponds agree)
      (session.complete sql params response elapsed)
      (session.complete sql params response elapsed) := by
  unfold Session.complete
  refine (outcomeOf_tracks normalizes answer).bind fun outcome other corresponds => ?_
  refine (session.echo_tracks sql params corresponds).bind fun _echoed _other _true => ?_
  have records : comparison.Tracks (fun _done _other => True)
      (session.recordSlow sql params elapsed) (session.recordSlow sql params elapsed) :=
    Comparison.Tracks.of_indifferent (session.recordSlow_indifferent sql params elapsed)
      fun _world _result _succeeds => trivial
  exact records.bind fun _recorded _other _true => Comparison.Tracks.pure corresponds

/-- A statement does the same to its cursor under both transforms. -/
theorem query_tracks (normalizes : comparison.Normalizes agree) (id : LeaseId) :
    comparison.Tracks (Outcome.Corresponds agree) (session.query id sql params)
      (session.query id sql params) := by
  have reads : comparison.Tracks (fun time other => time = other) session.now session.now :=
    Comparison.Tracks.of_refits (fun _change refits => session.now_indifferent refits)
      fun _world _time _succeeds => rfl
  have executes : comparison.Tracks
      (fun response other => response = other ∧ Lease.IsAnswer response)
      (Lease.execute session.driver id sql params) (Lease.execute session.driver id sql params) :=
    Comparison.Tracks.of_refits
      (fun _change refits => Lease.execute_indifferent refits (fun _event _outward => trivial)
        session.driver id sql params)
      fun world response succeeds =>
        ⟨rfl, Lease.execute_answers session.driver id sql params world response succeeds⟩
  unfold Session.query
  refine reads.bind fun started same equal => ?_
  cases equal
  have givesUp (failure : Failure) : World.GivesUp (σ := σ) (α := Outcome) (do
      if failure.isOrdinary then
        session.reportFailure id sql params
      Action.fail failure) := by
    cases failure.isOrdinary with
    | false => exact World.GivesUp.fail failure
    | true =>
        exact World.GivesUp.after (fun world => givenTrace_of_callsAtMost
          ((session.reportFailure_within id sql params).events world) List.not_mem_nil) failure
  refine executes.attemptThen givesUp givesUp fun response other agrees => ?_
  obtain ⟨rfl, answer⟩ := agrees
  refine reads.bind fun ended other equal => ?_
  cases equal
  exact session.complete_tracks sql params normalizes answer _

end Session

/-! ### Bodies -/

namespace Body

/-- Two bodies that ask the same statements as long as the outcomes correspond, and end with
results that agree.  Both of them heed failures. -/
inductive Abreast (comparison : Comparison) (agree : List Json → List Json → Prop)
    (reached : α → α → Prop) : Body α → Body α → Prop
  | finish (result other : α) (agrees : reached result other) :
      Abreast comparison agree reached (.finish result) (.finish other)
  | stops (failure : Failure) (other : Body α) :
      Abreast comparison agree reached (.stop failure) other
  | strays (body : Body α) (failure : Failure) (excused : comparison.excuse) :
      Abreast comparison agree reached body (.stop failure)
  | query (sql : Text) (params : List Value) (next other : Except Failure Outcome → Body α)
      (heeds : ∀ failure, next (.error failure) = .stop failure)
      (heedsToo : ∀ failure, other (.error failure) = .stop failure)
      (follows : ∀ outcome outcomeOther, Outcome.Corresponds agree outcome outcomeOther →
        Abreast comparison agree reached (next (.ok outcome)) (other (.ok outcomeOther))) :
      Abreast comparison agree reached (.query sql params next) (.query sql params other)

namespace Abreast

variable {reached : α → α → Prop}

theorem ofExcept_bind {between : β → β → Prop} {outcome other : Except Failure β}
    (same : comparison.Matches between outcome other) {next nextOther : β → Body α}
    (follows : ∀ result last, between result last →
      Abreast comparison agree reached (next result) (nextOther last)) :
    Abreast comparison agree reached (Body.ofExcept outcome >>= next)
      (Body.ofExcept other >>= nextOther) := by
  cases same with
  | together result last agrees => exact follows result last agrees
  | stops failure other => exact .stops failure _
  | strays outcome failure excused => exact .strays _ failure excused

theorem ask_bind (sql : Text) (params : List Value) {next nextOther : Outcome → Body α}
    (follows : ∀ outcome other, Outcome.Corresponds agree outcome other →
      Abreast comparison agree reached (next outcome) (nextOther other)) :
    Abreast comparison agree reached (Body.ask sql params >>= next)
      (Body.ask sql params >>= nextOther) :=
  .query sql params _ _ (fun _failure => rfl) (fun _failure => rfl) follows

end Abreast
end Body

namespace Session

variable (session : Session σ) {reached : α → α → Prop}

private theorem perform_tracks (normalizes : comparison.Normalizes agree) (id : LeaseId)
    {body other : Body α} (abreast : body.Abreast comparison agree reached other) :
    comparison.Tracks reached (session.perform id body) (session.perform id other) := by
  induction abreast with
  | finish result other agrees => exact Comparison.Tracks.pure agrees
  | stops failure other => exact Comparison.Tracks.stopped failure _
  | strays body failure excused => exact Comparison.Tracks.strayed excused _ failure
  | query sql params next other heeds heedsToo follows ih =>
      unfold perform
      refine (session.query_tracks sql params normalizes id).attemptThen (fun failure => ?_)
        (fun failure => ?_) ih
      · rw [heeds]
        exact World.GivesUp.fail failure
      · rw [heedsToo]
        exact World.GivesUp.fail failure

private theorem inTransaction_tracks (id : LeaseId) {action other : Action (World σ) α}
    (tracks : comparison.Tracks reached action other) :
    comparison.Tracks reached (session.inTransaction id action)
      (session.inTransaction id other) := by
  have begins : comparison.Tracks (fun _done _other => True)
      (Lease.begin session.driver session.dialect id)
      (Lease.begin session.driver session.dialect id) :=
    Comparison.Tracks.of_refits
      (fun _change refits => Lease.begin_indifferent refits (fun _event _outward => trivial)
        session.driver session.dialect id)
      fun _world _result _succeeds => trivial
  have commits : comparison.Tracks (fun _done _other => True)
      (Lease.commit session.driver id) (Lease.commit session.driver id) :=
    Comparison.Tracks.of_refits
      (fun _change refits => Lease.commit_indifferent refits (fun _event _outward => trivial)
        session.driver id)
      fun _world _result _succeeds => trivial
  have givesUp (failure : Failure) : World.GivesUp (σ := σ) (α := α) (do
      session.abandon id
      Action.fail failure) :=
    World.GivesUp.after (fun world => givenTrace_of_callsAtMost
      ((session.abandon_within id).events world) (by decide)) failure
  have encloses : comparison.Tracks reached (session.enclosed id action)
      (session.enclosed id other) := by
    refine begins.bind fun _begun _other _true => tracks.bind fun result last agrees => ?_
    exact commits.bind fun _committed _other _true => Comparison.Tracks.pure agrees
  exact encloses.attemptThen givesUp givesUp fun result last agrees =>
    Comparison.Tracks.pure agrees

/-- Runs of bodies that go abreast go abreast, within a transaction or not. -/
theorem runBody_tracks (normalizes : comparison.Normalizes agree) (transactional : Bool)
    {body other : Body α} (abreast : body.Abreast comparison agree reached other) :
    comparison.Tracks reached (session.runBody transactional body)
      (session.runBody transactional other) := by
  have asks : comparison.Tracks (fun _done _other => True) session.acquire session.acquire :=
    Comparison.Tracks.of_refits
      (fun _change refits => session.acquire_indifferent refits fun _event _outward => trivial)
      fun _world _result _succeeds => trivial
  have adds : comparison.Tracks (fun id other => id = other)
      (World.addLease transactional : Action (World σ) LeaseId)
      (World.addLease transactional) :=
    Comparison.Tracks.of_refits
      (fun _change refits => World.addLease_indifferent refits transactional)
      fun _world _id _succeeds => rfl
  unfold Session.runBody Session.run
  refine asks.bind fun _asked _other _true => adds.bind fun id same equal => ?_
  cases equal
  have returns : comparison.Tracks (fun _done _other => True)
      (Lease.release session.pool session.driver id)
      (Lease.release session.pool session.driver id) :=
    Comparison.Tracks.of_refits
      (fun _change refits => Lease.release_indifferent refits (fun _event _outward => trivial)
        session.pool session.driver id)
      fun _world _result _succeeds => trivial
  refine Comparison.Tracks.thenAlways ?_ returns fun world => givenTrace_of_callsOneOf
    ((Lease.release_within session.pool session.driver id).events world) (by decide)
  have performs := session.perform_tracks normalizes id abreast
  cases transactional with
  | false => exact performs
  | true => exact session.inTransaction_tracks id performs

end Session
end PooledQuery
