/-
The statements of a body, with the worlds in which they are asked.

A body asks its statements one after the other, each in the world that the one before it has
left.  The calls of a body are those of executing its statements.  A body that heeds failures
ends with the first of them.
-/
import PooledQuery.Proofs.Session.Asked
import PooledQuery.Proofs.Session.Conversation
import PooledQuery.Proofs.Session.Discipline

namespace PooledQuery

variable {σ α β : Type}

namespace Body

/-- Whether the failure of any of its statements is the end of a body. -/
def HeedsFailures : Body α → Prop
  | .finish _ => True
  | .stop _ => True
  | .query _ _ next => (∀ failure, next (.error failure) = .stop failure) ∧
      ∀ outcome, (next (.ok outcome)).HeedsFailures

theorem heedsFailures_ofExcept_bind (outcome : Except Failure β) {next : β → Body α}
    (follow : ∀ result, (next result).HeedsFailures) :
    (Body.ofExcept outcome >>= next).HeedsFailures := by
  cases outcome with
  | ok result => exact follow result
  | error failure => exact trivial

theorem heedsFailures_ask_bind (sql : Text) (params : List Value) {next : Outcome → Body α}
    (follow : ∀ outcome, (next outcome).HeedsFailures) :
    (Body.ask sql params >>= next).HeedsFailures :=
  ⟨fun _failure => rfl, follow⟩

end Body

namespace Session

variable (session : Session σ)

def attemptOf (asking : Asking σ) : Attempt σ :=
  session.attempt asking.id asking.sql asking.params asking.world

def executing (askings : List (Asking σ)) : List Event :=
  executions (askings.map session.attemptOf)

/-- The statements that a body asks of a lease. -/
def askings (id : LeaseId) : Body α → World σ → List (Asking σ)
  | .finish _, _ => []
  | .stop _, _ => []
  | .query sql params next, world =>
      let asking : Asking σ := ⟨id, sql, params, world⟩
      asking :: askings id (next (session.asked asking).outcome) (session.asked asking).state

/-- The statements that a run asks of its lease, none if its body is not entered. -/
def runAskings (transactional : Bool) (body : Body α) (world : World σ) : List (Asking σ) :=
  if (session.acquire world).outcome.isOk &&
      (!transactional || (session.begun world).outcome.isOk) then
    session.askings (nextLease world) body (session.entered transactional world)
  else []

section Bodies

variable (id : LeaseId) (body : Body α) (world : World σ)

theorem course_eq_map :
    session.course id body world = (session.askings id body world).map session.attemptOf := by
  induction body generalizing world with
  | finish result => rfl
  | stop failure => rfl
  | query sql params next ih => exact congrArg (List.cons _) (ih _ _)

theorem runCourse_eq_map (transactional : Bool) :
    session.runCourse transactional body world =
      (session.runAskings transactional body world).map session.attemptOf := by
  unfold runCourse runAskings
  split
  · exact session.course_eq_map _ body _
  · rfl

theorem bodyHistory_eq_map :
    session.bodyHistory id body world = (session.askings id body world).map .asked := by
  induction body generalizing world with
  | finish result => rfl
  | stop failure => rfl
  | query sql params next ih => exact congrArg (List.cons _) (ih _ _)

theorem askings_ofExcept_bind (outcome : Except Failure β) (next : β → Body α) :
    session.askings id (Body.ofExcept outcome >>= next) world =
      match outcome with
      | .ok result => session.askings id (next result) world
      | .error _ => [] := by
  cases outcome <;> rfl

theorem askings_ask_bind (sql : Text) (params : List Value) (next : Outcome → Body α) :
    session.askings id (Body.ask sql params >>= next) world =
      let asking : Asking σ := ⟨id, sql, params, world⟩
      asking :: match (session.asked asking).outcome with
        | .ok outcome => session.askings id (next outcome) (session.asked asking).state
        | .error _ => [] := by
  change _ :: session.askings id
    ((Body.ofExcept (session.asked ⟨id, sql, params, world⟩).outcome).andThen next) _ = _
  dsimp only
  cases (session.asked ⟨id, sql, params, world⟩).outcome <;> rfl

theorem askings_ofExcept_bind_of_silent (outcome : Except Failure β) {next : β → Body α}
    (silent : ∀ result, session.askings id (next result) world = []) :
    session.askings id (Body.ofExcept outcome >>= next) world = [] := by
  rw [askings_ofExcept_bind]
  cases outcome with
  | ok result => exact silent result
  | error failure => rfl

theorem askings_ask_bind_of_silent (sql : Text) (params : List Value) {next : Outcome → Body α}
    (silent : ∀ outcome after, session.askings id (next outcome) after = []) :
    session.askings id (Body.ask sql params >>= next) world = [⟨id, sql, params, world⟩] := by
  rw [askings_ask_bind]
  dsimp only
  split
  · rw [silent]
  · rfl

theorem driverTrace_perform :
    driverTrace (session.perform id body world).events =
      driverTrace (session.executing (session.askings id body world)) := by
  induction body generalizing world with
  | finish result => rfl
  | stop failure => rfl
  | query sql params next ih =>
      obtain ⟨following, called, silent⟩ := session.query_events id sql params world
      rw [session.perform_query]
      dsimp only
      rw [driverTrace_append, called, driverTrace_append, driverTrace_of_callsAtMost_nil silent,
        List.append_nil, ih]
      exact driverTrace_append.symm

/-- A body that heeds failures fails as its statement does. -/
theorem perform_of_heeded (heeds : body.HeedsFailures) {asking : Asking σ} {failure : Failure}
    (member : asking ∈ session.askings id body world)
    (failed : (session.asked asking).outcome = .error failure) :
    (session.perform id body world).outcome = .error failure := by
  induction body generalizing world with
  | finish result => cases member
  | stop other => cases member
  | query sql params next ih =>
      obtain ⟨ends, follow⟩ := heeds
      rw [session.perform_query]
      dsimp only
      rcases List.mem_cons.mp member with rfl | later
      · change (session.query id sql params world).outcome = _ at failed
        rw [failed, ends]
        rfl
      · change asking ∈ session.askings id (next (session.query id sql params world).outcome) _
          at later
        cases passed : (session.query id sql params world).outcome with
        | ok outcome =>
            rw [passed] at later
            exact ih _ _ (follow outcome) later
        | error other =>
            -- The body has ended, so there is no later statement.
            rw [passed, ends] at later
            cases later

end Bodies

/-! ### Runs -/

theorem runAskings_of_unentered (transactional : Bool) (body : Body α) (world : World σ)
    (unentered : ((session.acquire world).outcome.isOk &&
      (!transactional || (session.begun world).outcome.isOk)) = false) :
    session.runAskings transactional body world = [] := by
  unfold runAskings
  rw [unentered, if_neg Bool.false_ne_true]

theorem entered_of_mem_runAskings {session : Session σ} {body : Body α} {world : World σ}
    {asking : Asking σ} (member : asking ∈ session.runAskings true body world) :
    (session.acquire world).outcome = .ok () ∧ (session.begun world).outcome = .ok () := by
  unfold runAskings at member
  cases acquired : (session.acquire world).outcome with
  | error failure =>
      rw [acquired] at member
      cases member
  | ok done =>
      cases begins : (session.begun world).outcome with
      | error failure =>
          rw [acquired, begins] at member
          cases member
      | ok begun => exact ⟨rfl, rfl⟩

section Runs

variable {session} {body : Body α} {world : World σ}
  (acquired : (session.acquire world).outcome = .ok ())

include acquired

theorem runAskings_of_plain :
    session.runAskings false body world =
      session.askings (nextLease world) body (session.entered false world) := by
  unfold runAskings
  rw [acquired]
  rfl

theorem runAskings_of_begun (begins : (session.begun world).outcome = .ok ()) :
    session.runAskings true body world =
      session.askings (nextLease world) body (session.entered true world) := by
  unfold runAskings
  rw [acquired, begins]
  rfl

theorem runTrace_of_plain :
    session.runTrace false body world =
      .acquire :: driverTrace (session.executing (session.runAskings false body world)) ++
        session.returnCalls := by
  rw [session.runTrace_of_acquired false body world acquired, runAskings_of_plain acquired,
    ← session.driverTrace_perform]
  rfl

theorem runTrace_of_not_begun (failed : (session.begun world).outcome.isOk = false) :
    session.runTrace true body world =
      .acquire :: (driverTrace (session.begun world).events ++ [.rollback]) ++
        session.returnCalls := by
  rw [session.runTrace_of_acquired true body world acquired,
    session.driverTrace_work_of_not_begun body world failed]

/-- In a transaction that was begun the statements stand before the calls that end it. -/
theorem runTrace_of_begun (begins : (session.begun world).outcome = .ok ()) :
    session.runTrace true body world =
      .acquire :: (driverTrace (session.begun world).events ++
        driverTrace (session.executing (session.runAskings true body world)) ++
        session.closingCalls body world) ++ session.returnCalls := by
  rw [session.runTrace_of_acquired true body world acquired,
    session.driverTrace_work_of_begun body world (by rw [begins]; rfl),
    runAskings_of_begun acquired begins, ← session.driverTrace_perform]
  rfl

theorem runBody_of_not_completed (stops : session.completes body world = false) :
    ∃ failure, (session.runBody true body world).outcome = .error failure := by
  rw [session.completes_eq body world] at stops
  have fails : ∃ failure, (session.work true body world).outcome = .error failure := by
    cases outcome : (session.transacted body world).outcome with
    | ok result =>
        rw [outcome] at stops
        cases stops
    | error failure =>
        rw [session.work_of_failed body world failure outcome]
        dsimp only
        cases (session.abandon (nextLease world) (session.transacted body world).state).outcome with
        | ok done => exact ⟨failure, rfl⟩
        | error other => exact ⟨other, rfl⟩
  obtain ⟨failure, fails⟩ := fails
  unfold Session.runBody
  rw [session.run_stages true _ world acquired]
  dsimp only
  change ∃ failure, (Except.bind _ fun _returned => (session.work true body world).outcome) = _
  rw [fails]
  cases (session.returned true (fun id => session.perform id body) world).outcome with
  | ok done => exact ⟨failure, rfl⟩
  | error other => exact ⟨other, rfl⟩

section Heeded

variable (begins : (session.begun world).outcome = .ok ()) (heeds : body.HeedsFailures)
  {asking : Asking σ} {failure : Failure} (member : asking ∈ session.runAskings true body world)
  (failed : (session.asked asking).outcome = .error failure)

include begins heeds member failed

theorem worked_of_heeded : (session.worked true body world).outcome = .error failure := by
  rw [runAskings_of_begun acquired begins] at member
  exact session.perform_of_heeded _ body _ heeds member failed

theorem completes_of_heeded : session.completes body world = false := by
  unfold completes
  rw [begins, worked_of_heeded acquired begins heeds member failed]
  rfl

/-- A transaction with a failed statement that its body heeds is rolled back. -/
theorem closingCalls_of_heeded : session.closingCalls body world = [.rollback] := by
  unfold closingCalls
  rw [completes_of_heeded acquired begins heeds member failed,
    worked_of_heeded acquired begins heeds member failed]
  rfl

end Heeded
end Runs
end Session
end PooledQuery
