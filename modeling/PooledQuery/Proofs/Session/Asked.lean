/-
The statements that a run gives to its cursors.

Executing a statement gives it to one cursor at most, and nothing else that a run does
gives statements to cursors.  So these are the statements of the run's course, in order,
without those that do not get as far as a cursor.
-/
import PooledQuery.Proofs.Session.CursorCourse
import PooledQuery.Proofs.Session.Stages
import PooledQuery.Session.Select

namespace PooledQuery

variable {σ α β : Type}

/-- A statement as a cursor gets it: without parameters if there are none. -/
def GivenStatement.of (sql : Text) (params : List Value) : GivenStatement :=
  (sql, if params.isEmpty then none else some params)

/-- The statement of an attempt as a cursor gets it. -/
def Attempt.given (attempt : Attempt σ) : GivenStatement :=
  GivenStatement.of attempt.sql attempt.params

theorem givenTrace_of_callsAtMost {events : List Event} {calls : List DriverCall}
    (among : ∀ event ∈ events, event.CallsAtMost calls) (others : .execute ∉ calls) :
    givenTrace events = [] :=
  givenTrace_of_calls fun event member executed => others (among event member .execute executed)

theorem givenTrace_of_callsOneOf {events : List Event} {calls : List DriverCall}
    (one : ∀ event ∈ events, event.CallsOneOf calls) (others : .execute ∉ calls) :
    givenTrace events = [] :=
  givenTrace_of_callsAtMost (fun event member => (one event member).callsAtMost) others

theorem givenTrace_of_inward {events : List Event} (inward : ∀ event ∈ events, event.IsInward) :
    givenTrace events = [] := by
  have silent : ∀ event ∈ events, event.CallsAtMost [] :=
    fun event member => (inward event member).callsAtMost
  exact givenTrace_of_callsAtMost silent List.not_mem_nil

private theorem Lease.givenTrace_execute (driver : Driver σ) (id : LeaseId) (sql : Text)
    (params : List Value) (world : World σ) :
    List.Sublist (givenTrace (Lease.execute driver id sql params world).events)
      [GivenStatement.of sql params] := by
  rcases Lease.execute_events driver id sql params world with none | given
  · rw [none]
    exact List.nil_sublist _
  · have closes : givenTrace (driver.closeCursor.calls .close) = [] := by
      rcases Hook.calls_cases .close driver.closeCursor with called | uncalled
      · rw [called]
        rfl
      · rw [uncalled]
        rfl
    rw [given]
    exact List.Sublist.cons_cons _ (List.sublist_nil.mpr closes)

namespace Session

variable (session : Session σ) (id : LeaseId)

theorem givenTrace_executions (course : List (Attempt σ)) :
    givenTrace (executions course) =
      course.flatMap fun attempt => givenTrace attempt.execution.events := by
  unfold givenTrace executions
  rw [List.filterMap_flatMap]

theorem givenTrace_perform (body : Body α) (world : World σ) :
    givenTrace (session.perform id body world).events =
      givenTrace (executions (session.course id body world)) := by
  induction body generalizing world with
  | finish result => rfl
  | stop failure => rfl
  | query sql params next ih =>
      obtain ⟨following, called, silent⟩ := session.query_events id sql params world
      have noMore := givenTrace_of_callsAtMost silent List.not_mem_nil
      rw [session.perform_query]
      dsimp only
      rw [givenTrace_append, called, givenTrace_append, noMore, List.append_nil, ih]
      exact givenTrace_append.symm

private theorem givenTrace_course (body : Body α) (world : World σ) :
    List.Sublist (givenTrace (executions (session.course id body world)))
      ((session.course id body world).map Attempt.given) := by
  induction body generalizing world with
  | finish result => exact List.Sublist.refl []
  | stop failure => exact List.Sublist.refl []
  | query sql params next ih =>
      unfold course
      rw [givenTrace_executions, List.flatMap_cons, ← givenTrace_executions, List.map_cons]
      exact (Lease.givenTrace_execute session.driver id sql params world).append (ih _ _)

/-! ### Runs -/

variable (body : Body α) (world : World σ)

private theorem givenTrace_returnEvents (pool : Pool σ) (driver : Driver σ) :
    givenTrace (Lease.returnEvents pool driver) = [] := by
  rcases Lease.returnEvents_cases pool driver with back | back | back <;> rw [back] <;> rfl

private theorem givenTrace_begun : givenTrace (session.begun world).events = [] :=
  givenTrace_of_callsOneOf
    ((Lease.begin_within session.driver session.dialect (nextLease world)).events
      (session.borrowed true world)) (by decide)

private theorem givenTrace_transacted (acquired : (session.acquire world).outcome = .ok ()) :
    givenTrace (session.transacted body world).events =
      givenTrace (executions (session.runCourse true body world)) := by
  have noBegin := session.givenTrace_begun world
  cases begins : (session.begun world).outcome with
  | error failure =>
      rw [session.transacted_of_not_begun body world failure begins,
        session.runCourse_of_not_begun body world failure begins]
      exact noBegin
  | ok done =>
      have worked : givenTrace (session.worked true body world).events =
          givenTrace (executions (session.runCourse true body world)) := by
        rw [session.runCourse_of_begun body world acquired begins]
        exact session.givenTrace_perform (nextLease world) body (session.entered true world)
      rw [session.transacted_events body world begins, givenTrace_append, givenTrace_append,
        noBegin, worked, session.committed_events]
      cases (session.worked true body world).outcome.isOk <;> exact List.append_nil _

private theorem givenTrace_work (transactional : Bool)
    (acquired : (session.acquire world).outcome = .ok ()) :
    givenTrace (session.work transactional body world).events =
      givenTrace (executions (session.runCourse transactional body world)) := by
  cases transactional with
  | false =>
      rw [session.runCourse_of_plain body world acquired]
      exact session.givenTrace_perform (nextLease world) body (session.entered false world)
  | true =>
      have transacted := session.givenTrace_transacted body world acquired
      cases failed : (session.transacted body world).outcome with
      | ok result =>
          rw [session.work_of_committed body world result failed]
          exact transacted
      | error failure =>
          have abandons := (session.abandon_within (nextLease world)).events
            (session.transacted body world).state
          have noMore := givenTrace_of_callsAtMost abandons (by decide)
          rw [session.work_of_failed body world failure failed]
          dsimp only
          rw [givenTrace_append, noMore, List.append_nil, transacted]

theorem givenTrace_runBody (transactional : Bool) :
    givenTrace (session.runBody transactional body world).events =
      givenTrace (executions (session.runCourse transactional body world)) := by
  cases acquired : (session.acquire world).outcome with
  | error failure =>
      rw [session.runCourse_of_refused body world transactional failure acquired]
      unfold Session.runBody
      rw [session.run_of_refused transactional _ world failure acquired]
      exact givenTrace_of_callsOneOf (session.acquire_within.events world) (by decide)
  | ok done =>
      rw [(session.runBody_of_acquired body world transactional acquired).2]
      change givenTrace (_ ++ _) = _
      rw [givenTrace_append, givenTrace_returnEvents, List.append_nil]
      exact session.givenTrace_work body world transactional acquired

theorem givenTrace_runBody_cases (transactional : Bool) :
    givenTrace (session.runBody transactional body world).events = [] ∨
      ∃ start, List.Sublist (givenTrace (session.runBody transactional body world).events)
        ((session.course (nextLease world) body start).map Attempt.given) := by
  rw [session.givenTrace_runBody body world transactional]
  unfold runCourse
  split
  · exact .inr ⟨_, session.givenTrace_course _ body _⟩
  · exact .inl rfl

end Session
end PooledQuery
