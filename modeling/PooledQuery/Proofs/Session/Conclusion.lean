/-
What a run comes to.

A run fails with the last failure of its stages.  Failing to give the connection back hides
all that came before, a rollback that fails hides what it was called for, and otherwise the
failure of begin, body or commit escapes as it is.  Nothing that a body asks of the session
can interfere with this, since its lease is open until the connection is given back.
-/
import PooledQuery.Proofs.Session.Holding
import PooledQuery.Proofs.Session.Rehearsed

namespace PooledQuery.Session

variable {σ α : Type} (session : Session σ)

/-- What begin, body and commit come to: the first failure, or the body's result. -/
def attempted (transactional : Bool) (body : LeaseId → Action (World σ) α) (world : World σ) :
    Except Failure α :=
  if transactional then do
    (session.begun world).outcome
    let result ← (session.acted true body world).outcome
    (session.sealed body world).outcome
    return result
  else (session.acted false body world).outcome

/-- What giving a connection back comes to: the answer of the pool if it takes connections
back, or else that of the connection if it can return itself. -/
def returning (state : σ) : Except Failure Unit :=
  match session.pool.release, session.driver.release with
  | .callable _ effect, _ => (effect state).1
  | _, .callable _ effect => (effect state).1
  | _, _ => .error .noReleaseRoute

/-- Which of its stages decides what a run comes to, once it has its connection. -/
structure Concludes (transactional : Bool) (body : LeaseId → Action (World σ) α)
    (world : World σ) : Prop where
  -- A connection that cannot be given back hides everything else.
  unreturned : ∀ failure, (session.returned transactional body world).outcome = .error failure →
    (session.run transactional body world).outcome = .error failure
  -- A rollback that fails hides what it was called for.
  unrolled : (session.returned transactional body world).outcome = .ok () →
    transactional = true → ∀ cause, session.attempted true body world = .error cause →
    ∀ failure, (session.undone body world).outcome = .error failure →
    (session.run transactional body world).outcome = .error failure
  -- The failure of begin, body or commit escapes as it is.
  escaped : (session.returned transactional body world).outcome = .ok () →
    ∀ cause, session.attempted transactional body world = .error cause →
    (transactional = true → (session.undone body world).outcome = .ok ()) →
    (session.run transactional body world).outcome = .error cause
  -- A run comes to a result if it is that of its body, and no stage fails.
  succeeded : ∀ result, (session.run transactional body world).outcome = .ok result ↔
    (transactional = true → (session.begun world).outcome = .ok ()) ∧
      (session.acted transactional body world).outcome = .ok result ∧
      (transactional = true → (session.sealed body world).outcome = .ok ()) ∧
      (session.returned transactional body world).outcome = .ok ()
  -- After its commit a transaction fails only if the connection cannot be given back.
  committed : transactional = true → (session.begun world).outcome = .ok () →
    ∀ result, (session.acted true body world).outcome = .ok result →
    (session.sealed body world).outcome = .ok () →
    ∀ failure, (session.run transactional body world).outcome = .error failure →
    (session.returned transactional body world).outcome = .error failure
  -- The connection itself is asked to commit, to roll back and to be given back.
  commits : (session.sealed body world).outcome =
    (session.driver.commit (session.acted true body world).state.collaborators).1
  rollsBack : (session.undone body world).outcome =
    (session.driver.rollback (session.tried body world).state.collaborators).1
  returns : (session.returned transactional body world).outcome =
    session.returning (session.handled transactional body world).state.collaborators
  -- The events are those of the stages, and a transaction is rolled back if begin, body or
  -- commit fails.
  stages : (session.run transactional body world).events =
    .acquire :: ((session.handled transactional body world).events ++
      Lease.returnEvents session.pool session.driver)
  rollback : ∃ reports, (∀ event ∈ reports, event.CallsAtMost []) ∧
    (session.handled true body world).events = (session.tried body world).events ++
      if (session.attempted true body world).isOk then [] else .rollback :: reports

private theorem returning_of_open (id : LeaseId) (world : World σ)
    (isOpen : (world.lease id).isOpen = true) :
    (Lease.release session.pool session.driver id world).outcome =
      session.returning world.collaborators := by
  unfold Lease.release returning
  rw [Action.read_bind, isOpen, if_pos rfl, Action.bind_of_ok _ _ world () rfl]
  simp only [World.callIfPresent_unless]
  cases session.pool.release with
  | callable deferred effect => rfl
  | absent => cases session.driver.release <;> rfl
  | notCallable => cases session.driver.release <;> rfl

section Run

variable (transactional : Bool) (body : LeaseId → Action (World σ) α) (world : World σ)

theorem tried_outcome :
    (session.tried body world).outcome = session.attempted true body world := by
  unfold attempted
  rw [if_pos rfl]
  cases begins : (session.begun world).outcome with
  | error failure =>
      rw [session.tried_of_not_begun body world failure begins]
      rfl
  | ok done =>
      cases acts : (session.acted true body world).outcome with
      | error failure =>
          rw [session.tried_of_stopped body world failure begins acts]
          rfl
      | ok result =>
          rw [session.tried_of_completed body world result begins acts]
          cases (session.sealed body world).outcome <;> rfl

theorem attempted_eq_ok_iff (result : α) :
    session.attempted transactional body world = .ok result ↔
      (transactional = true → (session.begun world).outcome = .ok ()) ∧
        (session.acted transactional body world).outcome = .ok result ∧
        (transactional = true → (session.sealed body world).outcome = .ok ()) := by
  unfold attempted
  cases transactional with
  | false => simp
  | true =>
      cases (session.begun world).outcome <;>
        cases (session.acted true body world).outcome <;>
          cases (session.sealed body world).outcome <;>
            simp [bind, Except.bind, pure, Except.pure]

theorem isOpen_of_holds {after : World σ}
    (holds : World.Holds (nextLease world + 1) (session.borrowed transactional world) after) :
    (after.lease (nextLease world)).isOpen = true := by
  have same := (session.acquire_within.state world).leases
  have enough : nextLease world + 1 ≤ (session.borrowed transactional world).leases.length := by
    unfold borrowed nextLease
    dsimp only
    rw [same, List.length_append]
    exact Nat.le_refl _
  rw [(holds.leases enough).2 (nextLease world) (Nat.lt_succ_self _),
    session.lease_borrowed transactional world]

private theorem abandon_outcome (id : LeaseId) (quiet : world.sink.NeverFails) :
    (session.abandon id world).outcome = (Lease.rollback session.driver id world).outcome := by
  cases back : (Lease.rollback session.driver id world).outcome with
  | error failure => rw [session.abandon_of_refused world id failure back]
  | ok done =>
      have steady := (Lease.rollback_within session.driver id).state world
      rw [session.abandon_of_rolledBack world id back]
      dsimp only
      rw [reportAll_run _ _ (by rw [steady.sink]; exact quiet)]

private theorem abandon_events (id : LeaseId) (isOpen : (world.lease id).isOpen = true) :
    ∃ reports, (∀ event ∈ reports, event.CallsAtMost []) ∧
      (session.abandon id world).events = .rollback :: reports := by
  have called : (Lease.rollback session.driver id world).events = [.rollback] := by
    rw [Lease.rollback_of_open session.driver id world isOpen]
    rfl
  cases back : (Lease.rollback session.driver id world).outcome with
  | error failure =>
      rw [session.abandon_of_refused world id failure back]
      exact ⟨[], (fun _event member => nomatch member), called⟩
  | ok done =>
      have silent := (reportAll_within
        ((Lease.rollback session.driver id world).state.lease id).failed).events
        (Lease.rollback session.driver id world).state
      refine ⟨_, silent, ?_⟩
      rw [session.abandon_of_rolledBack world id back]
      dsimp only
      rw [called]
      rfl

theorem handled_outcome_of_ok (result : α)
    (succeeds : session.attempted transactional body world = .ok result) :
    (session.handled transactional body world).outcome = .ok result := by
  cases transactional with
  | false => exact succeeds
  | true =>
      rw [← session.tried_outcome body world] at succeeds
      rw [session.handled_of_tried body world result succeeds, succeeds]

theorem run_outcome (acquired : (session.acquire world).outcome = .ok ()) :
    (session.run transactional body world).outcome =
      (session.returned transactional body world).outcome.bind fun _returned =>
        (session.handled transactional body world).outcome := by
  rw [session.run_stages transactional body world acquired]

section Upheld

variable (upholds : ∀ id, World.Upholds (body id))

include upholds

private theorem acted_isOpen :
    ((session.acted true body world).state.lease (nextLease world)).isOpen = true := by
  have begins := (World.Upholds.of_steady (Lease.begin_within session.driver session.dialect
    (nextLease world)) (nextLease world + 1)).state (session.borrowed true world)
  have acts := (upholds (nextLease world) (nextLease world + 1)).state (session.entered true world)
  exact session.isOpen_of_holds true world ((World.holding _).trans begins acts)

theorem tried_holds (count : Nat) :
    World.Holds count (session.borrowed true world) (session.tried body world).state :=
  (session.enclosed_framed (fun same => World.Steady.holds same count) (nextLease world)
    (upholds (nextLease world) count)).state _

theorem handled_isOpen :
    ((session.handled transactional body world).state.lease (nextLease world)).isOpen = true :=
  session.isOpen_of_holds transactional world
    (session.handled_holds transactional body world upholds _)

/-- The outcome of a transaction: that of the rollback, if it is called and fails, and
otherwise what begin, body and commit come to. -/
theorem handled_outcome (quiet : world.sink.NeverFails) (failure : Failure)
    (fails : session.attempted true body world = .error failure) :
    (session.handled true body world).outcome =
      (session.undone body world).outcome.bind fun _undone => .error failure := by
  -- The body leaves the sink alone, so the reports after the rollback cannot fail.
  have tried := session.tried_holds body world upholds 0
  rw [← session.tried_outcome body world] at fails
  rw [session.handled_of_failed body world failure fails]
  dsimp only
  rw [session.abandon_outcome _ (nextLease world)
    (by rw [tried.sink, session.borrowed_sink true world]; exact quiet)]
  rfl

private theorem handled_outcome_of_error (quiet : world.sink.NeverFails) (cause : Failure)
    (fails : session.attempted transactional body world = .error cause)
    (undone : transactional = true → (session.undone body world).outcome = .ok ()) :
    (session.handled transactional body world).outcome = .error cause := by
  cases transactional with
  | false => exact fails
  | true =>
      rw [session.handled_outcome body world upholds quiet cause fails, undone rfl]
      rfl

private theorem handled_fails (quiet : world.sink.NeverFails) (cause : Failure)
    (fails : session.attempted transactional body world = .error cause) :
    ∃ failure, (session.handled transactional body world).outcome = .error failure := by
  cases transactional with
  | false => exact ⟨cause, fails⟩
  | true =>
      rw [session.handled_outcome body world upholds quiet cause fails]
      cases (session.undone body world).outcome with
      | ok done => exact ⟨cause, rfl⟩
      | error failure => exact ⟨failure, rfl⟩

private theorem run_eq_ok_iff (acquired : (session.acquire world).outcome = .ok ())
    (quiet : world.sink.NeverFails) (result : α) :
    (session.run transactional body world).outcome = .ok result ↔
      session.attempted transactional body world = .ok result ∧
        (session.returned transactional body world).outcome = .ok () := by
  rw [session.run_outcome transactional body world acquired]
  cases attempted : session.attempted transactional body world with
  | ok value =>
      rw [session.handled_outcome_of_ok transactional body world value attempted]
      cases (session.returned transactional body world).outcome <;> simp [Except.bind]
  | error cause =>
      obtain ⟨failure, fails⟩ :=
        session.handled_fails transactional body world upholds quiet cause attempted
      rw [fails]
      cases (session.returned transactional body world).outcome <;> simp [Except.bind]

private theorem handled_rollback :
    ∃ reports, (∀ event ∈ reports, event.CallsAtMost []) ∧
      (session.handled true body world).events = (session.tried body world).events ++
        if (session.attempted true body world).isOk then [] else .rollback :: reports := by
  rw [← session.tried_outcome body world]
  cases attempted : (session.tried body world).outcome with
  | ok result =>
      rw [session.handled_of_tried body world result attempted]
      exact ⟨[], (fun _event member => nomatch member), (List.append_nil _).symm⟩
  | error failure =>
      have isOpen := session.isOpen_of_holds true world (session.tried_holds body world upholds _)
      obtain ⟨reports, silent, abandons⟩ :=
        session.abandon_events (session.tried body world).state (nextLease world) isOpen
      rw [session.handled_of_failed body world failure attempted]
      dsimp only
      rw [abandons]
      exact ⟨reports, silent, rfl⟩

private theorem run_concludes (acquired : (session.acquire world).outcome = .ok ())
    (quiet : world.sink.NeverFails) : session.Concludes transactional body world where
  unreturned := by
    intro failure returned
    rw [session.run_outcome transactional body world acquired, returned]
    rfl
  unrolled := by
    rintro returned rfl cause fails failure undone
    rw [session.run_outcome true body world acquired, returned,
      session.handled_outcome body world upholds quiet cause fails, undone]
    rfl
  escaped := by
    intro returned cause fails undone
    rw [session.run_outcome transactional body world acquired, returned,
      session.handled_outcome_of_error transactional body world upholds quiet cause fails undone]
    rfl
  succeeded := by
    intro result
    rw [session.run_eq_ok_iff transactional body world upholds acquired quiet,
      session.attempted_eq_ok_iff, and_assoc, and_assoc]
  committed := by
    rintro rfl begun result acted sealed failure fails
    have attempted : session.attempted true body world = .ok result :=
      (session.attempted_eq_ok_iff true body world result).mpr
        ⟨fun _transaction => begun, acted, fun _transaction => sealed⟩
    rw [session.run_outcome true body world acquired,
      session.handled_outcome_of_ok true body world result attempted] at fails
    cases returned : (session.returned true body world).outcome with
    | ok done =>
        rw [returned] at fails
        cases fails
    | error other =>
        rw [returned] at fails
        change Except.error other = Except.error failure at fails
        rw [Except.error.inj fails]
  commits := by
    unfold sealed
    rw [Lease.commit_of_open _ _ _ (session.acted_isOpen body world upholds)]
    rfl
  rollsBack := by
    have isOpen := session.isOpen_of_holds true world (session.tried_holds body world upholds _)
    unfold undone
    rw [Lease.rollback_of_open _ _ _ isOpen]
    rfl
  returns := session.returning_of_open (nextLease world) _
    (session.handled_isOpen transactional body world upholds)
  stages := by
    rw [session.run_stages transactional body world acquired]
    exact congrArg (fun events => .acquire :: (_ ++ events)) (Lease.release_events session.pool
      session.driver (nextLease world) _ (session.handled_isOpen transactional body world upholds))
  rollback := session.handled_rollback body world upholds

end Upheld
end Run

theorem run_conversation_concludes (transactional : Bool) (body : LeaseId → Conversation α)
    (world : World σ) (acquired : (session.acquire world).outcome = .ok ())
    (quiet : world.sink.NeverFails) :
    session.Concludes transactional (fun id => session.converse (body id)) world :=
  session.run_concludes transactional _ world
    (fun id => session.pervades_upholds.converse (body id)) acquired quiet

def uncommitting : Session Rehearsal.Stage :=
  { Rehearsal.willingSession .mysql [] with
    driver := Rehearsal.driver { Rehearsal.willing [] with failing := ["commit"] } }

/-- A body that clears the log of slow statements and executes a statement. -/
def clearingBody (id : LeaseId) : Conversation Unit :=
  .adjust .clearSlow fun _cleared =>
    .query id "UPDATE t SET x = 1" [] fun _passed => .finish ()

theorem uncommitting_run_concludes :
    ((uncommitting.acquire (Rehearsal.quietWorld .silent [] [])).outcome = .ok () ∧
      (Rehearsal.quietWorld .silent [] []).sink.NeverFails) ∧
      uncommitting.Concludes true (fun id => uncommitting.converse (clearingBody id))
        (Rehearsal.quietWorld .silent [] []) := by
  have quiet := Rehearsal.quietWorld_neverFails .silent [] []
  exact ⟨⟨rfl, quiet⟩, run_conversation_concludes uncommitting true clearingBody _ rfl quiet⟩

example : (uncommitting.run true (fun id => uncommitting.converse (clearingBody id))
    (Rehearsal.quietWorld .silent [] [])).outcome = .error (Rehearsal.operationFailure "commit") := by
  rfl

end PooledQuery.Session
