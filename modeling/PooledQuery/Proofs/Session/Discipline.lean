/-
The discipline of a run towards its connection and its transaction.

Whatever the pool, the connection, the sink and the body do, a run that gets a connection
gives it back as its last call.  In a transaction the calls of the body stand between
those that begin and the commit, and exactly one of commit and failure, with its rollback,
ends the work; only a commit that fails itself is followed by a rollback.
-/
import PooledQuery.Proofs.Session.Stages

namespace PooledQuery.Session

variable {σ α : Type} (session : Session σ)

/-- The call by which a run gives its connection back. -/
def returnCalls : List DriverCall :=
  if session.pool.release.isCallable then [.release]
  else if session.driver.release.isCallable then [.selfRelease]
  else []

/-- The calls of a run, in order. -/
def runTrace (transactional : Bool) (body : Body α) (world : World σ) : List DriverCall :=
  driverTrace (session.runBody transactional body world).events

/-- The calls that end a transaction which was begun. -/
def closingCalls (body : Body α) (world : World σ) : List DriverCall :=
  (if (session.worked true body world).outcome.isOk then [.commit] else []) ++
    (if session.completes body world then [] else [.rollback])

variable (transactional : Bool) (body : Body α) (world : World σ)

/-! ### The calls of each stage -/

theorem returnCalls_eq :
    driverTrace (Lease.returnEvents session.pool session.driver) = session.returnCalls := by
  unfold Lease.returnEvents returnCalls Hook.calls
  cases session.pool.release.isCallable with
  | true => rfl
  | false => cases session.driver.release.isCallable <;> rfl

theorem not_mem_returnCalls {call : DriverCall} (other : call ≠ .release)
    (another : call ≠ .selfRelease) : call ∉ session.returnCalls := by
  unfold returnCalls
  cases session.pool.release.isCallable <;> cases session.driver.release.isCallable <;>
    simp [other, another]

theorem not_mem_begun (call : DriverCall)
    (other : call ∉ [DriverCall.begin, .beginTransaction, .direct]) :
    call ∉ driverTrace (session.begun world).events :=
  not_mem_driverTrace (fun event member => ((Lease.begin_within session.driver session.dialect
    (nextLease world)).events (session.borrowed true world) event member).callsAtMost) other

theorem not_mem_worked (call : DriverCall) (other : call ∉ [DriverCall.execute, .close]) :
    call ∉ driverTrace (session.worked transactional body world).events :=
  not_mem_driverTrace ((session.perform_within (nextLease world) body).events
    (session.entered transactional world)) other

theorem runTrace_of_acquired (acquired : (session.acquire world).outcome = .ok ()) :
    session.runTrace transactional body world =
      .acquire :: driverTrace (session.work transactional body world).events ++
        session.returnCalls := by
  have events := (session.runBody_of_acquired body world transactional acquired).2
  unfold runTrace
  rw [events, ← session.returnCalls_eq]
  change _ :: driverTrace (_ ++ _) = _
  rw [driverTrace_append]
  rfl

theorem driverTrace_work_of_failed (failure : Failure)
    (failed : (session.transacted body world).outcome = .error failure) :
    driverTrace (session.work true body world).events =
      driverTrace (session.transacted body world).events ++ [.rollback] := by
  cases back : (session.rolledBack body world).outcome with
  | ok done =>
      have silent := (reportAll_within
        ((session.rolledBack body world).state.lease (nextLease world)).failed).events
        (session.rolledBack body world).state
      rw [session.work_events_of_rolledBack body world failure failed back, driverTrace_append]
      change _ ++ (.rollback :: driverTrace _) = _
      rw [driverTrace_of_callsAtMost_nil silent]
  | error refusal =>
      rw [session.work_events_of_refused body world failure refusal failed back,
        driverTrace_append]
      rfl

theorem driverTrace_work_of_not_begun
    (failed : (session.begun world).outcome.isOk = false) :
    driverTrace (session.work true body world).events =
      driverTrace (session.begun world).events ++ [.rollback] := by
  cases begins : (session.begun world).outcome with
  | ok done =>
      rw [begins] at failed
      cases failed
  | error failure =>
      have transacted := session.transacted_of_not_begun body world failure begins
      rw [session.driverTrace_work_of_failed body world failure (by rw [transacted]), transacted]

/-- The calls of a transaction that was begun: those that begin, those of the body, and those
that end it. -/
theorem driverTrace_work_of_begun (begins : (session.begun world).outcome.isOk = true) :
    driverTrace (session.work true body world).events =
      driverTrace (session.begun world).events ++
        driverTrace (session.worked true body world).events ++
        session.closingCalls body world := by
  have begun : (session.begun world).outcome = .ok () := by
    cases outcome : (session.begun world).outcome with
    | ok done => rfl
    | error failure =>
        rw [outcome] at begins
        cases begins
  have transacted : driverTrace (session.transacted body world).events =
      driverTrace (session.begun world).events ++
        driverTrace (session.worked true body world).events ++
        if (session.worked true body world).outcome.isOk then [.commit] else [] := by
    rw [session.transacted_events body world begun, driverTrace_append, driverTrace_append,
      session.committed_events]
    cases (session.worked true body world).outcome.isOk <;> rfl
  unfold closingCalls
  rw [session.completes_eq]
  cases outcome : (session.transacted body world).outcome with
  | ok result =>
      rw [session.work_of_committed body world result outcome, transacted]
      exact congrArg _ (List.append_nil _).symm
  | error failure =>
      rw [session.driverTrace_work_of_failed body world failure outcome, transacted,
        List.append_assoc]
      rfl

private theorem work_callsAtMost :
    ∀ event ∈ (session.work transactional body world).events, event.CallsAtMost
      [.begin, .beginTransaction, .direct, .execute, .close, .commit, .rollback] := by
  cases transactional with
  | false =>
      intro event member
      exact ((session.perform_within (nextLease world) body).events _ event member).mono
        (by decide)
  | true => exact (session.inTransaction_within body (nextLease world)).events _

private theorem count_closingCalls_commit :
    (session.closingCalls body world).count .commit =
      if (session.worked true body world).outcome.isOk then 1 else 0 := by
  unfold closingCalls
  cases (session.worked true body world).outcome.isOk <;>
    cases session.completes body world <;> rfl

private theorem count_closingCalls_rollback :
    (session.closingCalls body world).count .rollback =
      if session.completes body world then 0 else 1 := by
  unfold closingCalls
  cases (session.worked true body world).outcome.isOk <;>
    cases session.completes body world <;> rfl

theorem mem_back_of_not_mem_front {call other : DriverCall}
    {front back before after : List DriverCall} (lacks : call ∉ front)
    (split : front ++ back = before ++ call :: after) (member : other ∈ after) :
    other ∈ back := by
  rcases List.append_eq_append_iff.mp split with ⟨middle, rfl, rest⟩ | ⟨middle, rfl, rest⟩
  · rw [rest]
    exact List.mem_append_right middle (List.mem_cons_of_mem call member)
  · cases middle with
    | nil =>
        rw [List.nil_append] at rest
        rw [← rest]
        exact List.mem_cons_of_mem call member
    | cons head tail =>
        have same : call = head := (List.cons.inj rest).1
        exact absurd (by rw [same]; simp) lacks

/-! ### The run as a whole -/

/-- What holds of the calls of every run.  The stages are those of the run itself: what the
pool answers, how beginning ends, how the body ends after that, and how committing ends. -/
structure Disciplined (transactional : Bool) (body : Body α) (world : World σ) : Prop where
  -- Without a connection nothing happens but the pool's own call.
  refused : ∀ failure, (session.acquire world).outcome = .error failure →
    session.runBody transactional body world =
      ⟨.error failure, (session.acquire world).state, session.pool.acquire.calls .acquire⟩
  -- The connection is asked for once and given back once, after everything else.
  bracketed : (session.acquire world).outcome = .ok () →
    ∃ work, session.runTrace transactional body world = .acquire :: work ++ session.returnCalls ∧
      .acquire ∉ work ∧ .release ∉ work ∧ .selfRelease ∉ work
  -- A body whose transaction cannot be begun is not entered.
  notEntered : transactional = true → (session.acquire world).outcome = .ok () →
    (session.begun world).outcome.isOk = false →
    session.runTrace transactional body world =
      .acquire :: (driverTrace (session.begun world).events ++ [.rollback]) ++
        session.returnCalls
  -- The calls of a body come after those that begin its transaction and before those that
  -- end it.
  entered : transactional = true → (session.acquire world).outcome = .ok () →
    (session.begun world).outcome.isOk = true →
    session.runTrace transactional body world =
      .acquire :: (driverTrace (session.begun world).events ++
        driverTrace (session.worked true body world).events ++
        session.closingCalls body world) ++ session.returnCalls
  -- Commit is called once after begin and body have succeeded, and not otherwise.
  commits : transactional = true → (session.acquire world).outcome = .ok () →
    (session.runTrace transactional body world).count .commit =
      if (session.begun world).outcome.isOk ∧ (session.worked true body world).outcome.isOk
      then 1 else 0
  -- Rollback is called once unless begin, body and commit have all succeeded.
  rollbacks : transactional = true → (session.acquire world).outcome = .ok () →
    (session.runTrace transactional body world).count .rollback =
      if (session.begun world).outcome.isOk ∧ (session.worked true body world).outcome.isOk ∧
        (session.committed body world).outcome.isOk
      then 0 else 1
  -- No commit follows a rollback.
  final : ∀ before after,
    session.runTrace transactional body world = before ++ .rollback :: after → .commit ∉ after
  -- Outside a transaction there are no calls of one.
  plain : transactional = false →
    ∀ call ∈ [DriverCall.begin, .beginTransaction, .direct, .commit, .rollback],
      call ∉ session.runTrace transactional body world

theorem not_mem_runTrace_of_refused {call : DriverCall} (failure : Failure)
    (refused : (session.acquire world).outcome = .error failure) (other : call ≠ .acquire) :
    call ∉ session.runTrace transactional body world := by
  unfold runTrace Session.runBody
  rw [session.run_of_refused transactional _ world failure refused]
  exact not_mem_driverTrace
    (fun event member => (session.acquire_within.events world event member).callsAtMost)
    (fun acquires => other (List.mem_singleton.mp acquires))

theorem not_mem_runTrace_of_plain {call : DriverCall} (acquires : call ≠ .acquire)
    (returns : call ≠ .release ∧ call ≠ .selfRelease)
    (works : call ∉ [DriverCall.execute, .close]) :
    call ∉ session.runTrace false body world := by
  cases acquired : (session.acquire world).outcome with
  | error failure =>
      exact session.not_mem_runTrace_of_refused false body world failure acquired acquires
  | ok done =>
      rw [session.runTrace_of_acquired false body world acquired, List.cons_append,
        List.mem_cons, List.mem_append]
      rintro (isAcquire | ofWork | ofReturn)
      · exact acquires isAcquire
      · exact session.not_mem_worked false body world _ works ofWork
      · exact session.not_mem_returnCalls returns.1 returns.2 ofReturn

private theorem not_commit_after_rollback (acquired : (session.acquire world).outcome = .ok ())
    (before after : List DriverCall)
    (split : session.runTrace true body world = before ++ .rollback :: after) :
    .commit ∉ after := by
  have noReturn : .commit ∉ session.returnCalls :=
    session.not_mem_returnCalls (by decide) (by decide)
  have noBegin := session.not_mem_begun world .rollback (by decide)
  rw [session.runTrace_of_acquired true body world acquired] at split
  intro member
  -- Neither beginning nor the body rolls back, so the rollback is among the calls that end
  -- the run, and there the commit comes first.
  cases begins : (session.begun world).outcome.isOk with
  | false =>
      rw [session.driverTrace_work_of_not_begun body world begins, ← List.cons_append,
        List.append_assoc] at split
      have ofBack := mem_back_of_not_mem_front (by simp [noBegin]) split member
      simp [noReturn] at ofBack
  | true =>
      have noWork := session.not_mem_worked true body world .rollback (by decide)
      rw [session.driverTrace_work_of_begun body world begins] at split
      unfold closingCalls at split
      rw [← List.append_assoc, ← List.cons_append, List.append_assoc] at split
      have ofBack := mem_back_of_not_mem_front
        (by simp [noBegin, noWork]) split member
      simp [noReturn] at ofBack

theorem runBody_disciplined : session.Disciplined transactional body world where
  refused := by
    intro failure refused
    unfold Session.runBody
    rw [session.run_of_refused transactional _ world failure refused, session.acquire_events]
  bracketed := by
    intro acquired
    have among := session.work_callsAtMost transactional body world
    exact ⟨_, session.runTrace_of_acquired transactional body world acquired,
      not_mem_driverTrace among (by decide), not_mem_driverTrace among (by decide),
      not_mem_driverTrace among (by decide)⟩
  notEntered := by
    rintro rfl acquired failed
    rw [session.runTrace_of_acquired true body world acquired,
      session.driverTrace_work_of_not_begun body world failed]
  entered := by
    rintro rfl acquired begins
    rw [session.runTrace_of_acquired true body world acquired,
      session.driverTrace_work_of_begun body world begins]
  commits := by
    rintro rfl acquired
    have noReturn : (session.returnCalls).count .commit = 0 :=
      List.count_eq_zero.mpr (session.not_mem_returnCalls (by decide) (by decide))
    have noBegin : (driverTrace (session.begun world).events).count .commit = 0 :=
      List.count_eq_zero.mpr (session.not_mem_begun world _ (by decide))
    have noWork : (driverTrace (session.worked true body world).events).count .commit = 0 :=
      List.count_eq_zero.mpr (session.not_mem_worked true body world _ (by decide))
    rw [session.runTrace_of_acquired true body world acquired]
    cases begins : (session.begun world).outcome.isOk with
    | false =>
        rw [session.driverTrace_work_of_not_begun body world begins]
        simp [noReturn, noBegin]
    | true =>
        rw [session.driverTrace_work_of_begun body world begins]
        simp [noReturn, noBegin, noWork, session.count_closingCalls_commit]
  rollbacks := by
    rintro rfl acquired
    have noReturn : (session.returnCalls).count .rollback = 0 :=
      List.count_eq_zero.mpr (session.not_mem_returnCalls (by decide) (by decide))
    have noBegin : (driverTrace (session.begun world).events).count .rollback = 0 :=
      List.count_eq_zero.mpr (session.not_mem_begun world _ (by decide))
    have noWork : (driverTrace (session.worked true body world).events).count .rollback = 0 :=
      List.count_eq_zero.mpr (session.not_mem_worked true body world _ (by decide))
    rw [session.runTrace_of_acquired true body world acquired]
    cases begins : (session.begun world).outcome.isOk with
    | false =>
        rw [session.driverTrace_work_of_not_begun body world begins]
        simp [noReturn, noBegin]
    | true =>
        rw [session.driverTrace_work_of_begun body world begins]
        simp [noReturn, noBegin, noWork, session.count_closingCalls_rollback, completes, begins]
  final := by
    intro before after split
    have present : .rollback ∈ session.runTrace transactional body world := by
      rw [split]
      exact List.mem_append_right before List.mem_cons_self
    cases acquired : (session.acquire world).outcome with
    | error failure =>
        exact absurd present (session.not_mem_runTrace_of_refused transactional body world
          failure acquired (by decide))
    | ok done =>
        cases transactional with
        | false =>
            exact absurd present (session.not_mem_runTrace_of_plain body world (by decide)
              (by decide) (by decide))
        | true => exact session.not_commit_after_rollback body world acquired before after split
  plain := by
    rintro rfl call member
    refine session.not_mem_runTrace_of_plain body world ?_ ?_ ?_ <;>
      (revert member; revert call; decide)

end PooledQuery.Session
