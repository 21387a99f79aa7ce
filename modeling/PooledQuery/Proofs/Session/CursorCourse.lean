/-
What becomes of a cursor.

A statement's work on a cursor can fail in three ways: the driver refuses the statement, the
rows cannot be fetched, or one of them is no table.  Otherwise its answer is one table for each
row, or the statement's status if the cursor shows no columns.  In every case the cursor is
closed last, and a failure to close it takes the place of what came before.
-/
import PooledQuery.Proofs.Failure
import PooledQuery.Proofs.Session.Lease

namespace PooledQuery

variable {σ : Type}

namespace Lease

/-! ### Rows -/

theorem exists_entries_of_pairs {row table : Value} (reads : tableOfPairs? row = some table) :
    ∃ entries, table = .table false entries := by
  unfold tableOfPairs? at reads
  obtain ⟨items, _lists, reads⟩ := Option.bind_eq_some_iff.mp reads
  obtain ⟨pairs, _paired, reads⟩ := Option.bind_eq_some_iff.mp reads
  split at reads
  · cases reads
    exact ⟨_, rfl⟩
  · cases reads

theorem exists_entries_of_fields {columns : Option (List Text)} {fields : List Value}
    {table : Value} (reads : tableOfFields columns fields = .ok table) :
    ∃ entries, table = .table false entries := by
  unfold tableOfFields at reads
  split at reads
  · cases reads
  · cases reads
  · split at reads
    · cases reads
    · split at reads
      · cases reads
      · cases reads
        exact ⟨_, rfl⟩

private theorem exists_entries_of_row {columns : Option (List Text)} {row table : Value}
    (reads : tableOfRow columns row = .ok table) : ∃ entries, table = .table false entries := by
  unfold tableOfRow at reads
  split at reads
  · cases reads
    exact ⟨_, rfl⟩
  · exact exists_entries_of_fields reads
  · exact exists_entries_of_fields reads
  · split at reads
    · rename_i other pairs
      cases reads
      exact exists_entries_of_pairs pairs
    · cases reads

private theorem exists_tables {columns : Option (List Text)} {rows results : List Value}
    (each : List.Forall₂ (fun row result => tableOfRow columns row = .ok result) rows results) :
    ∃ tables : List Entries, results = tables.map (Value.table false) ∧ List.Forall₂
      (fun row entries => tableOfRow columns row = .ok (.table false entries)) rows tables := by
  induction each with
  | nil => exact ⟨[], rfl, .nil⟩
  | cons reads each ih =>
      obtain ⟨entries, rfl⟩ := exists_entries_of_row reads
      obtain ⟨tables, rfl, others⟩ := ih
      exact ⟨entries :: tables, rfl, .cons reads others⟩

/-! ### The work on a cursor -/

/-- How a statement's work on an open cursor goes: the state of the collaborators before it,
its outcome, and the state after it.  The cursor is not closed yet. -/
inductive CursorCourse (driver : Driver σ) (sql : Text) (given : Option (List Value)) (opened : σ) :
    Except Failure Value → σ → Prop
  | refused {failure : Failure} {worked : σ}
      (executes : driver.execute sql given opened = (.error failure, worked)) :
      CursorCourse driver sql given opened (.error failure) worked
  | unfetched {cursor : Cursor} {executed worked : σ} {failure : Failure}
      (executes : driver.execute sql given opened = (.ok cursor, executed))
      (shows : cursor.hasRows = true) (fetches : driver.fetch executed = (.error failure, worked)) :
      CursorCourse driver sql given opened (.error failure) worked
  -- A row is fetched that cannot be read as a table; it is the first such row.
  | unreadable {cursor : Cursor} {executed worked : σ} {before rest : List Value} {row : Value}
      {failure : Failure}
      (executes : driver.execute sql given opened = (.ok cursor, executed))
      (shows : cursor.hasRows = true)
      (fetches : driver.fetch executed = (.ok (before ++ row :: rest), worked))
      (reads : ∀ earlier ∈ before, ∃ table, tableOfRow cursor.columns earlier = .ok table)
      (fails : tableOfRow cursor.columns row = .error failure) :
      CursorCourse driver sql given opened (.error failure) worked
  | rows {cursor : Cursor} {executed worked : σ} {rows : List Value} {tables : List Entries}
      (executes : driver.execute sql given opened = (.ok cursor, executed))
      (shows : cursor.hasRows = true) (fetches : driver.fetch executed = (.ok rows, worked))
      (reads : List.Forall₂
        (fun row entries => tableOfRow cursor.columns row = .ok (.table false entries)) rows tables) :
      CursorCourse driver sql given opened (.ok (.list (tables.map (.table false)))) worked
  | status {cursor : Cursor} {worked : σ}
      (executes : driver.execute sql given opened = (.ok cursor, worked))
      (shows : cursor.hasRows = false) :
      CursorCourse driver sql given opened (.ok (status cursor)) worked

/-- How closing a cursor goes: what cannot be called is left alone. -/
inductive Closing (worked : σ) : Hook σ → Except Failure Unit → σ → Prop
  | called (deferred : Bool) (effect : Effect σ Unit) :
      Closing worked (.callable deferred effect) (effect worked).1 (effect worked).2
  | skipped (hook : Hook σ) (uncallable : hook.isCallable = false) :
      Closing worked hook (.ok ()) worked

section Course

variable (driver : Driver σ) (id : LeaseId) (sql : Text) (params : List Value) (world : World σ)

theorem executeOnCursor_course :
    ∃ work worked,
      CursorCourse driver sql (if params.isEmpty then none else some params) world.collaborators
          work worked ∧
        executeOnCursor driver sql params world =
          ⟨work, { world with collaborators := worked },
            [.execute sql (if params.isEmpty then none else some params)]⟩ := by
  unfold executeOnCursor
  generalize (if params.isEmpty then none else some params) = given
  rcases executes : driver.execute sql given world.collaborators with ⟨outcome, executed⟩
  cases outcome with
  | error failure =>
      refine ⟨_, _, .refused executes, ?_⟩
      rw [World.call_bind, World.perform_bind_of_error executes]
  | ok cursor =>
      rw [World.call_bind, World.perform_bind_of_ok executes]
      cases shows : cursor.hasRows with
      | false => exact ⟨_, _, .status executes shows, rfl⟩
      | true =>
          rw [if_pos rfl]
          rcases fetches : driver.fetch executed with ⟨outcome, worked⟩
          cases outcome with
          | error failure =>
              refine ⟨_, _, .unfetched executes shows fetches, ?_⟩
              rw [World.perform_bind_of_error fetches]
          | ok rows =>
              rw [World.perform_bind_of_ok fetches]
              rcases Failure.mapM_cases (tableOfRow cursor.columns) rows with
                ⟨results, reads, each⟩ | ⟨before, row, rest, failure, rfl, reads, fails, failed⟩
              · obtain ⟨tables, rfl, tabled⟩ := exists_tables each
                refine ⟨_, _, .rows executes shows fetches tabled, ?_⟩
                rw [reads]
                rfl
              · refine ⟨_, _, .unreadable executes shows fetches reads fails, ?_⟩
                rw [failed]
                rfl

private theorem close_course (hook : Hook σ) :
    ∃ closing after, Closing world.collaborators hook closing after ∧
      (do let _ ← World.callIfPresent .close hook : Action (World σ) Unit) world =
        ⟨closing, { world with collaborators := after }, hook.calls .close⟩ := by
  cases hook with
  | absent => exact ⟨_, _, .skipped _ rfl, rfl⟩
  | notCallable => exact ⟨_, _, .skipped _ rfl, rfl⟩
  | callable deferred effect =>
      refine ⟨_, _, .called deferred effect, ?_⟩
      rw [Action.bind_pure, World.callIfPresent_callable]
      cases (effect world.collaborators).1 <;> rfl

theorem execute_course {opened : σ} (isOpen : (world.lease id).isOpen = true)
    (opens : driver.openCursor world.collaborators = (.ok (), opened)) :
    ∃ work worked closing after,
      CursorCourse driver sql (if params.isEmpty then none else some params) opened work worked ∧
        Closing worked driver.closeCursor closing after ∧
          execute driver id sql params world =
            { outcome := closing.bind fun _closed => work
              state := { world with collaborators := after }
              events := .execute sql (if params.isEmpty then none else some params) ::
                driver.closeCursor.calls .close } := by
  obtain ⟨work, worked, course, works⟩ :=
    executeOnCursor_course driver sql params { world with collaborators := opened }
  obtain ⟨closing, after, closes, closed⟩ :=
    close_course { world with collaborators := worked } driver.closeCursor
  refine ⟨work, worked, closing, after, course, closes, ?_⟩
  unfold execute
  rw [requireOpen_bind id _ world isOpen, World.perform_bind_of_ok opens, Action.thenAlways_run,
    works]
  dsimp only
  rw [closed]
  rfl

end Course

/-! ### Events and answers -/

/-- A statement either does not get as far as a cursor, or is given to one, which is closed
afterwards. -/
theorem execute_events (driver : Driver σ) (id : LeaseId) (sql : Text) (params : List Value)
    (world : World σ) :
    (execute driver id sql params world).events = [] ∨
      (execute driver id sql params world).events =
        .execute sql (if params.isEmpty then none else some params) ::
          driver.closeCursor.calls .close := by
  cases isOpen : (world.lease id).isOpen with
  | false =>
      left
      unfold execute requireOpen
      rw [Action.bind_of_error _ _ world .connectionClosed (by rw [Action.read_bind, isOpen]; rfl),
        Action.read_bind, isOpen]
      rfl
  | true =>
      rcases opens : driver.openCursor world.collaborators with ⟨outcome, opened⟩
      cases outcome with
      | error failure =>
          left
          unfold execute
          rw [requireOpen_bind id _ world isOpen, World.perform_bind_of_error opens]
      | ok done =>
          right
          obtain ⟨work, worked, closing, after, _course, _closes, runs⟩ :=
            execute_course driver id sql params world isOpen opens
          rw [runs]

/-- What a driver answers: a list of tables, or a table of a statement's status. -/
inductive IsAnswer : Value → Prop
  | rows (tables : List Entries) : IsAnswer (.list (tables.map (Value.table false)))
  | status (entries : Entries) : IsAnswer (.table false entries)

private theorem CursorCourse.isAnswer {driver : Driver σ} {sql : Text} {given : Option (List Value)}
    {opened worked : σ} {answer : Value}
    (course : CursorCourse driver sql given opened (.ok answer) worked) : IsAnswer answer := by
  cases course with
  | rows executes shows fetches reads => exact .rows _
  | status executes shows => exact .status _

theorem execute_answers (driver : Driver σ) (id : LeaseId) (sql : Text) (params : List Value) :
    Action.Ensures IsAnswer (execute driver id sql params) := by
  have onCursor : Action.Ensures IsAnswer (executeOnCursor driver sql params) := by
    intro world answer succeeds
    obtain ⟨work, worked, course, works⟩ := executeOnCursor_course driver sql params world
    rw [works] at succeeds
    cases succeeds
    exact course.isAnswer
  unfold execute
  exact Action.Ensures.bind fun _passed => Action.Ensures.bind fun _opened =>
    onCursor.thenAlways _

end Lease
end PooledQuery
