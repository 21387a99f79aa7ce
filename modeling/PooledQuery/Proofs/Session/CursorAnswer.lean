/-
What a statement comes to on a cursor.

A cursor that has been opened is given the statement once and is closed last, whatever fails.
The fields of a fetched row come under the names of the cursor's columns, if there are as many
fields as columns.  A statement without rows comes to a status, from which the same summary is
read as from the cursor itself.
-/
import PooledQuery.Proofs.Rows.Columns
import PooledQuery.Proofs.Session.CursorCourse
import PooledQuery.Proofs.Session.Rehearsed

namespace PooledQuery

variable {σ : Type}

namespace Lease

/-! ### The cursor -/

theorem CursorCourse.answers {driver : Driver σ} {sql : Text} {given : Option (List Value)}
    {opened worked : σ} {answer : Value}
    (course : CursorCourse driver sql given opened (.ok answer) worked) :
    ∃ cursor executed, driver.execute sql given opened = (.ok cursor, executed) ∧
      (cursor.hasRows = true → ∃ rows tables, driver.fetch executed = (.ok rows, worked) ∧
        answer = .list (tables.map (.table false)) ∧ List.Forall₂
          (fun row entries => tableOfRow cursor.columns row = .ok (.table false entries))
            rows tables) ∧
      (cursor.hasRows = false → answer = Lease.status cursor) := by
  cases course with
  | rows executes shows fetches reads =>
      refine ⟨_, _, executes, fun _shows => ⟨_, _, fetches, rfl, reads⟩, fun none => ?_⟩
      rw [shows] at none
      cases none
  | status executes shows =>
      refine ⟨_, _, executes, fun some => ?_, fun _none => rfl⟩
      rw [shows] at some
      cases some

section Brackets

variable (driver : Driver σ) (id : LeaseId) (sql : Text) (params : List Value) (world : World σ)

/-- What a statement on an open lease comes to once it has a cursor. -/
structure Brackets (opened : σ) : Prop where
  -- The cursor is given the statement once, with parameters if there are any, and is closed
  -- once after that, if it can be closed.  There is no other call.
  events : (execute driver id sql params world).events =
    .execute sql (if params.isEmpty then none else some params) ::
      if driver.closeCursor.isCallable then [.close] else []
  -- Besides the collaborators, whom the cursor's own operations take through their states,
  -- nothing changes.  A failure to close the cursor takes the place of any other outcome.
  course : ∃ work worked closing after,
    CursorCourse driver sql (if params.isEmpty then none else some params) opened work worked ∧
      Closing worked driver.closeCursor closing after ∧
        (execute driver id sql params world).outcome = closing.bind (fun _closed => work) ∧
          (execute driver id sql params world).state = { world with collaborators := after }
  -- An answer means that nothing has failed.  It is the list of a table for each fetched row
  -- if the cursor shows columns, and a status otherwise.
  answers : ∀ answer, (execute driver id sql params world).outcome = .ok answer →
    ∃ cursor executed worked after,
      driver.execute sql (if params.isEmpty then none else some params) opened =
          (.ok cursor, executed) ∧
        Closing worked driver.closeCursor (.ok ()) after ∧
        (cursor.hasRows = true → ∃ rows tables, driver.fetch executed = (.ok rows, worked) ∧
          answer = .list (tables.map (.table false)) ∧ List.Forall₂
            (fun row entries => tableOfRow cursor.columns row = .ok (.table false entries))
              rows tables) ∧
        (cursor.hasRows = false → answer = status cursor)

theorem execute_brackets (opened : σ) (isOpen : (world.lease id).isOpen = true)
    (opens : driver.openCursor world.collaborators = (.ok (), opened)) :
    Brackets driver id sql params world opened := by
  obtain ⟨work, worked, closing, after, course, closes, runs⟩ :=
    execute_course driver id sql params world isOpen opens
  constructor
  · rw [runs]
    rfl
  · exact ⟨work, worked, closing, after, course, closes, by rw [runs], by rw [runs]⟩
  · intro answer succeeds
    rw [runs] at succeeds
    dsimp only at succeeds
    cases closing with
    | error failure => cases succeeds
    | ok done =>
        cases work with
        | error failure => cases succeeds
        | ok result =>
            cases succeeds
            obtain ⟨cursor, executed, executes, rows, status⟩ := course.answers
            exact ⟨cursor, executed, worked, after, executes, closes, rows, status⟩

end Brackets

def interruptedSelect : List Rehearsal.Line :=
  [⟨"SELECT", [⟨none, some (.raised .interrupt "stop"), none, [], []⟩]⟩]

/-- A connection whose cursors cannot be closed either. -/
def unclosable : Rehearsal.ConnectionPlan :=
  { Rehearsal.willing interruptedSelect with failing := ["close"] }

def borrowedWorld : World Rehearsal.Stage :=
  Rehearsal.quietWorld .plain interruptedSelect [⟨true, false, []⟩]

theorem interrupted_select_brackets :
    (borrowedWorld.lease 0).isOpen = true ∧
      (Rehearsal.driver unclosable).openCursor borrowedWorld.collaborators =
        (.ok (), borrowedWorld.collaborators) ∧
        Brackets (Rehearsal.driver unclosable) 0 "SELECT 1" [.int 7] borrowedWorld
          borrowedWorld.collaborators ∧
          (execute (Rehearsal.driver unclosable) 0 "SELECT 1" [.int 7] borrowedWorld).events =
              [.execute "SELECT 1" (some [.int 7]), .close] ∧
            (execute (Rehearsal.driver unclosable) 0 "SELECT 1" [.int 7] borrowedWorld).outcome =
              .error (.raised .driver "close failed") :=
  ⟨rfl, rfl, execute_brackets (Rehearsal.driver unclosable) 0 "SELECT 1" [.int 7] borrowedWorld
    borrowedWorld.collaborators rfl rfl, rfl, rfl⟩

end Lease

/-! ### Columns -/

def Value.fields? : Value → Option (List Value)
  | .list fields => some fields
  | .tuple fields => some fields
  | _ => none

namespace Lease

variable {names : List Text} {fields : List Value}

theorem tableOfRow_of_fields {row : Value} (sequence : row.fields? = some fields)
    (columns : Option (List Text)) : tableOfRow columns row = tableOfFields columns fields := by
  cases row with
  | list items =>
      cases sequence
      rfl
  | tuple items =>
      cases sequence
      rfl
  | _ => cases sequence

theorem tableOfFields_of_unfit (named : names ≠ []) (unfit : fields.length ≠ names.length) :
    tableOfFields (some names) fields =
      .error (.rowLength (decide (fields.length < names.length))) := by
  cases names with
  | nil => exact absurd rfl named
  | cons first others =>
      unfold tableOfFields
      dsimp only
      by_cases short : fields.length < (first :: others).length
      · rw [if_pos short, decide_eq_true short]
      · rw [if_neg short, if_pos (by omega), decide_eq_false short]

theorem tableOfFields_of_fit (named : names ≠ []) (fits : fields.length = names.length) :
    tableOfFields (some names) fields =
      .ok (.table false (Entries.ofPairs ((names.map Value.text).zip fields))) := by
  cases names with
  | nil => exact absurd rfl named
  | cons first others =>
      unfold tableOfFields
      dsimp only
      rw [if_neg (by omega), if_neg (by omega)]

/-- What fetched rows come to under the names of columns. -/
inductive RowsUnder (names : List Text) (rows : List Value) : Except Failure Value → Prop
  -- Every row is read; a row of fields has as many as there are columns.
  | read {tables : List Entries}
      (each : List.Forall₂ (fun row entries =>
        tableOfRow (some names) row = .ok (.table false entries) ∧
          ∀ fields, row.fields? = some fields →
            fields.length = names.length ∧ Entries.Tabulates names fields entries) rows tables) :
      RowsUnder names rows (.ok (.list (tables.map (.table false))))
  -- A row cannot be read; if it is a row of fields, then because of their number.  The rows
  -- before it have as many fields as there are columns.
  | unread {before rest : List Value} {row : Value} {failure : Failure}
      (split : rows = before ++ row :: rest)
      (earlier : ∀ other ∈ before, ∀ fields, other.fields? = some fields →
        fields.length = names.length)
      (fails : tableOfRow (some names) row = .error failure)
      (unfit : ∀ fields, row.fields? = some fields → fields.length ≠ names.length ∧
        failure = .rowLength (decide (fields.length < names.length))) :
      RowsUnder names rows (.error failure)

theorem fits_of_read {row : Value} {table : Value} (named : names ≠ [])
    (reads : tableOfRow (some names) row = .ok table) (sequence : row.fields? = some fields) :
    fields.length = names.length := by
  by_contra unfit
  rw [tableOfRow_of_fields sequence, tableOfFields_of_unfit named unfit] at reads
  cases reads

private theorem tabulates_of_read {row : Value} {entries : Entries} (named : names ≠ [])
    (reads : tableOfRow (some names) row = .ok (.table false entries))
    (sequence : row.fields? = some fields) : Entries.Tabulates names fields entries := by
  have fits := fits_of_read named reads sequence
  rw [tableOfRow_of_fields sequence, tableOfFields_of_fit named fits] at reads
  cases reads
  exact Entries.ofPairs_tabulates fits

private theorem unfit_of_unread {row : Value} {failure : Failure} (named : names ≠ [])
    (fails : tableOfRow (some names) row = .error failure)
    (sequence : row.fields? = some fields) :
    fields.length ≠ names.length ∧
      failure = .rowLength (decide (fields.length < names.length)) := by
  rw [tableOfRow_of_fields sequence] at fails
  by_cases fits : fields.length = names.length
  · rw [tableOfFields_of_fit named fits] at fails
    cases fails
  · rw [tableOfFields_of_unfit named fits] at fails
    cases fails
    exact ⟨fits, rfl⟩

section Columns

variable {driver : Driver σ} {sql : Text} {opened executed worked : σ}
variable {attributes : List (Text × Value)} {rows : List Value}

private theorem CursorCourse.rowsUnder {given : Option (List Value)} {work : Except Failure Value}
    {left : σ} (course : CursorCourse driver sql given opened work left)
    (executes : driver.execute sql given opened = (.ok ⟨some names, attributes⟩, executed))
    (named : names ≠ []) (fetches : driver.fetch executed = (.ok rows, worked)) :
    left = worked ∧ RowsUnder names rows work := by
  have shown : (Cursor.mk (some names) attributes).hasRows = true := by
    cases names with
    | nil => exact absurd rfl named
    | cons first others => rfl
  cases course with
  | refused refuses =>
      rw [executes] at refuses
      cases refuses
  | unfetched executesToo shows fails =>
      rw [executes] at executesToo
      cases executesToo
      rw [fetches] at fails
      cases fails
  | unreadable executesToo shows fetchesToo reads fails =>
      rw [executes] at executesToo
      cases executesToo
      rw [fetches] at fetchesToo
      cases fetchesToo
      refine ⟨rfl, .unread rfl (fun other member fields sequence => ?_) fails fun fields sequence =>
        unfit_of_unread named fails sequence⟩
      obtain ⟨table, read⟩ := reads other member
      exact fits_of_read named read sequence
  | rows executesToo shows fetchesToo reads =>
      rw [executes] at executesToo
      cases executesToo
      rw [fetches] at fetchesToo
      cases fetchesToo
      refine ⟨rfl, .read (reads.imp fun row entries read => ⟨read, fun fields sequence => ?_⟩)⟩
      exact ⟨fits_of_read named read sequence, tabulates_of_read named read sequence⟩
  | status executesToo hides =>
      rw [executes] at executesToo
      cases executesToo
      rw [shown] at hides
      cases hides

/-- Fetched rows come to tables under the names of the columns, or fail to, unless the cursor
cannot be closed. -/
theorem execute_rowsUnder {id : LeaseId} {params : List Value} {world : World σ}
    (isOpen : (world.lease id).isOpen = true)
    (opens : driver.openCursor world.collaborators = (.ok (), opened))
    (executes : driver.execute sql (if params.isEmpty then none else some params) opened =
      (.ok ⟨some names, attributes⟩, executed))
    (named : names ≠ []) (fetches : driver.fetch executed = (.ok rows, worked)) :
    ∃ answer closing after, RowsUnder names rows answer ∧
      Closing worked driver.closeCursor closing after ∧
        (execute driver id sql params world).outcome = closing.bind fun _closed => answer := by
  obtain ⟨work, left, closing, after, course, closes, runs⟩ :=
    execute_course driver id sql params world isOpen opens
  obtain ⟨rfl, under⟩ := course.rowsUnder executes named fetches
  exact ⟨work, closing, after, under, closes, by rw [runs]⟩

end Columns

def joinedIds : List Rehearsal.Line :=
  [⟨"SELECT", [⟨none, none, some ["id", "id"], [.tuple [.int 1, .int 2]], []⟩]⟩]

def joiningWorld : World Rehearsal.Stage :=
  Rehearsal.quietWorld .plain joinedIds [⟨true, false, []⟩]

def joiningDriver : Driver Rehearsal.Stage :=
  Rehearsal.driver (Rehearsal.willing joinedIds)

def joined : Rehearsal.Stage :=
  { joiningWorld.collaborators with uses := [1], rows := [.tuple [.int 1, .int 2]] }

theorem joined_ids_rowsUnder :
    (joiningWorld.lease 0).isOpen = true ∧
      joiningDriver.openCursor joiningWorld.collaborators = (.ok (), joiningWorld.collaborators) ∧
      joiningDriver.execute "SELECT u.id, p.id FROM u JOIN p" none joiningWorld.collaborators =
        (.ok ⟨some ["id", "id"], []⟩, joined) ∧
      joiningDriver.fetch joined = (.ok [.tuple [.int 1, .int 2]], joined) ∧
      ∃ answer closing after, RowsUnder ["id", "id"] [.tuple [.int 1, .int 2]] answer ∧
        Closing joined joiningDriver.closeCursor closing after ∧
          (execute joiningDriver 0 "SELECT u.id, p.id FROM u JOIN p" [] joiningWorld).outcome =
            closing.bind fun _closed => answer :=
  ⟨rfl, rfl, rfl, rfl, execute_rowsUnder rfl rfl rfl nofun rfl⟩

/-- Of the two fields only the last one is left. -/
theorem joined_ids_lose_field :
    ∃ entries : Entries,
      (execute joiningDriver 0 "SELECT u.id, p.id FROM u JOIN p" [] joiningWorld).outcome =
          .ok (.list [.table false entries]) ∧
        entries.length = 1 ∧ entries.map (·.2) ≠ [.int 1, .int 2] :=
  ⟨[(.text "id", .int 2)], rfl, rfl, nofun⟩

end Lease

/-! ### Summaries -/

namespace ChangeSummary

variable (cursor : Cursor)

private theorem ofResponse_status_eq :
    ofResponse (Lease.status cursor) =
      ofCounts (cursor.attributeOr "rowcount" (.int 0)) (cursor.attributeOr "changed_rows" .null)
        (cursor.attributeOr "lastrowid" .null) := by
  unfold Lease.status
  generalize cursor.attributeOr "changed_rows" .null = changed
  cases changed <;> rfl

/-- The summary of a status is that of the cursor, if the cursor itself does not show anything
under the names that a status has. -/
theorem ofResponse_status (affected : cursor.toValue.attribute? "affected_rows" = none)
    (inserted : cursor.toValue.attribute? "insert_id" = none) :
    ofResponse (Lease.status cursor) = ofResponse cursor.toValue := by
  rw [ofResponse_status_eq]
  unfold Cursor.toValue at affected inserted ⊢
  unfold ofResponse
  dsimp only
  rw [attributeOr, attributeOr, affected, inserted, Option.none_or, Option.none_or]
  rfl

/-- A cursor whose number of rows is no number. -/
def uncounted : Cursor :=
  ⟨none, [("rowcount", .text "three"), ("changed_rows", .null), ("lastrowid", .float .nan)]⟩

theorem ofResponse_uncounted_status :
    uncounted.toValue.attribute? "affected_rows" = none ∧
      uncounted.toValue.attribute? "insert_id" = none ∧
        ofResponse (Lease.status uncounted) = ofResponse uncounted.toValue ∧
          ofResponse uncounted.toValue = .error (.notAnInteger "'three'") :=
  ⟨rfl, rfl, ofResponse_status uncounted rfl rfl, rfl⟩

end ChangeSummary
end PooledQuery
