/-
Work on a borrowed connection.

A lease passes transactions and statements on to the driver as long as it is open.  Giving
the connection back closes the lease first, so that nothing reaches the connection
afterwards, whatever becomes of the call.
-/
import PooledQuery.Session.World
import PooledQuery.Statement.Dialect

namespace PooledQuery

namespace Lease

variable {σ : Type}

def requireOpen (id : LeaseId) : Action (World σ) Unit := do
  unless ((← Action.read).lease id).isOpen do
    Action.fail .connectionClosed

/-- The name of the dialect that begins transactions by a statement, in lower case.  It has
no letter that is the lower-case form of a letter beyond ASCII. -/
def statementBeginner : Text := "sqlite"

/-- Whether a transaction has to be begun by a statement: the dialect asks for it, the
connection has no isolation level, and it is in no transaction. -/
def beginsByStatement (driver : Driver σ) (dialect : Dialect) : Bool :=
  let level := driver.isolationLevel.getD .null
  let active := driver.inTransaction.getD (.bool false)
  Text.asciiLower dialect.name == statementBeginner &&
    (match level with
      | .null => true
      | _ => false) &&
    !active.isTruthy

def begin (driver : Driver σ) (dialect : Dialect) (id : LeaseId) : Action (World σ) Unit := do
  requireOpen id
  unless ← World.callIfPresent .begin driver.begin do
    unless ← World.callIfPresent .beginTransaction driver.beginTransaction do
      if beginsByStatement driver dialect then
        World.call (.direct "BEGIN") (driver.direct "BEGIN")

def commit (driver : Driver σ) (id : LeaseId) : Action (World σ) Unit := do
  requireOpen id
  World.call .commit driver.commit

def rollback (driver : Driver σ) (id : LeaseId) : Action (World σ) Unit := do
  requireOpen id
  World.call .rollback driver.rollback

def pair? (item : Value) : Option (Value × Value) :=
  match item.elements? with
  | some [key, value] => some (key, value)
  | _ => none

def isKey : Value → Bool
  | .list _ => false
  | .set false _ => false
  | .table _ _ => false
  | .bytes .mutable _ => false
  | _ => true

def tableOfPairs? (row : Value) : Option Value := do
  let pairs ← (← row.elements?).mapM pair?
  if pairs.all fun entry => isKey entry.1 then
    return .table false (Entries.ofPairs pairs)
  else none

def tableOfFields (columns : Option (List Text)) (fields : List Value) : Except Failure Value :=
  match columns with
  | none => .error .rowWithoutColumns
  | some [] => .error .rowWithoutColumns
  | some names =>
      if fields.length < names.length then .error (.rowLength true)
      else if names.length < fields.length then .error (.rowLength false)
      else .ok (.table false (Entries.ofPairs ((names.map Value.text).zip fields)))

def tableOfRow (columns : Option (List Text)) (row : Value) : Except Failure Value :=
  match row with
  | .table _ entries => .ok (.table false entries)
  | .list fields => tableOfFields columns fields
  | .tuple fields => tableOfFields columns fields
  | _ =>
      match tableOfPairs? row with
      | some table => .ok table
      | none => .error (.unsupportedRow row.shownType)

def status (cursor : Cursor) : Value :=
  let changed : Entries :=
    match cursor.attributeOr "changed_rows" .null with
    | .null => []
    | value => [(.text "changed_rows", value)]
  .table false ([(.text "affected_rows", cursor.attributeOr "rowcount" (.int 0)),
    (.text "insert_id", cursor.attributeOr "lastrowid" .null)] ++ changed)

def executeOnCursor (driver : Driver σ) (sql : Text) (params : List Value) :
    Action (World σ) Value := do
  let given := if params.isEmpty then none else some params
  let cursor ← World.call (.execute sql given) (driver.execute sql given)
  if cursor.hasRows then
    let rows ← World.perform driver.fetch
    return .list (← Action.ofExcept (rows.mapM (tableOfRow cursor.columns)))
  else
    return status cursor

/-- Executes a statement and gives the driver's answer: a list of tables, or a status.
The cursor is closed in any case. -/
def execute (driver : Driver σ) (id : LeaseId) (sql : Text) (params : List Value) :
    Action (World σ) Value := do
  requireOpen id
  World.perform driver.openCursor
  Action.thenAlways (executeOnCursor driver sql params) do
    let _ ← World.callIfPresent .close driver.closeCursor

/-- Gives the connection back, to the pool or to itself.  A lease that is closed has
nothing to give back. -/
def release (pool : Pool σ) (driver : Driver σ) (id : LeaseId) : Action (World σ) Unit := do
  if ((← Action.read).lease id).isOpen then
    World.updateLease id fun lease => { lease with isOpen := false }
    unless ← World.callIfPresent .release pool.release do
      unless ← World.callIfPresent .selfRelease driver.release do
        Action.fail .noReleaseRoute

end Lease
end PooledQuery
