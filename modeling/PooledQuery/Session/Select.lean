/-
Selections: a single row, a page, a slice.

A page is read by its range statement and then its counting statement, outside a
transaction.  A slice is read within one, by the counting statement and then, unless there
are no rows, the range statement.
-/
import PooledQuery.Outline.Select
import PooledQuery.Paging
import PooledQuery.Session.Run

namespace PooledQuery

/-- The first row of a selection, nothing if it has none, or the change that was made
instead. -/
inductive FirstRow where
  | row (row : Option Json)
  | change (summary : ChangeSummary)

namespace FirstRow

def ofOutcome : Outcome → FirstRow
  | .rows items => .row items.head?
  | .change summary => .change summary

end FirstRow

namespace Paging

/-- Reads a page: the rows of its range, then the total. -/
def pageBody (dialect : Dialect) (sql : Text) (params : List Value) (page : Value)
    (limit : Number) (offset : Value) : Body Page := do
  let range ← Body.ofExcept (rangeStatement sql dialect)
  let rows ← Body.ask range (params ++ [offset, .number limit])
  let counted ← Body.ask (countStatement sql) params
  let all ← Body.ofExcept (total counted)
  let last ← Body.ofExcept (lastPage (.int all) (.number limit))
  return ⟨all, last, limit, page, rows.toRows⟩

/-- Reads a slice: the total, then the rows of its range if there are any. -/
def sliceBody (dialect : Dialect) (sql : Text) (params : List Value) (slice : Slice) :
    Body SlicePage := do
  let counted ← Body.ask (countStatement sql) params
  let all ← Body.ofExcept (total counted)
  if all = 0 then
    return .empty
  else
    let size ← Body.ofExcept (parts (.int all) (.number slice.count))
    let before ← Body.ofExcept (offset slice.index (.int size))
    let range ← Body.ofExcept (rangeStatement sql dialect)
    let rows ← Body.ask range (params ++ [before, .int size])
    let last ← Body.ofExcept (lastPage (.int all) (.int size))
    return ⟨⟨all, last, .int size, slice.index, rows.toRows⟩, slice.index⟩

end Paging

namespace Session

variable {σ : Type} (session : Session σ)

def selectFirst (sql : Text) (params : List Value) : Action (World σ) FirstRow := do
  return FirstRow.ofOutcome (← session.single sql params)

def selectRows (sql : Text) (params : List Value) : Action (World σ) (List Json) := do
  match ← session.single sql params with
  | .rows items => return items
  | .change _ => Action.fail .noRowSet

def logPageFailure (page : Value) (limit : Number) (failure : Failure) :
    Action (World σ) Unit := do
  if failure.isOrdinary ∧ (← Action.read).settings.echo ≠ .silent then
    session.log .pages .error (.pageFailed page limit) (some failure)

def selectPage (sql : Text) (request : PageRequest) (params : List Value) :
    Action (World σ) Page := do
  let defaultLimit := (← Action.read).settings.defaultLimit
  let (page, limit) ← Action.ofExcept (request.resolve (.number defaultLimit))
  let offset ← Action.ofExcept (Paging.offset page (.number limit))
  let body := Paging.pageBody session.dialect sql params page limit offset
  match ← Action.attempt (session.runBody false body) with
  | .ok found => return found
  | .error failure =>
      session.logPageFailure page limit failure
      Action.fail failure

def selectSlice (sql : Text) (slice : Slice) (params : List Value) :
    Action (World σ) SlicePage :=
  session.runBody true (Paging.sliceBody session.dialect sql params slice)

end Session
end PooledQuery
