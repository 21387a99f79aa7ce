/-
Pages and slices of a result.

A page has a number from zero on and a limit; a slice is one of several equal parts.  Both
are read by a statement for the range of their rows and a statement for the total.
-/
import PooledQuery.Rows.Outcome
import PooledQuery.Statement.Dialect
import PooledQuery.Value.Arithmetic

namespace PooledQuery

/-- The page that is asked for: a page number alone, or with a limit of its own. -/
inductive PageRequest where
  | number (page : Value)
  | limited (page limit : Value)

namespace PageRequest

/-- The page number and the limit.  A number that stands alone is read as an integer, and
a limit that does not count as true is replaced by the default. -/
def resolve (request : PageRequest) (defaultLimit : Value) : Except Failure (Value × Number) := do
  match request with
  | .number page =>
      let index ← page.toInteger
      return (.int index, ← defaultLimit.notBelow 1 .limitBelowOne)
  | .limited page limit =>
      return (page, ← (limit.orElse defaultLimit).notBelow 1 .limitBelowOne)

end PageRequest

namespace Paging

def offset (page size : Value) : Except Failure Value := do
  let index ← page.ordered .atMost
  if ← index.holds .atMost (.int 0) then return .int 0 else index.times size

def parts (total size : Value) : Except Failure Int :=
  total.quotientCeiling size

def lastPage (total size : Value) : Except Failure Int := do
  return (← parts total size) - 1

/-- A statement bounded to a range of rows; the clause takes an offset and a limit. -/
def rangeStatement (sql : Text) (dialect : Option Dialect) : Except Failure Text := do
  return sql ++ "\n" ++ (← Dialect.rangeClauseOf dialect)

def countStatement (sql : Text) : Text :=
  "SELECT COUNT(1) AS total FROM (\n" ++ sql ++ "\n) A"

def total (outcome : Outcome) : Except Failure Int :=
  match outcome.toRows with
  | [] => .ok 0
  | row :: _ =>
      match row.field? "total" with
      | some count => count.toValue.toInteger
      | none => .error (.missingColumn (Text.quoted "total"))

end Paging

structure Page where
  total : Int
  lastPage : Int
  limit : Number
  page : Value
  items : List Json

/-- One of `count` equal parts of a result. -/
structure Slice where
  index : Value
  count : Number

namespace Slice

def make (index count : Value) : Except Failure Slice := do
  return ⟨index, ← count.notBelow 1 .partitionCountBelowOne⟩

end Slice

structure SlicePage extends Page where
  index : Value

namespace SlicePage

def empty : SlicePage := ⟨⟨0, 0, .int 0, .int 0, []⟩, .int 0⟩

end SlicePage
end PooledQuery
