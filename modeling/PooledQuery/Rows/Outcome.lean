/-
Outcomes of statements.

A statement yields rows or a summary of the change that it made.  The summary is read from
a driver's answer: a table with `affected_rows`, `changed_rows` and `insert_id`, or an
object with these attributes or with `rowcount` and `lastrowid`.
-/
import PooledQuery.Rows.Fields
import PooledQuery.Value.Integer

namespace PooledQuery

/-- What a statement without rows has changed. -/
structure ChangeSummary where
  affected : Int
  changed : Int
  insertId : Value

namespace ChangeSummary

/-- The integer that a count stands for; a count that does not count as true is zero. -/
def count (value : Value) : Except Failure Int :=
  (value.orElse (.int 0)).toInteger

def ofCounts (affected changed insertId : Value) : Except Failure ChangeSummary := do
  let affectedCount ← count affected
  let changedCount ← count changed
  return ⟨affectedCount, changedCount, insertId⟩

def attributeOr (response : Value) (name otherName : Text) (default : Value) : Value :=
  ((response.attribute? name).or (response.attribute? otherName)).getD default

def ofResponse (response : Value) : Except Failure ChangeSummary :=
  match response with
  | .table _ entries =>
      let entry (name : Text) (default : Value) : Value := (Entries.get? entries (.text name)).getD default
      ofCounts (entry "affected_rows" (.int 0)) (entry "changed_rows" .null) (entry "insert_id" .null)
  | _ =>
      ofCounts (attributeOr response "affected_rows" "rowcount" (.int 0))
        ((response.attribute? "changed_rows").getD .null)
        (attributeOr response "insert_id" "lastrowid" .null)

mutual

/-- What kind of value without a duplicate lies within a value, if any does. -/
def uncopyable? : Value → Option Text
  | .bytes .view _ => some "memoryview objects"
  | .table true _ => some "'mappingproxy' object"
  | .table false entries => uncopyableInTable? entries
  | .list items => uncopyableItem? items
  | .tuple items => uncopyableItem? items
  | .set _ items => uncopyableItem? items
  | .record attributes => uncopyableAttribute? attributes
  | _ => none

def uncopyableItem? : List Value → Option Text
  | [] => none
  | item :: rest => (uncopyable? item).or (uncopyableItem? rest)

def uncopyableInTable? : List (Value × Value) → Option Text
  | [] => none
  | (key, value) :: rest => ((uncopyable? key).or (uncopyable? value)).or (uncopyableInTable? rest)

def uncopyableAttribute? : List (Text × Value) → Option Text
  | [] => none
  | (_, value) :: rest => (uncopyable? value).or (uncopyableAttribute? rest)

end

def countTexts (summary : ChangeSummary) : Except Failure (Text × Text) := do
  return (← Number.integerText summary.affected, ← Number.integerText summary.changed)

def written (summary : ChangeSummary) : Except Failure Text := do
  match uncopyable? summary.insertId with
  | some described => throw (.notCopyable described)
  | none =>
      let _ ← summary.countTexts
      let insertId ← Json.ofValue true summary.insertId
      return (Json.object [("affected_rows", .int summary.affected),
        ("changed_rows", .int summary.changed), ("insert_id", insertId)]).written

def display (summary : ChangeSummary) : Except Failure Text := do
  let (affected, changed) ← summary.countTexts
  return "MutationSummary(affected_rows=" ++ affected ++ ", changed_rows=" ++ changed ++
    ", insert_id=" ++ (← summary.insertId.writtenDisplay) ++ ")"

end ChangeSummary

/-- What a statement yields. -/
inductive Outcome where
  | rows (items : List Json)
  | change (summary : ChangeSummary)

namespace Outcome

instance : Inhabited Outcome := ⟨.rows []⟩

def toRows : Outcome → List Json
  | .rows items => items
  | .change _ => []

/-- The outcome of a driver's answer: a list of rows is normalized, anything else
summarised. -/
def ofResponse (transform : Transform) (response : Value) : Visit Outcome :=
  match response with
  | .list items => do return .rows (← Fields.normalized transform items)
  | _ => do return .change (← Visit.ofExcept (ChangeSummary.ofResponse response))

def written : Outcome → Except Failure Text
  | .rows items => .ok (Json.list items).written
  | .change summary => summary.written

def display : Outcome → Except Failure Text
  | .rows items => .ok (Json.list items).toValue.display
  | .change summary => summary.display

end Outcome
end PooledQuery
