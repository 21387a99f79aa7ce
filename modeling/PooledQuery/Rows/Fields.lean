/-
Fields of rows.

Every entry of every table in the rows, at any depth, is given to a transform: first its
value takes one step of coercion, then the transform answers, and then the entries within
the answer are visited in turn.  The rows that result are written as JSON and read back.
A visit keeps the list of the transform's calls.
-/
import PooledQuery.Rows.Coercion

namespace PooledQuery

/-- A function of the fields of rows.  Its calls are recorded if it is observed. -/
structure Transform where
  observed : Bool
  apply : Text → Value → Except Failure Value

namespace Transform

def identity : Transform := ⟨false, fun _ value => .ok value⟩

end Transform

/-- One call of a transform: the name of the field and the value that was given. -/
abbrev FieldCall := Text × Value

/-- A computation that calls a transform, and keeps its calls with the newest first. -/
abbrev Visit := ExceptT Failure (StateM (List FieldCall))

namespace Visit

def ofExcept {α : Type} (outcome : Except Failure α) : Visit α :=
  ExceptT.mk (pure outcome)

def call (transform : Transform) (name : Text) (value : Value) : Visit Value := do
  modify fun calls => (name, value) :: calls
  ofExcept (transform.apply name value)

def outcome {α : Type} (visit : Visit α) : Except Failure α × List FieldCall :=
  let (result, calls) := visit.run.run []
  (result, calls.reverse)

end Visit

namespace Fields

mutual

/-- Visits the entries within a value; `descend` visits an answer of the transform. -/
def visit (transform : Transform) (descend : Value → Visit Value) : Value → Visit Value
  | .table _ entries => do
      return .table false (Entries.ofPairs (← visitEntries transform descend entries))
  | .list items => do return .list (← visitItems transform descend items)
  | .tuple items => do return .list (← visitItems transform descend items)
  | value => return value

def visitItem (transform : Transform) (descend : Value → Visit Value) : Value → Visit Value
  | .table _ entries => do
      return .table false (Entries.ofPairs (← visitEntries transform descend entries))
  | .list items => do return .list (← visitItems transform descend items)
  | .tuple items => do return .list (← visitItems transform descend items)
  | .set _ items => do return .list (← visitItems transform descend items)
  | .member _ _ named => visit transform descend named
  | value => Visit.ofExcept value.plain

def visitItems (transform : Transform) (descend : Value → Visit Value) :
    List Value → Visit (List Value)
  | [] => return []
  | item :: rest => do
      let first ← visitItem transform descend item
      return first :: (← visitItems transform descend rest)

/-- Visits the entries of a table: each value is coerced, transformed, and visited. -/
def visitEntries (transform : Transform) (descend : Value → Visit Value) :
    List (Value × Value) → Visit (List (Value × Value))
  | [] => return []
  | (key, value) :: rest => do
      let name ← Visit.ofExcept key.writtenText
      let given ← Visit.ofExcept value.plain
      let answer ← Visit.call transform name given
      let visited ← descend answer
      return (.text name, visited) :: (← visitEntries transform descend rest)

end

def visitWithin (transform : Transform) : (limit : Nat) → Value → Visit Value
  | 0, _ => throw .nestingTooDeep
  | limit + 1, value => visit transform (visitWithin transform limit) value

mutual

def nesting : Value → Nat
  | .table _ entries => nestingOfEntries entries + 1
  | .list items => nestingOfItems items
  | .tuple items => nestingOfItems items
  | .set _ items => nestingOfItems items
  | .member _ _ named => nesting named
  | _ => 0

def nestingOfItems : List Value → Nat
  | [] => 0
  | item :: rest => max (nesting item) (nestingOfItems rest)

def nestingOfEntries : List (Value × Value) → Nat
  | [] => 0
  | (_, value) :: rest => max (nesting value) (nestingOfEntries rest)

end

def nestingAllowance : Nat := 500

def normalized (transform : Transform) (rows : List Value) : Visit (List Json) := do
  let limit := nestingOfItems rows + nestingAllowance
  let visited ← visitItems transform (visitWithin transform limit) rows
  return Json.readBackItems (← Visit.ofExcept (Json.ofValues false visited))

def normalizedRows (transform : Transform) (rows : Value) : Visit (List Json) := do
  normalized transform (← Visit.ofExcept rows.elements)

end Fields
end PooledQuery
