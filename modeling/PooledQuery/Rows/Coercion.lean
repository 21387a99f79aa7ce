/-
Reduction of values to JSON.

One step of coercion replaces a value that JSON does not know by a simpler one: dates by
their ISO texts, decimals and identifiers by their texts, byte strings by base64, members
of enumerations by what they name, sets by lists.  Serialisation repeats that step as
long as it is needed.
-/
import PooledQuery.Rows.Base64
import PooledQuery.Rows.Json

namespace PooledQuery

namespace Value

def coerced (value : Value) : Except Failure Value :=
  match value with
  | .date day => .ok (.text day.iso)
  | .time clock => .ok (.text clock.iso)
  | .moment day clock offset => .ok (.text (momentText "T" day clock offset))
  | .decimal d => .ok (.text d.text)
  | .uuid identifier => .ok (.text identifier.text)
  | .member _ _ named => .ok named
  | .bytes _ content => .ok (.text (Base64.encode content))
  | .set _ items => .ok (.list items)
  | _ => .error (.notSerializable value.shortTypeName)

/-- A value as a transform sees it: a view becomes a table of its own, and a value that
JSON does not know takes one step of coercion. -/
def plain (value : Value) : Except Failure Value :=
  match value with
  | .null => .ok value
  | .text _ => .ok value
  | .number (.decimal _) => value.coerced
  | .number _ => .ok value
  | .list _ => .ok value
  | .tuple _ => .ok value
  | .table _ entries => .ok (.table false entries)
  | _ => value.coerced

def fieldName (key : Value) : Except Failure Text :=
  match key with
  | .text content => .ok content
  | .float x => .ok (Json.writtenFloat x)
  | .bool b => .ok (if b then "true" else "false")
  | .null => .ok "null"
  | .int n => Number.integerText n
  | _ => .error (.unserializableKey key.typeName)

end Value

namespace Json

mutual

/-- The JSON value as which a value is written.  A strict serialisation knows no coercion;
the other one coerces what JSON does not know.  Keys that are not the same may give fields
of one name, and all of these are written. -/
def ofValue (strict : Bool) : Value → Except Failure Json
  | .null => .ok .null
  | .bool b => .ok (.bool b)
  | .int n => if Number.isOverlong n then .error .integerTooLongToWrite else .ok (.int n)
  | .float x => .ok (.float x)
  | .text content => .ok (.text content)
  | .list items => do return .list (← ofValues strict items)
  | .tuple items => do return .list (← ofValues strict items)
  | .table false entries => do return .object (← ofEntries strict entries)
  | .set frozen items =>
      if strict then .error (.notSerializable (Value.set frozen items).shortTypeName)
      else do return .list (← ofValues strict items)
  | .member enumeration _ named =>
      if strict then .error (.notSerializable enumeration)
      else ofValue strict named
  | value =>
      if strict then .error (.notSerializable value.shortTypeName)
      else do
        match ← value.coerced with
        | .text content => return .text content
        | _ => .error (.notSerializable value.shortTypeName)

def ofValues (strict : Bool) : List Value → Except Failure (List Json)
  | [] => .ok []
  | item :: rest => do
      let first ← ofValue strict item
      return first :: (← ofValues strict rest)

def ofEntries (strict : Bool) : List (Value × Value) → Except Failure (List (Text × Json))
  | [] => .ok []
  | (key, value) :: rest => do
      let name ← key.fieldName
      let json ← ofValue strict value
      return (name, json) :: (← ofEntries strict rest)

end

end Json
end PooledQuery
