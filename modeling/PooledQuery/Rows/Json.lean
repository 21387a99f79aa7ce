/-
JSON values.

Rows leave the library as JSON values, in which integers and binary64 numbers stay apart
and the fields of an object keep their order.  A JSON value is written with ASCII only, and
every field is written; a name that recurs becomes one field when the text is read back.
-/
import PooledQuery.Value.Display

namespace PooledQuery

inductive Json where
  | null
  | bool (b : Bool)
  | int (n : Int)
  | float (x : Binary64)
  | text (content : Text)
  | list (items : List Json)
  | object (fields : List (Text × Json))

namespace Json

instance : Inhabited Json := ⟨.null⟩

/-- Sets the value of a field: a field that is there keeps its place. -/
def put : List (Text × Json) → Text → Json → List (Text × Json)
  | [], key, value => [(key, value)]
  | (otherKey, otherValue) :: rest, key, value =>
      if otherKey = key then (key, value) :: rest
      else (otherKey, otherValue) :: put rest key value

/-- The fields that arise when pairs are put one after the other. -/
def fieldsOfPairs (pairs : List (Text × Json)) : List (Text × Json) :=
  pairs.foldl (fun fields pair => put fields pair.1 pair.2) []

def field? (json : Json) (key : Text) : Option Json :=
  match json with
  | .object fields => (fields.find? fun entry => entry.1 == key).map (·.2)
  | _ => none

mutual

def toValue : Json → Value
  | .null => .null
  | .bool b => .bool b
  | .int n => .int n
  | .float x => .float x
  | .text content => .text content
  | .list items => .list (toValues items)
  | .object fields => .table false (toEntries fields)

def toValues : List Json → List Value
  | [] => []
  | item :: rest => item.toValue :: toValues rest

def toEntries : List (Text × Json) → Entries
  | [] => []
  | (key, value) :: rest => (.text key, value.toValue) :: toEntries rest

end

mutual

/-- What a JSON value becomes when it is written and read back: surrogate pairs in texts
become characters, and of several fields of one name the last value takes the first
place. -/
def readBack : Json → Json
  | .text content => .text content.pairsJoined
  | .list items => .list (readBackItems items)
  | .object fields => .object (fieldsOfPairs (readBackFields fields))
  | json => json

def readBackItems : List Json → List Json
  | [] => []
  | item :: rest => item.readBack :: readBackItems rest

/-- The fields of an object as they are read back, one after the other. -/
def readBackFields : List (Text × Json) → List (Text × Json)
  | [] => []
  | (key, value) :: rest => (key.pairsJoined, value.readBack) :: readBackFields rest

end

def unitEscape (unit : Nat) : Text :=
  "\\u" ++ Text.paddedHex 4 unit

/-- A code point as it stands in a written text: control characters and everything beyond
ASCII are escaped, the latter as UTF-16 units. -/
def escaped (point : CodePoint) : Text :=
  let n := point.value
  if point = .char Text.doubleQuote ∨ point = .char '\\' then [.char '\\', point]
  else if point = .char '\n' then "\\n"
  else if point = .char '\r' then "\\r"
  else if point = .char '\t' then "\\t"
  else if point = .char '\x08' then "\\b"
  else if point = .char '\x0c' then "\\f"
  else if 32 ≤ n ∧ n < 127 then [point]
  else if n < 0x10000 then unitEscape n
  else unitEscape (0xD800 + (n - 0x10000) / 0x400) ++ unitEscape (0xDC00 + (n - 0x10000) % 0x400)

def writtenText (content : Text) : Text :=
  .char Text.doubleQuote :: content.flatMap escaped ++ [.char Text.doubleQuote]

def writtenFloat : Binary64 → Text
  | .nan => "NaN"
  | .infinite negative => if negative then "-Infinity" else "Infinity"
  | x => x.text

mutual

def written : Json → Text
  | .null => "null"
  | .bool b => if b then "true" else "false"
  | .int n => Text.ofInt n
  | .float x => writtenFloat x
  | .text content => writtenText content
  | .list items => "[" ++ Text.joined ", " (writtenItems items) ++ "]"
  | .object fields => "\x7b" ++ Text.joined ", " (writtenFields fields) ++ "\x7d"

def writtenItems : List Json → List Text
  | [] => []
  | item :: rest => item.written :: writtenItems rest

def writtenFields : List (Text × Json) → List Text
  | [] => []
  | (key, value) :: rest => (writtenText key ++ ": " ++ value.written) :: writtenFields rest

end

end Json
end PooledQuery
