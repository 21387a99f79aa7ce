/-
The values that statements are given and rows consist of.

Values are dynamic: a parameter, a field or a driver's answer may be of any of these
kinds.  Besides the kinds themselves this module has what every other module asks of a
value: its type's name, whether it counts as true, and when two keys are the same.
-/
import PooledQuery.Number.Basic
import PooledQuery.Value.Calendar
import PooledQuery.Value.Identifier

namespace PooledQuery

/-- The kinds of byte strings. -/
inductive ByteForm where
  | fixed
  | mutable
  | view
  deriving DecidableEq, Repr

/-- A dynamic value. -/
inductive Value where
  | null
  | number (n : Number)
  | text (content : Text)
  | bytes (form : ByteForm) (content : List UInt8)
  | date (day : Date)
  | time (clock : ClockTime)
  -- A date and a time of day, with a distance from universal time in minutes if known.
  | moment (day : Date) (clock : ClockTime) (offset : Option Int)
  | duration (length : Duration)
  | uuid (identifier : Identifier)
  /-- A member of an enumeration, which is a name for another value.  Members that are texts
  or numbers in their own right, so that coercion leaves them alone, are not expressible. -/
  | member (enumeration name : Text) (value : Value)
  | list (items : List Value)
  | tuple (items : List Value)
  | set (frozen : Bool) (items : List Value)
  -- Entries in insertion order; a view shows a table that it does not own.
  | table (view : Bool) (entries : List (Value × Value))
  | record (attributes : List (Text × Value))
  | blank

namespace Value

@[match_pattern] abbrev bool (b : Bool) : Value := .number (.bool b)

@[match_pattern] abbrev int (n : Int) : Value := .number (.int n)

@[match_pattern] abbrev float (x : Binary64) : Value := .number (.float x)

@[match_pattern] abbrev decimal (d : Decimal) : Value := .number (.decimal d)

instance : Inhabited Value := ⟨.null⟩

instance : Coe Number Value := ⟨.number⟩

def typeName : Value → Text
  | .null => "NoneType"
  | .number n => n.typeName
  | .text _ => "str"
  | .bytes .fixed _ => "bytes"
  | .bytes .mutable _ => "bytearray"
  | .bytes .view _ => "memoryview"
  | .date _ => "datetime.date"
  | .time _ => "datetime.time"
  | .moment .. => "datetime.datetime"
  | .duration _ => "datetime.timedelta"
  | .uuid _ => "UUID"
  | .member enumeration _ _ => enumeration
  | .list _ => "list"
  | .tuple _ => "tuple"
  | .set frozen _ => if frozen then "frozenset" else "set"
  | .table view _ => if view then "mappingproxy" else "dict"
  | .record _ => "types.SimpleNamespace"
  | .blank => "Opaque"

def shortTypeName (value : Value) : Text :=
  match value with
  | .number (.decimal _) => "Decimal"
  | .date _ => "date"
  | .time _ => "time"
  | .moment .. => "datetime"
  | .duration _ => "timedelta"
  | .record _ => "SimpleNamespace"
  | _ => value.typeName

def shownType (value : Value) : Text :=
  match value with
  | .uuid _ => "<class 'uuid.UUID'>"
  | .member enumeration _ _ => "<enum '" ++ enumeration ++ "'>"
  | _ => "<class '" ++ value.typeName ++ "'>"

/-- Whether a value counts as true: zeros, empty texts, empty collections, the empty
duration and the absent value do not. -/
def isTruthy : Value → Bool
  | .null => false
  | .number n => n.isTruthy
  | .text content => !content.isEmpty
  | .bytes _ content => !content.isEmpty
  | .duration length => !length.isZero
  | .list items => !items.isEmpty
  | .tuple items => !items.isEmpty
  | .set _ items => !items.isEmpty
  | .table _ entries => !entries.isEmpty
  | _ => true

def orElse (value other : Value) : Value :=
  if value.isTruthy then value else other

mutual

/-- Whether two keys are the same.  Numbers are the same when their exact values are, so
that a number that is none is never the same as another.  A member of an enumeration is
known by its name there. -/
def sameKey : Value → Value → Bool
  | .null, .null => true
  | .number left, .number right => left.compare? right == some .eq
  | .text left, .text right => left == right
  | .bytes _ left, .bytes _ right => left == right
  | .date left, .date right => left == right
  | .time left, .time right => left == right
  | .moment leftDate leftTime none, .moment rightDate rightTime none =>
      leftDate == rightDate && leftTime == rightTime
  | .moment leftDate leftTime (some left), .moment rightDate rightTime (some right) =>
      momentMicroseconds leftDate leftTime left == momentMicroseconds rightDate rightTime right
  | .duration left, .duration right => left == right
  | .uuid left, .uuid right => left == right
  | .tuple left, .tuple right => sameKeys left right
  | .member left leftName _, .member right rightName _ => left == right && leftName == rightName
  | .set _ left, .set _ right => sameKeys left right
  | _, _ => false

def sameKeys : List Value → List Value → Bool
  | [], [] => true
  | left :: lefts, right :: rights => sameKey left right && sameKeys lefts rights
  | _, _ => false

end

def putAttribute : List (Text × Value) → Text → Value → List (Text × Value)
  | [], name, value => [(name, value)]
  | (otherName, otherValue) :: rest, name, value =>
      if otherName = name then (name, value) :: rest
      else (otherName, otherValue) :: putAttribute rest name value

def attributesOfPairs (pairs : List (Text × Value)) : List (Text × Value) :=
  pairs.foldl (fun attributes pair => putAttribute attributes pair.1 pair.2) []

/-- The value of an attribute, if the value has attributes and this one among them.  A member
of an enumeration has itself under its own name. -/
def attribute? (value : Value) (name : Text) : Option Value :=
  match value with
  | .record attributes => (attributes.find? fun entry => entry.1 == name).map (·.2)
  | .member _ ownName _ => if ownName = name then some value else none
  | _ => none

end Value

abbrev Entries := List (Value × Value)

namespace Entries

def put : Entries → Value → Value → Entries
  | [], key, value => [(key, value)]
  | (otherKey, otherValue) :: rest, key, value =>
      if otherKey.sameKey key then (otherKey, value) :: rest
      else (otherKey, otherValue) :: put rest key value

def ofPairs (pairs : List (Value × Value)) : Entries :=
  pairs.foldl (fun entries pair => put entries pair.1 pair.2) []

def get? (entries : Entries) (key : Value) : Option Value :=
  (entries.find? fun entry => entry.1.sameKey key).map (·.2)

end Entries

namespace Value

/-- The items of a value that can be gone through one by one: of a table its keys, of a
text its characters, of a byte string its bytes. -/
def elements? : Value → Option (List Value)
  | .text content => some (content.map fun point => .text [point])
  | .bytes _ content => some (content.map fun byte => .int byte.toNat)
  | .list items => some items
  | .tuple items => some items
  | .set _ items => some items
  | .table _ entries => some (entries.map (·.1))
  | _ => none

def elements (value : Value) : Except Failure (List Value) :=
  match value.elements? with
  | some items => .ok items
  | none => .error (.notIterable value.typeName)

def orderedType (value : Value) : Text :=
  match value with
  | .table .. => "dict"
  | _ => value.typeName

def ordered (test : OrderTest) (value : Value) : Except Failure Number :=
  match value with
  | .number n => .ok n
  | _ => .error (.unordered test value.orderedType "int")

/-- A value as a number that is not below a bound; a lesser one is the given failure. -/
def notBelow (bound : Int) (failure : Failure) (value : Value) : Except Failure Number := do
  let n ← value.ordered .less
  if ← n.holds .less (.int bound) then throw failure else return n

end Value
end PooledQuery
