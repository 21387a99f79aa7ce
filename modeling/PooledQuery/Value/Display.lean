/-
Texts of values.

A value has a plain text and a display.  They differ for texts, which the display quotes,
and for the kinds that the display names; inside a collection every item is displayed.
-/
import PooledQuery.Value.Basic
import PooledQuery.Number.Writing

namespace PooledQuery

namespace Number

def text : Number → Text
  | .bool b => if b then "True" else "False"
  | .int n => Text.ofInt n
  | .float x => x.text
  | .decimal d => d.text

def display : Number → Text
  | .decimal d => "Decimal('" ++ d.text ++ "')"
  | n => n.text

end Number

namespace Value

def listed (parts : List Text) : Text :=
  Text.joined ", " parts

def numbersListed (numbers : List Nat) : Text :=
  listed (numbers.map Text.ofNat)

def durationDisplay (duration : Duration) : Text :=
  let parts : List Text :=
    (if duration.days = 0 then [] else ["days=" ++ Text.ofInt duration.days]) ++
    (if duration.seconds = 0 then [] else ["seconds=" ++ Text.ofNat duration.seconds]) ++
    (if duration.microseconds = 0 then [] else ["microseconds=" ++ Text.ofNat duration.microseconds])
  "datetime.timedelta(" ++ (if parts.isEmpty then "0" else listed parts : Text) ++ ")"

def offsetDisplay (minutes : Int) : Text :=
  if minutes = 0 then "datetime.timezone.utc"
  else
    let seconds := minutes * 60
    "datetime.timezone(" ++
      durationDisplay ⟨seconds / 86400, (seconds % 86400).toNat, 0⟩ ++ ")"

/-- The parts of a time of day that a display shows: seconds and microseconds only from
the last one that is not zero. -/
def clockParts (time : ClockTime) : List Nat :=
  if time.microsecond ≠ 0 then [time.hour, time.minute, time.second, time.microsecond]
  else if time.second ≠ 0 then [time.hour, time.minute, time.second]
  else [time.hour, time.minute]

def bytesDisplay (form : ByteForm) (content : List UInt8) : Text :=
  match form with
  | .fixed => Text.quotedBytes false content
  | .mutable => "bytearray(" ++ Text.quotedBytes true content ++ ")"
  | .view => "<memory>"

/-- A displayed collection between its brackets; a tuple of one item ends with a comma. -/
def tupleDisplay (items : List Text) : Text :=
  match items with
  | [item] => "(" ++ item ++ ",)"
  | _ => "(" ++ listed items ++ ")"

def setDisplay (frozen : Bool) (items : List Text) : Text :=
  let braces : Text := "\x7b" ++ listed items ++ "\x7d"
  if frozen then
    if items.isEmpty then "frozenset()" else "frozenset(" ++ braces ++ ")"
  else
    if items.isEmpty then "set()" else braces

def tableDisplay (entries : List (Text × Text)) : Text :=
  "\x7b" ++ listed (entries.map fun entry => entry.1 ++ ": " ++ entry.2) ++ "\x7d"

mutual

/-- The display that a value would have if integers were written with any number of digits. -/
def display : Value → Text
  | .null => "None"
  | .number n => n.display
  | .text content => Text.quoted content
  | .bytes form content => bytesDisplay form content
  | .date day => "datetime.date(" ++ numbersListed [day.year, day.month, day.day] ++ ")"
  | .time clock => "datetime.time(" ++ numbersListed (clockParts clock) ++ ")"
  | .moment day clock offset =>
      let zone : List Text :=
        match offset with
        | some minutes => ["tzinfo=" ++ offsetDisplay minutes]
        | none => []
      "datetime.datetime(" ++
        listed (([day.year, day.month, day.day] ++ clockParts clock).map Text.ofNat ++ zone) ++ ")"
  | .duration length => durationDisplay length
  | .uuid identifier => "UUID(" ++ Text.quoted identifier.text ++ ")"
  | .member enumeration name value =>
      "<" ++ enumeration ++ "." ++ name ++ ": " ++ display value ++ ">"
  | .list items => "[" ++ listed (displayItems items) ++ "]"
  | .tuple items => tupleDisplay (displayItems items)
  | .set frozen items => setDisplay frozen (displayItems items)
  | .table view entries =>
      let braces := tableDisplay (displayEntries entries)
      if view then "mappingproxy(" ++ braces ++ ")" else braces
  | .record attributes => "namespace(" ++ listed (displayAttributes attributes) ++ ")"
  | .blank => "<opaque>"

def displayItems : List Value → List Text
  | [] => []
  | item :: rest => display item :: displayItems rest

def displayEntries : List (Value × Value) → List (Text × Text)
  | [] => []
  | (key, value) :: rest => (display key, display value) :: displayEntries rest

def displayAttributes : List (Text × Value) → List Text
  | [] => []
  | (name, value) :: rest =>
      let shown := displayAttributes rest
      if name.isEmpty then shown else (name ++ "=" ++ display value) :: shown

end

/-- The text that a value would have if integers were written with any number of digits. -/
def plainText (value : Value) : Text :=
  match value with
  | .number n => n.text
  | .text content => content
  | .date day => day.iso
  | .time clock => clock.iso
  | .moment day clock offset => momentText " " day clock offset
  | .duration length => length.text
  | .uuid identifier => identifier.text
  | .member enumeration name _ => enumeration ++ "." ++ name
  | .table _ entries => tableDisplay (displayEntries entries)
  | _ => value.display

mutual

/-- Whether an integer with too many digits is shown in the display of a value. -/
def showsOverlong : Value → Bool
  | .int n => Number.isOverlong n
  | .member _ _ named => showsOverlong named
  | .list items => itemsShowOverlong items
  | .tuple items => itemsShowOverlong items
  | .set _ items => itemsShowOverlong items
  | .table _ entries => entriesShowOverlong entries
  | .record attributes => attributesShowOverlong attributes
  | _ => false

def itemsShowOverlong : List Value → Bool
  | [] => false
  | item :: rest => showsOverlong item || itemsShowOverlong rest

def entriesShowOverlong : List (Value × Value) → Bool
  | [] => false
  | (key, value) :: rest => showsOverlong key || showsOverlong value || entriesShowOverlong rest

def attributesShowOverlong : List (Text × Value) → Bool
  | [] => false
  | (name, value) :: rest => (!name.isEmpty && showsOverlong value) || attributesShowOverlong rest

end

def writtenDisplay (value : Value) : Except Failure Text :=
  if value.showsOverlong then .error .integerTooLongToWrite else .ok value.display

/-- The plain text, unless it shows an integer with too many digits; that of a member is its
name alone. -/
def writtenText (value : Value) : Except Failure Text :=
  match value with
  | .member .. => .ok value.plainText
  | _ => if value.showsOverlong then .error .integerTooLongToWrite else .ok value.plainText

end Value
end PooledQuery
