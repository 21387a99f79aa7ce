/-
Reading numbers from texts.

An integer is a sign and decimal digits of any script, with single underscores between
digits and white space around.  A binary64 number may also have a point and an exponent
mark, or be one of the words for infinity and for no number.
-/
import PooledQuery.Number.Writing
import PooledQuery.Text.Words

namespace PooledQuery.Number

/-- White space around a number: that of texts, except the separators U+001C to U+001F. -/
def isMargin (point : CodePoint) : Bool :=
  point.isBlank && !(28 ≤ point.value && point.value ≤ 31)

def withoutMargins (text : Text) : Text :=
  ((text.dropWhile isMargin).reverse.dropWhile isMargin).reverse

def signSplit : Text → Bool × Text
  | .char '-' :: rest => (true, rest)
  | .char '+' :: rest => (false, rest)
  | text => (false, text)

/-- A number that is being read: its value and how many digits it has so far. -/
structure DigitRun where
  value : Nat
  count : Nat

namespace DigitRun

def empty : DigitRun := ⟨0, 0⟩

def push (run : DigitRun) (digit : Nat) : DigitRun :=
  ⟨run.value * 10 + digit, run.count + 1⟩

end DigitRun

def digitsFrom (run : DigitRun) : Text → DigitRun × Text
  | [] => (run, [])
  | [point] =>
      match point.digit? with
      | some digit => (run.push digit, [])
      | none => (run, [point])
  | first :: second :: rest =>
      match first.digit?, second.digit? with
      | some digit, _ => digitsFrom (run.push digit) (second :: rest)
      | none, some digit =>
          if first = .char '_' ∧ run.count ≠ 0 then digitsFrom (run.push digit) rest
          else (run, first :: second :: rest)
      | none, none => (run, first :: second :: rest)

/-- Reads an integer; `shown` is the text's display in a failure.  An underscore that no
digit follows is noticed before there are too many digits, and anything else after them. -/
def readInteger (shown : Text) (text : Text) : Except Failure Int :=
  let (negative, unsigned) := signSplit (withoutMargins text)
  let (run, rest) := digitsFrom .empty unsigned
  if rest.head? = some (.char '_') then .error (.notAnInteger shown)
  else if digitLimit < run.count then .error (.integerTooLong run.count)
  else if run.count = 0 ∨ rest ≠ [] then .error (.notAnInteger shown)
  else .ok (if negative then -(run.value : Int) else run.value)

def placesFrom (whole : DigitRun) (text : Text) : DigitRun × Text :=
  let (places, rest) := digitsFrom .empty text
  (⟨whole.value * Nat.pow 10 places.count + places.value, whole.count + places.count⟩, rest)

def exponent? : Text → Option Int
  | [] => some 0
  | mark :: rest =>
      if mark = .char 'e' ∨ mark = .char 'E' then
        let (negative, unsigned) := signSplit rest
        match digitsFrom .empty unsigned with
        | (run, []) =>
            if run.count = 0 then none
            else some (if negative then -(run.value : Int) else run.value)
        | _ => none
      else none

def float? (text : Text) : Option Binary64 :=
  let (negative, unsigned) := signSplit (withoutMargins text)
  let lower := Text.asciiLower unsigned
  if lower = "inf" ∨ lower = "infinity" then some (.infinite negative)
  else if lower = "nan" then some .nan
  else
    let (whole, afterWhole) := digitsFrom .empty unsigned
    let (all, afterAll) := match afterWhole with
      | .char '.' :: rest => placesFrom whole rest
      | rest => (whole, rest)
    if all.count = 0 then none
    else (exponent? afterAll).map fun exponent =>
      .ofScientific negative all.value (exponent - ((all.count - whole.count : Nat) : Int))

def readFloat (text : Text) : Except Failure Binary64 :=
  match float? text with
  | some x => .ok x
  | none => .error (.notAFloat (Text.quoted text))

end PooledQuery.Number
