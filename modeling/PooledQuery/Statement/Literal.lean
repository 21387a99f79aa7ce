/-
Values as SQL literals.

Texts stand between single quotes with a backslash before every character that would end
or change them; the bytes of a byte string that are not ASCII become surrogates.
Sequences and sets are parenthesised lists.  A value of any other kind is the literal of
its plain text; a table has no literal, and neither has a float that is not finite.
-/
import PooledQuery.Value.Display

namespace PooledQuery

namespace Literal

def escaped (point : CodePoint) : Text :=
  if point = .char '\x00' then "\\0"
  else if point = .char '\\' then "\\\\"
  else if point = .char '\n' then "\\n"
  else if point = .char '\r' then "\\r"
  else if point = .char '\x1a' then "\\Z"
  else if point = .char Text.doubleQuote then [.char '\\', .char Text.doubleQuote]
  else if point = .char Text.singleQuote then [.char '\\', .char Text.singleQuote]
  else [point]

/-- A text between single quotes, as it is. -/
def enclosed (text : Text) : Text :=
  .char Text.singleQuote :: text ++ [.char Text.singleQuote]

def quoted (text : Text) : Text :=
  enclosed (text.flatMap escaped)

/-- The literal of a duration: its hours, with those of its days, its minutes and its
seconds. -/
def ofDuration (duration : Duration) : Text :=
  let hours :=
    if duration.hours < 0 then Text.ofInt duration.hours
    else Text.padded 2 duration.hours.natAbs
  enclosed (hours ++ ":" ++ Text.padded 2 (duration.seconds / 60 % 60) ++ ":" ++
    Text.padded 2 (duration.seconds % 60) ++ fractionText duration.microseconds)

/-- The literal of a binary64 number always has an exponent mark. -/
def ofFloat (x : Binary64) : Except Failure Text :=
  match x with
  | .finite .. =>
      let digits := x.text
      .ok (if digits.contains (.char 'e') then digits else digits ++ "e0")
  | _ => .error (.notFinite x.text)

def ofNumber : Number → Except Failure Text
  | .bool b => .ok (if b then "1" else "0")
  | .int n => Number.integerText n
  | .float x => ofFloat x
  | .decimal d => .ok d.plainText

def sequence (items : List Text) : Text :=
  "(" ++ Text.joined "," items ++ ")"

mutual

def ofValue : Value → Except Failure Text
  | .null => .ok "NULL"
  | .number n => ofNumber n
  | .text content => .ok (quoted content)
  | .bytes .fixed content => .ok (quoted (content.map CodePoint.ofByte))
  | .date day => .ok (enclosed day.iso)
  | .time clock => .ok (enclosed clock.iso)
  | .moment day clock _ => .ok (enclosed (momentText " " day clock none))
  | .duration length => .ok (ofDuration length)
  | .list items => do return sequence (← ofValues items)
  | .tuple items => do return sequence (← ofValues items)
  | .set _ items => do return sequence (← ofValues items)
  | .table false _ => .error .tableAsParameter
  | value => do return quoted (← value.writtenText)

def ofValues : List Value → Except Failure (List Text)
  | [] => .ok []
  | value :: rest => do
      let first ← ofValue value
      return first :: (← ofValues rest)

end

end Literal
end PooledQuery
