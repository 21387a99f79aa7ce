/-
The integer that a value stands for.

Numbers are cut off toward zero, texts and byte strings are read, and an identifier stands
for its number.
-/
import PooledQuery.Value.Display
import PooledQuery.Number.Reading

namespace PooledQuery

namespace Number

def truncated (value : Rat) : Int :=
  value.num.tdiv value.den

def toInteger : Number → Except Failure Int
  | .bool b => .ok (if b then 1 else 0)
  | .int n => .ok n
  | .float x =>
      match x with
      | .nan => .error .floatNaNToInteger
      | .infinite _ => .error .floatInfinityToInteger
      | .finite negative significand exponent _ =>
          .ok (truncated (Binary64.signed negative (Binary64.magnitude significand exponent)))
  | .decimal d => d.truncated

end Number

namespace Value

/-- The greatest length of a display in a failure to read an integer. -/
def integerDisplayLimit : Nat := 200

def toInteger (value : Value) : Except Failure Int :=
  match value with
  | .number n => n.toInteger
  | .text content =>
      Number.readInteger ((Text.quoted content).take integerDisplayLimit) content
  | .bytes _ content =>
      let shown := (Text.quotedBytes false (content.take integerDisplayLimit)).take integerDisplayLimit
      Number.readInteger shown (content.map CodePoint.ofByte)
  | .uuid identifier => .ok identifier.number
  | _ => .error (.noInteger value.typeName)

end Value
end PooledQuery
