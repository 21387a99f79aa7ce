/-
Writing integers within a limit of digits.

An integer of any size can be held, but one with more than 4300 digits is neither read nor
written.
-/
import PooledQuery.Number.Basic

namespace PooledQuery.Number

/-- The greatest number of digits that an integer is read from or written with. -/
def digitLimit : Nat := 4300

/-- The least absolute value that has too many digits. -/
def unwritable : Nat := Nat.pow 10 digitLimit

-- The digits are counted off: the power itself is never computed.
def hasMoreDigits : (limit : Nat) → Nat → Bool
  | 0, n => n != 0
  | limit + 1, n => 10 ≤ n && hasMoreDigits limit (n / 10)

def isOverlong (n : Int) : Bool :=
  hasMoreDigits digitLimit n.natAbs

def integerText (n : Int) : Except Failure Text :=
  if isOverlong n then .error .integerTooLongToWrite else .ok (Text.ofInt n)

end PooledQuery.Number
