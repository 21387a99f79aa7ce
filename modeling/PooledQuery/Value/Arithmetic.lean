/-
Arithmetic between numbers and values.

A number times a sequence repeats the sequence, and a number times a duration stretches it.
Durations are counted in microseconds, and a result is rounded to them, a half to the even
neighbour.  A quotient is asked for the least integer that is not below it.
-/
import PooledQuery.Value.Basic

namespace PooledQuery

namespace Duration

def toMicroseconds (duration : Duration) : Int :=
  (duration.days * 86400 + duration.seconds) * 1000000 + duration.microseconds

def ofMicroseconds (microseconds : Int) : Duration :=
  let seconds := microseconds / 1000000
  ⟨seconds / 86400, (seconds % 86400).toNat, (microseconds % 1000000).toNat⟩

def daysLimit : Nat := 999999999

def checked (duration : Duration) : Except Failure Duration :=
  if daysLimit < duration.days.natAbs then .error (.durationOutOfRange duration.days)
  else .ok duration

end Duration

namespace Number

def nearestQuotient (numerator denominator : Int) : Int :=
  let magnitude : Int := Binary64.roundHalfEven numerator.natAbs denominator.natAbs
  if (numerator < 0) ^^ (denominator < 0) then -magnitude else magnitude

def durationQuotient (microseconds divisor : Int) : Except Failure Duration :=
  if divisor = 0 then .error .durationDividedByZero
  else (Duration.ofMicroseconds (nearestQuotient microseconds divisor)).checked

/-- A number as an exact ratio of integers with a positive divisor, where it is no
decimal. -/
def ratio? : Number → Option (Except Failure (Int × Int))
  | .bool b => some (.ok (if b then 1 else 0, 1))
  | .int n => some (.ok (n, 1))
  | .float .nan => some (.error .floatNaNToRatio)
  | .float (.infinite _) => some (.error .floatInfinityToRatio)
  | .float (.finite negative significand exponent _) =>
      let value := Binary64.signed negative (Binary64.magnitude significand exponent)
      some (.ok (value.num, (value.den : Int)))
  | .decimal _ => none

def lengthLimit : Nat := Nat.pow 2 63 - 1

def roomLimit : Nat := Nat.pow 2 26

/-- The items of a sequence, `count` times over; `tooLong` is the failure where their number
is no length of a sequence. -/
def repetition {α : Type} (count : Nat) (tooLong : Failure) (items : List α) :
    Except Failure (List α) :=
  if lengthLimit < count then .error .countTooLarge
  else if items.isEmpty then .ok []
  else if lengthLimit < count * items.length then .error tooLong
  else if roomLimit < count * items.length then .error .outOfMemory
  else .ok (List.replicate count items).flatten

def repeated? (count : Nat) : Value → Option (Except Failure Value)
  | .text content => some do return .text (← repetition count (.repetitionTooLong false) content)
  | .bytes .fixed content =>
      some do return .bytes .fixed (← repetition count (.repetitionTooLong true) content)
  | .bytes .mutable content =>
      some do return .bytes .mutable (← repetition count .outOfMemory content)
  | .list items => some do return .list (← repetition count .outOfMemory items)
  | .tuple items => some do return .tuple (← repetition count .outOfMemory items)
  | _ => none

/-- A number times a value: a product of numbers, a repeated sequence or a stretched
duration. -/
def times (factor : Number) (value : Value) : Except Failure Value :=
  let unsupported : Except Failure Value :=
    .error (.unsupportedOperands .product factor.typeName value.typeName)
  match value with
  | .number n => do return .number (← factor.product n)
  | .duration length =>
      match factor.ratio? with
      | some ratio => do
          let (numerator, denominator) ← ratio
          return .duration (← durationQuotient (length.toMicroseconds * numerator) denominator)
      | none => unsupported
  | _ =>
      match repeated? ((factor.integer?.getD 0).toNat) value with
      | some repeated =>
          if factor.integer?.isSome then repeated
          else .error (.countNotInteger factor.typeName)
      | none => unsupported

end Number

namespace Value

/-- The least integer that is not below the quotient of two values: of two numbers, or of
two durations.  A duration over a number is a duration again, and not a real number. -/
def quotientCeiling (total size : Value) : Except Failure Int :=
  let unsupported : Except Failure Int :=
    .error (.unsupportedOperands .quotient total.typeName size.typeName)
  match total, size with
  | .number all, .number part => all.quotientCeiling part
  | .duration all, .duration part =>
      Number.integerQuotient all.toMicroseconds part.toMicroseconds >>= Number.floatCeiling
  | .duration all, .number divisor =>
      match divisor.ratio? with
      | some ratio => do
          let (numerator, denominator) ← ratio
          let _ ← Number.durationQuotient (all.toMicroseconds * denominator) numerator
          throw (.notReal total.typeName)
      | none => unsupported
  | _, _ => unsupported

end Value
end PooledQuery
