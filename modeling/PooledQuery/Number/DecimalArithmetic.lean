/-
Arithmetic of decimal numbers.

A product or quotient is the exact result, rounded once to 28 significant digits, a half to
the even neighbour.  Its first digit may stand at most at the place 10^999999, and its last
digit at least at the place 10^-1000026, so that tiny results lose digits and huge ones
fail.  Two decimals are compared by their exact values, whatever their exponents are.
-/
import PooledQuery.Failure
import PooledQuery.Number.Decimal

namespace PooledQuery.Decimal

def precision : Nat := 28

def greatestPlace : Int := 999999

def leastPlace : Int := -1000026

def digitCount (coefficient : Nat) : Nat :=
  (Nat.toDigits 10 coefficient).length

/-- A coefficient without its last digits, rounded to the nearest, a half to the even
neighbour. -/
def withoutDigits (coefficient count : Nat) : Nat :=
  if digitCount coefficient < count then 0
  else Binary64.roundHalfEven coefficient (Nat.pow 10 count)

def settled (negative : Bool) (coefficient : Nat) (exponent : Int) : Except Failure Decimal :=
  if coefficient = 0 then
    .ok (.finite negative 0 (max leastPlace (min greatestPlace exponent)))
  else
    let first := exponent + digitCount coefficient - 1
    let last := max exponent (max leastPlace (first - ((precision : Int) - 1)))
    let kept := withoutDigits coefficient (last - exponent).toNat
    if greatestPlace < first then .error .decimalTooLarge
    else if digitCount kept ≤ precision then .ok (.finite negative kept last)
    else if first = greatestPlace then .error .decimalTooLarge
    else .ok (.finite negative (kept / 10) (last + 1))

/-- The result of arithmetic on a decimal that is not a number: its sign and the last
digits of its payload. -/
def settledNaN (negative : Bool) (payload : Nat) : Decimal :=
  .nan negative false (payload % Nat.pow 10 precision)

def product (left right : Decimal) : Except Failure Decimal :=
  match left, right with
  | .nan _ true _, _ => .error .decimalUnordered
  | _, .nan _ true _ => .error .decimalUnordered
  | .nan negative _ payload, _ => .ok (settledNaN negative payload)
  | _, .nan negative _ payload => .ok (settledNaN negative payload)
  | .finite leftSign leftCoefficient leftExponent, .finite rightSign rightCoefficient rightExponent =>
      settled (leftSign ^^ rightSign) (leftCoefficient * rightCoefficient)
        (leftExponent + rightExponent)
  | _, _ =>
      if left.isZero || right.isZero then .error .decimalUnordered
      else .ok (.infinite (left.isNegative ^^ right.isNegative))

/-- The quotient of two finite decimals with a divisor that is not zero.  The coefficient
has at least one digit more than is kept; where a remainder is left, it does not end with a
digit that could pass for an exact half. -/
def finiteQuotient (negative : Bool) (total size : Nat) (exponent : Int) : Except Failure Decimal :=
  let shift := (digitCount size : Int) - digitCount total + precision + 1
  let numerator := total * Nat.pow 10 shift.toNat
  let denominator := size * Nat.pow 10 (-shift).toNat
  let quotient := numerator / denominator
  let coefficient :=
    if numerator % denominator ≠ 0 ∧ quotient % 5 = 0 then quotient + 1 else quotient
  settled negative coefficient (exponent - shift)

def quotient (total size : Decimal) : Except Failure Decimal :=
  match total, size with
  | .nan _ true _, _ => .error .decimalUnordered
  | _, .nan _ true _ => .error .decimalUnordered
  | .nan negative _ payload, _ => .ok (settledNaN negative payload)
  | _, .nan negative _ payload => .ok (settledNaN negative payload)
  | .infinite _, .infinite _ => .error .decimalUnordered
  | .infinite left, _ => .ok (.infinite (left ^^ size.isNegative))
  | _, .infinite right => .ok (.finite (total.isNegative ^^ right) 0 leastPlace)
  | .finite leftSign leftCoefficient leftExponent, .finite rightSign rightCoefficient rightExponent =>
      if rightCoefficient = 0 then .error (.decimalDivisionByZero (leftCoefficient == 0))
      else finiteQuotient (leftSign ^^ rightSign) leftCoefficient rightCoefficient
        (leftExponent - rightExponent)

def integerPart (coefficient : Nat) (exponent : Int) : Nat × Bool :=
  if coefficient = 0 then (0, false)
  else if 0 ≤ exponent then (coefficient * Nat.pow 10 exponent.natAbs, false)
  else if digitCount coefficient ≤ exponent.natAbs then (0, true)
  else
    let unit := Nat.pow 10 exponent.natAbs
    (coefficient / unit, coefficient % unit != 0)

def truncated : Decimal → Except Failure Int
  | .nan .. => .error .decimalNaNToInteger
  | .infinite _ => .error .decimalInfinityToInteger
  | .finite negative coefficient exponent =>
      let whole : Int := (integerPart coefficient exponent).1
      .ok (if negative then -whole else whole)

def ceiling : Decimal → Except Failure Int
  | .nan .. => .error .decimalNaNToInteger
  | .infinite _ => .error .decimalInfinityToInteger
  | .finite negative coefficient exponent =>
      let (whole, hasMore) := integerPart coefficient exponent
      .ok (if negative then -(whole : Int) else if hasMore then whole + 1 else whole)

/-- The order of left · 10^leftExponent and right · 10^rightExponent.  Unless the exponents
agree, the places of the first digits are compared before any power is computed. -/
def compareMagnitudes (left : Nat) (leftExponent : Int) (right : Nat) (rightExponent : Int) :
    Ordering :=
  if left = 0 ∨ right = 0 ∨ leftExponent = rightExponent then compare left right
  else
    match compare (leftExponent + digitCount left) (rightExponent + digitCount right) with
    | .eq =>
        if leftExponent < rightExponent then
          compare left (right * Nat.pow 10 (rightExponent - leftExponent).toNat)
        else
          compare (left * Nat.pow 10 (leftExponent - rightExponent).toNat) right
    | order => order

def compare? : Decimal → Decimal → Option Ordering
  | .nan .., _ => none
  | _, .nan .. => none
  | .infinite left, .infinite right => some (compare right left)
  | .infinite negative, .finite .. => some (if negative then .lt else .gt)
  | .finite .., .infinite negative => some (if negative then .gt else .lt)
  | .finite left leftCoefficient leftExponent, .finite right rightCoefficient rightExponent =>
      let magnitudes := compareMagnitudes leftCoefficient leftExponent rightCoefficient rightExponent
      if leftCoefficient = 0 ∧ rightCoefficient = 0 then some .eq
      else
        match left, right with
        | false, false => some magnitudes
        | true, true => some magnitudes.swap
        | true, false => some .lt
        | false, true => some .gt

end PooledQuery.Decimal
