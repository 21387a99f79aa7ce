/-
Numbers of four kinds.

Limits, thresholds and page numbers are truth values, integers, binary64 numbers or
decimals.  Each of them is exactly a decimal, by which they are ordered; products and
quotients follow the wider of the two kinds.
-/
import PooledQuery.Number.DecimalArithmetic

namespace PooledQuery

inductive Number where
  | bool (b : Bool)
  | int (n : Int)
  | float (x : Binary64)
  | decimal (d : Decimal)
  deriving DecidableEq

namespace Number

instance : Inhabited Number := ⟨.int 0⟩

def integer? : Number → Option Int
  | .bool b => some (if b then 1 else 0)
  | .int n => some n
  | _ => none

/-- A binary64 number as a decimal.  Of a power of two below one, every factor is a fifth
of a tenth. -/
def exactFloat : Binary64 → Decimal
  | .nan => .nan false false 0
  | .infinite negative => .infinite negative
  | .finite negative significand exponent _ =>
      if exponent < 1074 then
        .finite negative (significand * Nat.pow 5 (1074 - exponent)) ((exponent : Int) - 1074)
      else .finite negative (significand * Nat.pow 2 (exponent - 1074)) 0

def exact : Number → Decimal
  | .bool b => .ofInt (if b then 1 else 0)
  | .int n => .ofInt n
  | .float x => exactFloat x
  | .decimal d => d

/-- The order of two numbers by their exact values; one that is none compares with
nothing. -/
def compare? (left right : Number) : Option Ordering :=
  match left.integer?, right.integer? with
  | some m, some n => some (compare m n)
  | _, _ => left.exact.compare? right.exact

def isDecimal : Number → Bool
  | .decimal _ => true
  | _ => false

def typeName : Number → Text
  | .bool _ => "bool"
  | .int _ => "int"
  | .float _ => "float"
  | .decimal _ => "decimal.Decimal"

/-- The order test between two numbers.  A number that is none is below and above nothing;
beside a decimal, or as one, it fails the test instead. -/
def holds (test : OrderTest) (left right : Number) : Except Failure Bool :=
  match test, left.compare? right with
  | _, none => if left.isDecimal || right.isDecimal then .error .decimalUnordered else .ok false
  | .less, some order => .ok (order == .lt)
  | .atMost, some order => .ok (order != .gt)

/-- The binary64 number nearest to an integer, which must not be beyond the largest. -/
def floatOfInt (n : Int) : Except Failure Binary64 :=
  match Binary64.ofRat n with
  | .infinite _ => .error .integerTooLargeForFloat
  | x => .ok x

def toFloat? : Number → Option (Except Failure Binary64)
  | .bool b => some (floatOfInt (if b then 1 else 0))
  | .int n => some (floatOfInt n)
  | .float x => some (.ok x)
  | .decimal _ => none

def toDecimal? : Number → Option Decimal
  | .bool b => some (.ofInt (if b then 1 else 0))
  | .int n => some (.ofInt n)
  | .float _ => none
  | .decimal d => some d

def product (left right : Number) : Except Failure Number :=
  match left.integer?, right.integer? with
  | some m, some n => .ok (.int (m * n))
  | _, _ =>
      match left.toFloat?, right.toFloat? with
      | some x, some y => do return .float ((← x).mul (← y))
      | _, _ =>
          match left.toDecimal?, right.toDecimal? with
          | some x, some y => do return .decimal (← x.product y)
          | _, _ => .error (.unsupportedOperands .product left.typeName right.typeName)

def integerQuotient (total size : Int) : Except Failure Binary64 :=
  if size = 0 then .error .divisionByZero
  else
    match Binary64.nearest ((total < 0) ^^ (size < 0)) ((total : Rat) / (size : Rat)) with
    | .infinite _ => .error .quotientTooLarge
    | quotient => .ok quotient

def floatQuotient (total size : Binary64) : Except Failure Binary64 :=
  if size.isZero then .error .floatDivisionByZero else .ok (total.div size)

def floatCeiling : Binary64 → Except Failure Int
  | .nan => .error .floatNaNToInteger
  | .infinite _ => .error .floatInfinityToInteger
  | .finite negative significand exponent _ =>
      .ok (Binary64.signed negative (Binary64.magnitude significand exponent)).ceil

/-- The quotient of two numbers, rounded up to an integer after it has been rounded to its
own kind. -/
def quotientCeiling (total size : Number) : Except Failure Int :=
  match total.integer?, size.integer? with
  | some m, some n => integerQuotient m n >>= floatCeiling
  | _, _ =>
      match total.toFloat?, size.toFloat? with
      | some x, some y => do floatQuotient (← x) (← y) >>= floatCeiling
      | _, _ =>
          match total.toDecimal?, size.toDecimal? with
          | some x, some y => x.quotient y >>= Decimal.ceiling
          | _, _ => .error (.unsupportedOperands .quotient total.typeName size.typeName)

def isTruthy : Number → Bool
  | .bool b => b
  | .int n => n != 0
  | .float x => !x.isZero
  | .decimal d => !d.isZero

end Number
end PooledQuery
