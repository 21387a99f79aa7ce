/-
Binary64 numbers.

A finite number is a sign, a significand below 2^53 and an exponent, and stands for the
rational ±significand · 2^(exponent - 1074).  Every operation computes the exact rational
result and rounds it once, to the nearest number, with ties to the even significand.
-/

namespace PooledQuery

namespace Binary64

/-- The quotient of two numbers, rounded to the nearest integer, a half to the even one. -/
def roundHalfEven (numerator denominator : Nat) : Nat :=
  let quotient := numerator / denominator
  let remainder := numerator % denominator
  if 2 * remainder < denominator then quotient
  else if denominator < 2 * remainder then quotient + 1
  else quotient + quotient % 2

/-- The pairs of significand and exponent that occur: the significand has 53 bits, fewer
only at the least exponent. -/
def Canonical (significand exponent : Nat) : Prop :=
  significand < Nat.pow 2 53 ∧ exponent ≤ 2045 ∧ (exponent = 0 ∨ Nat.pow 2 52 ≤ significand)

instance (significand exponent : Nat) : Decidable (Canonical significand exponent) :=
  inferInstanceAs (Decidable (_ ∧ _))

end Binary64

/-- A binary64 number; all values that are not a number are one. -/
inductive Binary64 where
  | nan
  | infinite (negative : Bool)
  | finite (negative : Bool) (significand exponent : Nat)
      (canonical : Binary64.Canonical significand exponent)
  deriving DecidableEq

namespace Binary64

def signedZero (negative : Bool) : Binary64 :=
  .finite negative 0 0 (by decide)

instance : Inhabited Binary64 := ⟨signedZero false⟩

def magnitude (significand exponent : Nat) : Rat :=
  mkRat (significand * Nat.pow 2 exponent : Nat) (Nat.pow 2 1074)

def signed (negative : Bool) (magnitude : Rat) : Rat :=
  if negative then -magnitude else magnitude

/-- The number nearest to a rational, of the given sign; beyond the largest number it is
infinite. -/
def nearest (negative : Bool) (value : Rat) : Binary64 :=
  let scaled := value.num.natAbs * Nat.pow 2 1074
  let exponent := (scaled / value.den).log2 - 52
  let significand := roundHalfEven scaled (value.den * Nat.pow 2 exponent)
  if fits : Canonical significand exponent then
    .finite negative significand exponent fits
  else if carried : Canonical (Nat.pow 2 52) (exponent + 1) then
    .finite negative (Nat.pow 2 52) (exponent + 1) carried
  else
    .infinite negative

def ofRat (value : Rat) : Binary64 :=
  nearest (value < 0) value

/-- The number nearest to coefficient · 10^exponent.  The decimal exponent of a finite
number lies well within 400 of zero, which bounds the power that is computed. -/
def ofScientific (negative : Bool) (coefficient : Nat) (exponent : Int) : Binary64 :=
  let size := ((Nat.toDigits 10 coefficient).length : Int) + exponent
  if coefficient = 0 ∨ size < -400 then signedZero negative
  else if 400 < size then .infinite negative
  else if exponent < 0 then nearest negative (mkRat coefficient (Nat.pow 10 exponent.natAbs))
  else nearest negative (coefficient * Nat.pow 10 exponent.natAbs : Nat)

def isNegative : Binary64 → Bool
  | .nan => false
  | .infinite negative => negative
  | .finite negative _ _ _ => negative

def isZero : Binary64 → Bool
  | .finite _ significand _ _ => significand == 0
  | _ => false

def neg : Binary64 → Binary64
  | .nan => .nan
  | .infinite negative => .infinite (!negative)
  | .finite negative significand exponent canonical =>
      .finite (!negative) significand exponent canonical

def add : Binary64 → Binary64 → Binary64
  | .nan, _ => .nan
  | _, .nan => .nan
  | .infinite left, .infinite right => if left = right then .infinite left else .nan
  | .infinite negative, .finite .. => .infinite negative
  | .finite .., .infinite negative => .infinite negative
  | .finite left leftSignificand leftExponent _, .finite right rightSignificand rightExponent _ =>
      let sum := signed left (magnitude leftSignificand leftExponent) +
        signed right (magnitude rightSignificand rightExponent)
      if sum = 0 then signedZero (left && right) else ofRat sum

def sub (left right : Binary64) : Binary64 :=
  add left right.neg

def mul : Binary64 → Binary64 → Binary64
  | .nan, _ => .nan
  | _, .nan => .nan
  | .infinite left, .infinite right => .infinite (left ^^ right)
  | .infinite left, .finite right significand _ _ =>
      if significand = 0 then .nan else .infinite (left ^^ right)
  | .finite left significand _ _, .infinite right =>
      if significand = 0 then .nan else .infinite (left ^^ right)
  | .finite left leftSignificand leftExponent _, .finite right rightSignificand rightExponent _ =>
      nearest (left ^^ right)
        (magnitude leftSignificand leftExponent * magnitude rightSignificand rightExponent)

def div : Binary64 → Binary64 → Binary64
  | .nan, _ => .nan
  | _, .nan => .nan
  | .infinite _, .infinite _ => .nan
  | .infinite left, .finite right _ _ _ => .infinite (left ^^ right)
  | .finite left _ _ _, .infinite right => signedZero (left ^^ right)
  | .finite left leftSignificand leftExponent _, .finite right rightSignificand rightExponent _ =>
      nearest (left ^^ right)
        (magnitude leftSignificand leftExponent / magnitude rightSignificand rightExponent)

end Binary64
end PooledQuery
