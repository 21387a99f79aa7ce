/-
Decimal numbers.

A finite decimal is a sign, a coefficient and an exponent, and keeps the zeros at its
end.  Its text shows all of that and reads back.
-/
import PooledQuery.Number.Shortest

namespace PooledQuery

/-- A decimal number: ±coefficient · 10^exponent, an infinity, or not a number, which may
carry a diagnostic payload. -/
inductive Decimal where
  | finite (negative : Bool) (coefficient : Nat) (exponent : Int)
  | infinite (negative : Bool)
  | nan (negative signaling : Bool) (payload : Nat)
  deriving DecidableEq, Repr

namespace Decimal

def isZero : Decimal → Bool
  | .finite _ coefficient _ => coefficient == 0
  | _ => false

def isNegative : Decimal → Bool
  | .finite negative _ _ => negative
  | .infinite negative => negative
  | .nan negative _ _ => negative

def signText (negative : Bool) : Text :=
  if negative then "-" else ""

def specialText (negative : Bool) (name : Text) (payload : Nat) : Text :=
  signText negative ++ name ++ if payload = 0 then [] else Text.ofNat payload

/-- Digits with a decimal point after `point` of them, and zeros where digits lack. -/
def pointed (digits : Text) (point : Int) : Text :=
  let zeros (count : Int) : Text := List.replicate count.toNat (.char '0')
  if point ≤ 0 then
    "0." ++ zeros (-point) ++ digits
  else if (digits.length : Int) ≤ point then
    digits ++ zeros (point - digits.length)
  else
    digits.take point.toNat ++ "." ++ digits.drop point.toNat

/-- The text of a decimal.  It is positional when the exponent is not positive and at most
five zeros follow the point, and has one digit before the point and an exponent mark
otherwise. -/
def text : Decimal → Text
  | .infinite negative => specialText negative "Infinity" 0
  | .nan negative signaling payload => specialText negative (if signaling then "sNaN" else "NaN") payload
  | .finite negative coefficient exponent =>
      let digits := Text.ofNat coefficient
      let point := (digits.length : Int) + exponent
      signText negative ++
        if exponent ≤ 0 ∧ -6 < point then pointed digits point
        else
          let mark := point - 1
          pointed digits 1 ++
            if mark = 0 then []
            else ("E" : Text) ++ (if mark < 0 then "-" else "+" : Text) ++ Text.ofNat mark.natAbs

def plainText : Decimal → Text
  | .infinite negative => specialText negative "Infinity" 0
  | .nan negative signaling payload => specialText negative (if signaling then "sNaN" else "NaN") payload
  | .finite negative coefficient exponent =>
      let digits := Text.ofNat coefficient
      let shift := if coefficient = 0 ∧ 0 < exponent then 0 else exponent
      signText negative ++ pointed digits ((digits.length : Int) + shift)

def ofInt (n : Int) : Decimal :=
  .finite (n < 0) n.natAbs 0

/-- Reads digits, up to the first other character, onto a number and counts them. -/
def readDigits : Nat × Nat → List Char → (Nat × Nat) × List Char
  | read, [] => (read, [])
  | read, c :: rest =>
      if c.isDigit then readDigits (read.1 * 10 + (c.toNat - '0'.toNat), read.2 + 1) rest
      else (read, c :: rest)

def readExponent? : List Char → Option Int
  | [] => some 0
  | mark :: rest =>
      if mark = 'E' ∨ mark = 'e' then
        let (negative, digits) := match rest with
          | '-' :: digits => (true, digits)
          | '+' :: digits => (false, digits)
          | digits => (false, digits)
        match readDigits (0, 0) digits with
        | ((n, _ + 1), []) => some (if negative then -(n : Int) else n)
        | _ => none
      else none

def readUnsigned? (negative : Bool) (chars : List Char) : Option Decimal :=
  let payload? (digits : List Char) : Option Nat :=
    match readDigits (0, 0) digits with
    | ((n, _), []) => some n
    | _ => none
  match chars with
  | 'I' :: 'n' :: 'f' :: rest => if rest = [] ∨ rest = "inity".toList then some (.infinite negative) else none
  | 'N' :: 'a' :: 'N' :: digits => (payload? digits).map (.nan negative false)
  | 's' :: 'N' :: 'a' :: 'N' :: digits => (payload? digits).map (.nan negative true)
  | _ =>
      let (whole, afterWhole) := readDigits (0, 0) chars
      let (all, afterAll) := match afterWhole with
        | '.' :: rest => readDigits whole rest
        | rest => (whole, rest)
      if all.2 = 0 then none
      else (readExponent? afterAll).map fun exponent =>
        .finite negative all.1 (exponent - ((all.2 - whole.2 : Nat) : Int))

def ofString? (s : String) : Option Decimal :=
  match s.toList with
  | '-' :: rest => readUnsigned? true rest
  | '+' :: rest => readUnsigned? false rest
  | chars => readUnsigned? false chars

end Decimal
end PooledQuery
