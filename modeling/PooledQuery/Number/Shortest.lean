/-
Decimal texts of binary64 numbers.

The shortest text has the fewest significant digits that read back as the number, and
among those the digits nearest to it.  A fixed text has a given number of places.
-/
import PooledQuery.Number.Binary64
import PooledQuery.Text.CodePoint

namespace PooledQuery.Binary64

structure Scientific where
  coefficient : Nat
  exponent : Int
  deriving DecidableEq, Repr

def decimalSize (value : Rat) : Int :=
  let numerator := value.num.natAbs
  if value.den ≤ numerator then
    (Nat.toDigits 10 (numerator / value.den)).length
  else
    let digits := (Nat.toDigits 10 (value.den / numerator)).length
    if value.den ≤ numerator * Nat.pow 10 (digits - 1) then 2 - (digits : Int) else 1 - (digits : Int)

def scaledByTen (value : Rat) (power : Int) : Rat :=
  if power < 0 then value / (Nat.pow 10 power.natAbs : Nat) else value * (Nat.pow 10 power.natAbs : Nat)

/-- The two neighbours of a positive rational among the numbers with `precision` digits,
the nearer one first; of two at the same distance, the even one. -/
def neighbours (value : Rat) (precision : Nat) : List Scientific :=
  let exponent := decimalSize value - precision
  let grid := scaledByTen value (-exponent)
  let below := grid.floor.toNat
  let remainder := grid - below
  let half := mkRat 1 2
  if remainder < half ∨ (remainder = half ∧ below % 2 = 0) then
    [⟨below, exponent⟩, ⟨below + 1, exponent⟩]
  else
    [⟨below + 1, exponent⟩, ⟨below, exponent⟩]

/-- The first neighbour that reads back as `number`, over increasing precision.  Seventeen
digits always suffice. -/
def shortest (number : Binary64) (value : Rat) : Scientific :=
  let readsBack (candidate : Scientific) : Bool :=
    ofScientific false candidate.coefficient candidate.exponent = number
  ((List.range 17).findSome? fun index => (neighbours value (index + 1)).find? readsBack).getD
    ⟨0, 0⟩

def exponentText (exponent : Int) : Text :=
  "e" ++ (if exponent < 0 then "-" else "+" : Text) ++ Text.padded 2 exponent.natAbs

/-- Writes significant digits whose decimal point stands after `point` of them.  The
positional form serves from 10^-4 up to 10^16 and keeps a digit on either side of the
point; every other number has the scientific form. -/
def layOut (digits : Text) (point : Int) : Text :=
  let zeros (count : Int) : Text := List.replicate count.toNat (.char '0')
  if -4 < point ∧ point ≤ 16 then
    if point ≤ 0 then
      "0." ++ zeros (-point) ++ digits
    else if (digits.length : Int) ≤ point then
      digits ++ zeros (point - digits.length) ++ ".0"
    else
      digits.take point.toNat ++ "." ++ digits.drop point.toNat
  else
    match digits with
    | [] => []
    | [digit] => digit :: exponentText (point - 1)
    | digit :: rest => digit :: .char '.' :: rest ++ exponentText (point - 1)

def significantDigits (coefficient : Nat) : Text :=
  ((Text.ofNat coefficient).reverse.dropWhile (· == .char '0')).reverse

def text : Binary64 → Text
  | .nan => "nan"
  | .infinite negative => if negative then "-inf" else "inf"
  | .finite negative significand exponent canonical =>
      let sign : Text := if negative then "-" else ""
      if significand = 0 then sign ++ "0.0"
      else
        let digits :=
          shortest (.finite false significand exponent canonical) (magnitude significand exponent)
        sign ++ layOut (significantDigits digits.coefficient)
          ((Text.ofNat digits.coefficient).length + digits.exponent)

def oneDecimal : Binary64 → Text
  | .nan => "nan"
  | .infinite negative => if negative then "-inf" else "inf"
  | .finite negative significand exponent _ =>
      let sign : Text := if negative then "-" else ""
      let tenths := roundHalfEven (significand * Nat.pow 2 exponent * 10) (Nat.pow 2 1074)
      sign ++ Text.ofNat (tenths / 10) ++ "." ++ Text.ofNat (tenths % 10)

end PooledQuery.Binary64
