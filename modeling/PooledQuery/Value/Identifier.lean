/-
Universal identifiers.

An identifier is a number of 128 bits.  It is written as 32 hexadecimal digits in five
groups, and read from them with or without the hyphens, within braces or after a scheme.
-/
import PooledQuery.Text.CodePoint

namespace PooledQuery

/-- A universal identifier. -/
structure Identifier where
  bits : BitVec 128
  deriving DecidableEq, Repr

namespace Identifier

def number (identifier : Identifier) : Nat :=
  identifier.bits.toNat

/-- Consecutive groups of the given lengths. -/
def grouped : List Nat → Text → List Text
  | [], _ => []
  | length :: lengths, digits => digits.take length :: grouped lengths (digits.drop length)

def text (identifier : Identifier) : Text :=
  Text.joined "-" (grouped [8, 4, 4, 4, 12] (Text.paddedHex 32 identifier.number))

def withoutStart (start text : Text) : Text :=
  if start.isPrefixOf text then text.drop start.length else text

def isBrace (point : CodePoint) : Bool :=
  point == .char '\x7b' || point == .char '\x7d'

def withoutBraces (text : Text) : Text :=
  ((text.dropWhile isBrace).reverse.dropWhile isBrace).reverse

def ofText? (text : Text) : Option Identifier :=
  let digits :=
    (withoutBraces (withoutStart "uuid:" (withoutStart "urn:" text))).filter (· != .char '-')
  if digits.length = 32 then
    (Text.hexValue? digits).map fun number => ⟨BitVec.ofNat 128 number⟩
  else none

end Identifier
end PooledQuery
