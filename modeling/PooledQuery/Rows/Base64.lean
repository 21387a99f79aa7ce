/-
Base64 with the standard alphabet and padding.
-/
import PooledQuery.Text.CodePoint

namespace PooledQuery.Base64

def alphabet : List Char :=
  "ABCDEFGHIJKLMNOPQRSTUVWXYZabcdefghijklmnopqrstuvwxyz0123456789+/".toList

def digit (n : Nat) : CodePoint :=
  .char (alphabet.getD (n % 64) 'A')

def padding : CodePoint := .char '='

/-- Four digits for every three bytes, the last group filled up with padding. -/
def encode : List UInt8 → Text
  | [] => []
  | [first] =>
      let n := first.toNat * 16
      [digit (n / 64), digit n, padding, padding]
  | [first, second] =>
      let n := (first.toNat * 256 + second.toNat) * 4
      [digit (n / 4096), digit (n / 64), digit n, padding]
  | first :: second :: third :: rest =>
      let n := (first.toNat * 256 + second.toNat) * 256 + third.toNat
      digit (n / 262144) :: digit (n / 4096) :: digit (n / 64) :: digit n :: encode rest

end PooledQuery.Base64
