/-
UTF-8.

Every character has an encoding of one to four bytes; a surrogate has none, and the
first run of surrogates is reported with its position.
-/
import PooledQuery.Text.CodePoint

namespace PooledQuery.Text

/-- A run of surrogates that has no encoding: the index of its first code point, its
length, and that code point. -/
structure UnencodableRun where
  start : Nat
  length : Nat
  first : CodePoint
  deriving DecidableEq, Repr

def utf8Bytes (c : Char) : List UInt8 :=
  let n := c.toNat
  let continuation (shift : Nat) : UInt8 := UInt8.ofNat (0x80 + (n >>> shift) % 64)
  if n < 0x80 then
    [UInt8.ofNat n]
  else if n < 0x800 then
    [UInt8.ofNat (0xC0 + (n >>> 6)), continuation 0]
  else if n < 0x10000 then
    [UInt8.ofNat (0xE0 + (n >>> 12)), continuation 6, continuation 0]
  else
    [UInt8.ofNat (0xF0 + (n >>> 18)), continuation 12, continuation 6, continuation 0]

def isSurrogate : CodePoint → Bool
  | .char _ => false
  | .surrogate _ => true

/-- The bytes of the text from index `start` on, or its first run of surrogates. -/
def utf8From (start : Nat) : Text → Except UnencodableRun (List UInt8)
  | [] => .ok []
  | .char c :: rest => do
      let following ← utf8From (start + 1) rest
      return utf8Bytes c ++ following
  | .surrogate offset :: rest =>
      .error ⟨start, (rest.takeWhile isSurrogate).length + 1, .surrogate offset⟩

def utf8 (text : Text) : Except UnencodableRun (List UInt8) :=
  utf8From 0 text

end PooledQuery.Text
