/-
Texts as lists of code points.

A statement usually consists of Unicode characters, but bytes that are shown as text
leave lone surrogates behind: the byte `b`, at least 128, becomes the code point
U+DC00 + `b`.  A text is therefore a list of code points, and a string is read as the
text of its characters.
-/

namespace PooledQuery

/-- A Unicode code point: a character, or the surrogate U+D800 + `offset`. -/
inductive CodePoint where
  | char (c : Char)
  | surrogate (offset : Fin 2048)
  deriving DecidableEq, Repr, Inhabited

abbrev Text := List CodePoint

namespace CodePoint

instance : Coe Char CodePoint := ⟨.char⟩

def value : CodePoint → Nat
  | .char c => c.toNat
  | .surrogate offset => 0xD800 + offset.val

def ofNat? (n : Nat) : Option CodePoint :=
  if range : 0xD800 ≤ n ∧ n < 0xE000 then
    some (.surrogate ⟨n - 0xD800, by omega⟩)
  else if n < 0x110000 then
    some (.char (Char.ofNat n))
  else
    none

def char? : CodePoint → Option Char
  | .char c => some c
  | .surrogate _ => none

/-- The code point that stands for one byte of undecoded data: an ASCII byte stands for
its character, any other byte for a surrogate from U+DC80 on. -/
def ofByte (byte : UInt8) : CodePoint :=
  if byte.toNat < 128 then
    .char (Char.ofNat byte.toNat)
  else
    .surrogate (Fin.ofNat 2048 (0x400 + byte.toNat))

def hexDigit? : CodePoint → Option Nat
  | .char c =>
      if c.isDigit then some (c.toNat - '0'.toNat)
      else if 'a' ≤ c ∧ c ≤ 'f' then some (c.toNat - 'a'.toNat + 10)
      else if 'A' ≤ c ∧ c ≤ 'F' then some (c.toNat - 'A'.toNat + 10)
      else none
  | .surrogate _ => none

end CodePoint

namespace Text

def ofString (s : String) : Text :=
  s.toList.map .char

instance : Coe String Text := ⟨ofString⟩

def toString? (text : Text) : Option String :=
  (text.mapM CodePoint.char?).map String.ofList

def ofNat (n : Nat) : Text :=
  (Nat.toDigits 10 n).map CodePoint.char

/-- The decimal digits of an integer, after a minus sign when it is negative. -/
def ofInt (n : Int) : Text :=
  if n < 0 then .char '-' :: ofNat n.natAbs else ofNat n.natAbs

def padded (width n : Nat) : Text :=
  let digits := ofNat n
  List.replicate (width - digits.length) (CodePoint.char '0') ++ digits

def paddedHex (width n : Nat) : Text :=
  let digits := (Nat.toDigits 16 n).map CodePoint.char
  List.replicate (width - digits.length) (CodePoint.char '0') ++ digits

def hexValue? (digits : Text) : Option Nat :=
  (digits.mapM CodePoint.hexDigit?).map fun values =>
    values.foldl (fun number value => number * 16 + value) 0

def joined (separator : Text) (parts : List Text) : Text :=
  List.intercalate separator parts

def leadingHalf? : CodePoint → Option Nat
  | .char _ => none
  | .surrogate offset => if offset.val < 0x400 then some offset.val else none

/-- The value of a code point that is the second half of a surrogate pair. -/
def trailingHalf? : CodePoint → Option Nat
  | .char _ => none
  | .surrogate offset => if 0x400 ≤ offset.val then some (offset.val - 0x400) else none

/-- Replaces every surrogate pair by the character that it encodes.  Reading escaped
text yields no surrogate pair, so this is what a text becomes when it is written with
escapes and read back. -/
def pairsJoined : Text → Text
  | [] => []
  | [point] => [point]
  | first :: second :: rest =>
      match leadingHalf? first, trailingHalf? second with
      | some high, some low =>
          .char (Char.ofNat (0x10000 + 0x400 * high + low)) :: pairsJoined rest
      | _, _ => first :: pairsJoined (second :: rest)

end Text
end PooledQuery
