/-
Character classes and case mappings.

ASCII is decided by rules, everything beyond it by tables.  Two code points are caseless
equals when their lower-case forms are variants of one letter, so that `s` meets the
long s and `k` the Kelvin sign.
-/
import PooledQuery.Text.CodePoint
import PooledQuery.Text.LetterRanges
import PooledQuery.Text.HiddenRanges
import PooledQuery.Text.DigitZeros
import PooledQuery.Text.CaseRanges

namespace PooledQuery

namespace Text

def inRanges (ranges : List (Nat × Nat)) (n : Nat) : Bool :=
  ranges.any fun range => range.1 ≤ n && n ≤ range.2

/-- Where a table of case runs moves a code point; a code point outside the table stays. -/
def shifted (runs : List CaseRun) (n : Nat) : Nat :=
  match runs.find? fun run => run.first ≤ n && n ≤ run.last && (n - run.first) % run.stride == 0 with
  | some run => ((n : Int) + run.shift).toNat
  | none => n

end Text

namespace CodePoint

/-- White space: tab to carriage return, the separators U+001C to U+001F, the space, and
the Unicode space separators. -/
def isBlank (point : CodePoint) : Bool :=
  let n := point.value
  (9 ≤ n && n ≤ 13) || (28 ≤ n && n ≤ 32) || n == 0x85 || n == 0xA0 || n == 0x1680 ||
    (0x2000 ≤ n && n ≤ 0x200A) || n == 0x2028 || n == 0x2029 || n == 0x202F ||
    n == 0x205F || n == 0x3000

def isAlphanumeric : CodePoint → Bool
  | .char c => if c.toNat < 128 then c.isAlphanum else Text.inRanges Text.letterRanges c.toNat
  | .surrogate _ => false

def isWord (point : CodePoint) : Bool :=
  point == .char '_' || point.isAlphanumeric

def isPrintable : CodePoint → Bool
  | .char c =>
      if c.toNat < 128 then 32 ≤ c.toNat && c.toNat < 127
      else !Text.inRanges Text.hiddenRanges c.toNat
  | .surrogate _ => false

def digit? (point : CodePoint) : Option Nat :=
  let n := point.value
  (Text.digitZeros.find? fun first => first ≤ n && n ≤ first + 9).map fun first => n - first

def upper : CodePoint → Text
  | .char c =>
      if c.toNat < 128 then [.char c.toUpper]
      else match Text.upperExpansions.find? fun entry => entry.1 == c.toNat with
        | some entry => entry.2.map fun n => .char (Char.ofNat n)
        | none => [.char (Char.ofNat (Text.shifted Text.upperRuns c.toNat))]
  | .surrogate offset => [.surrogate offset]

def lowerValue : CodePoint → Nat
  | .char c =>
      if c.toNat < 128 then c.toLower.toNat else Text.shifted Text.lowerRuns c.toNat
  | .surrogate offset => 0xD800 + offset.val

/-- A number that two code points share exactly when they are caseless equals. -/
def caseKey (point : CodePoint) : Nat :=
  let lower := point.lowerValue
  match Text.caseVariants.find? fun entry => entry.1 == lower with
  | some entry => entry.2
  | none => lower

def sameLetter (left right : CodePoint) : Bool :=
  left.caseKey == right.caseKey

end CodePoint

namespace Text

def upper (text : Text) : Text :=
  text.flatMap CodePoint.upper

def asciiLower (text : Text) : Text :=
  text.map fun point =>
    match point with
    | .char c => .char c.toLower
    | .surrogate offset => .surrogate offset

def sameLetters : Text → Text → Bool
  | [], [] => true
  | left :: lefts, right :: rights => left.sameLetter right && sameLetters lefts rights
  | _, _ => false

/-- What follows `word`, in any letter case, at the start of the text. -/
def afterWord? : Text → Text → Option Text
  | [], text => some text
  | _ :: _, [] => none
  | letter :: word, point :: text =>
      if letter.sameLetter point then afterWord? word text else none

end Text
end PooledQuery
