/-
Quoted display.

A displayed text stands between single quotes, or between double quotes when it holds a
single quote and no double quote.  Backslashes, the chosen quote, line breaks, tabs and
code points without a printed form are escaped.
-/
import PooledQuery.Text.Classes

namespace PooledQuery.Text

def singleQuote : Char := '\x27'

def doubleQuote : Char := '\x22'

def backtick : Char := '\x60'

/-- The quote for a text that holds a single quote, or not, and a double quote, or not. -/
def displayQuote (hasSingle hasDouble : Bool) : Char :=
  if hasSingle && !hasDouble then doubleQuote else singleQuote

def numericEscape (n : Nat) : Text :=
  if n < 0x100 then "\\x" ++ paddedHex 2 n
  else if n < 0x10000 then "\\u" ++ paddedHex 4 n
  else "\\U" ++ paddedHex 8 n

def displayed (quote : Char) (point : CodePoint) : Text :=
  if point = .char quote ∨ point = .char '\\' then [.char '\\', point]
  else if point = .char '\n' then "\\n"
  else if point = .char '\r' then "\\r"
  else if point = .char '\t' then "\\t"
  else if point.isPrintable then [point]
  else numericEscape point.value

def quoted (text : Text) : Text :=
  let quote := displayQuote (text.contains (.char singleQuote)) (text.contains (.char doubleQuote))
  .char quote :: text.flatMap (displayed quote) ++ [.char quote]

def ofBytes (bytes : List UInt8) : Text :=
  bytes.map fun byte => .char (Char.ofNat byte.toNat)

/-- A byte as it stands between the given quotes: outside printable ASCII it is escaped by
its number. -/
def displayedByte (quote : Char) (point : CodePoint) : Text :=
  if point.value < 128 then displayed quote point else numericEscape point.value

/-- The quoted display of a byte string, with the letter b in front.  A strict display
escapes the single quote even where double quotes are chosen. -/
def quotedBytes (strict : Bool) (bytes : List UInt8) : Text :=
  let text := ofBytes bytes
  let quote := displayQuote (text.contains (.char singleQuote)) (text.contains (.char doubleQuote))
  let shown (point : CodePoint) : Text :=
    if strict ∧ point = .char singleQuote then [.char '\\', point] else displayedByte quote point
  .char 'b' :: .char quote :: text.flatMap shown ++ [.char quote]

end PooledQuery.Text
