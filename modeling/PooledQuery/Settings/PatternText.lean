/-
Texts of search patterns.

A pattern is written with a backslash before a character that is to stand for itself,
parentheses around groups, bars between alternatives, brackets around sets of characters,
and `*`, `+` or `?` after a character that may be repeated or missing.  The text is cut into
tokens, which are read from left to right; what is wrong first is the failure.
-/
import PooledQuery.Settings.Pattern
import PooledQuery.Failure

namespace PooledQuery

/-- What a token of a pattern's text means. -/
inductive PatternSign where
  | bare (point : CodePoint)
  | escaped (number : Nat)
  -- The boundary of a word; within a set, the backspace.
  | boundary
  deriving DecidableEq, Repr

/-- A token of a pattern's text: its first characters, what it means, and the positions where
it starts and ends. -/
structure PatternToken where
  shown : Text
  sign : PatternSign
  starts : Nat
  ends : Nat

namespace PatternToken

def escapedNumber (point : CodePoint) : Nat :=
  if point = .char 't' then 9
  else if point = .char 'n' then 10
  else if point = .char 'r' then 13
  else point.value

def ofText (position : Nat) : Text → List PatternToken
  | [] => []
  | .char '\\' :: .char 'x' :: high :: low :: rest =>
      let number := (Text.hexValue? [high, low]).getD 0
      ⟨"\\x", .escaped number, position, position + 4⟩ :: ofText (position + 4) rest
  | .char '\\' :: point :: rest =>
      let sign := if point = .char 'b' then .boundary else .escaped (escapedNumber point)
      ⟨[.char '\\', point], sign, position, position + 2⟩ :: ofText (position + 2) rest
  | point :: rest => ⟨[point], .bare point, position, position + 1⟩ :: ofText (position + 1) rest

def number (token : PatternToken) : Nat :=
  match token.sign with
  | .bare point => point.value
  | .escaped number => number
  | .boundary => 8

def isBare (token : PatternToken) (c : Char) : Bool :=
  token.sign == .bare (.char c)

end PatternToken

namespace Pattern

/-- A group that is being read: where it was opened, the alternatives before the last bar,
and the parts after it, the newest first. -/
structure Group where
  opened : Nat
  alternatives : Option Pattern
  parts : List Pattern

/-- A set that is being read: where it was opened, its ranges, and the character that may
yet be the first of a range, with the hyphen if it has been read. -/
structure OpenSet where
  opened : Nat
  ranges : List (Nat × Nat)
  first : Option PatternToken
  hyphen : Bool

/-- A pattern that is being read: its innermost group, the groups around it, and the set
within which the next token stands. -/
structure Reading where
  group : Group
  around : List Group
  set : Option OpenSet

namespace Group

def openedAt (position : Nat) : Group := ⟨position, none, []⟩

def pattern (group : Group) : Pattern :=
  let last := sequence group.parts.reverse
  match group.alternatives with
  | some others => .either others last
  | none => last

def push (group : Group) (part : Pattern) : Group :=
  { group with parts := part :: group.parts }

def repeated (change : PointSet → Pattern) (group : Group) : Group :=
  match group.parts with
  | .point allowed :: parts => { group with parts := change allowed :: parts }
  | _ => group

end Group

def atLeastOnce (allowed : PointSet) : Pattern :=
  .chain (.point allowed) (.points allowed)

def atMostOnce (allowed : PointSet) : Pattern :=
  .either (.point allowed) .nothing

def character (number : Nat) : Pattern :=
  .point (.between [(number, number)])

namespace Reading

def initial : Reading := ⟨.openedAt 0, [], none⟩

def push (reading : Reading) (part : Pattern) : Reading :=
  { reading with group := reading.group.push part }

def close (reading : Reading) (position : Nat) : Except Failure Reading :=
  match reading.around with
  | [] => .error (.malformedPattern .unopened position)
  | outer :: around => .ok ⟨outer.push reading.group.pattern, around, none⟩

def outside (reading : Reading) (token : PatternToken) : Except Failure Reading :=
  let group := reading.group
  match token.sign with
  | .escaped number => .ok (reading.push (character number))
  | .boundary => .ok (reading.push .boundary)
  | .bare (.char '(') =>
      .ok ⟨.openedAt token.starts, group :: reading.around, none⟩
  | .bare (.char ')') => reading.close token.starts
  | .bare (.char '|') =>
      .ok { reading with group := ⟨group.opened, some group.pattern, []⟩ }
  | .bare (.char '[') => .ok { reading with set := some ⟨token.starts, [], none, false⟩ }
  | .bare (.char '.') => .ok (reading.push (.point .anyButNewline))
  | .bare (.char '^') => .ok (reading.push .start)
  | .bare (.char '$') => .ok (reading.push .finish)
  | .bare (.char '*') => .ok { reading with group := group.repeated .points }
  | .bare (.char '+') => .ok { reading with group := group.repeated atLeastOnce }
  | .bare (.char '?') => .ok { reading with group := group.repeated atMostOnce }
  | .bare other => .ok (reading.push (character other.value))

def closeSet (reading : Reading) (ranges : List (Nat × Nat)) : Reading :=
  ⟨reading.group.push (.point (.between ranges)), reading.around, none⟩

/-- Reads a token within a set: a member, the hyphen or the last character of a range, or
the bracket that ends a set with members. -/
def within (reading : Reading) (set : OpenSet) (token : PatternToken) : Except Failure Reading :=
  let continued (set : OpenSet) : Except Failure Reading := .ok { reading with set := some set }
  let single (member : PatternToken) : Nat × Nat := (member.number, member.number)
  match set.first, set.hyphen with
  | none, _ =>
      if token.isBare ']' && !set.ranges.isEmpty then .ok (reading.closeSet set.ranges)
      else continued { set with first := some token }
  | some first, false =>
      if token.isBare ']' then .ok (reading.closeSet (single first :: set.ranges))
      else if token.isBare '-' then continued { set with hyphen := true }
      else continued { set with ranges := single first :: set.ranges, first := some token }
  | some first, true =>
      if token.isBare ']' then
        .ok (reading.closeSet (('-'.toNat, '-'.toNat) :: single first :: set.ranges))
      else if token.number < first.number then
        .error (.malformedPattern (.badRange first.shown token.shown)
          (token.ends - (first.shown.length + 1 + token.shown.length)))
      else continued ⟨set.opened, (first.number, token.number) :: set.ranges, none, false⟩

def step (reading : Reading) (token : PatternToken) : Except Failure Reading :=
  match reading.set with
  | some set => reading.within set token
  | none => reading.outside token

def finish (reading : Reading) : Except Failure Pattern :=
  match reading.set, reading.around with
  | some set, _ => .error (.malformedPattern .unclosedSet set.opened)
  | none, [] => .ok reading.group.pattern
  | none, _ => .error (.malformedPattern .unclosed reading.group.opened)

end Reading

def ofText (text : Text) : Except Failure Pattern := do
  ((← (PatternToken.ofText 0 text).foldlM Reading.step .initial)).finish

end Pattern

namespace Marker

def signBytes : List UInt8 :=
  "()[]\x7b\x7d?*+-|^$\\.&~# \t\n\r\x0b\x0c".toList.map Char.toUInt8

def escapedByte (byte : UInt8) : List UInt8 :=
  if signBytes.contains byte then [92, byte] else [byte]

/-- The text of the pattern that a marker of bytes amounts to: the display of its escaped
bytes as a word.  The display escapes the backslashes in turn, so that a sign keeps its
meaning and stands after a backslash. -/
def patternText (bytes : List UInt8) : Text :=
  "\\b" ++ Text.quotedBytes false (bytes.flatMap escapedByte) ++ "\\b"

end Marker
end PooledQuery
