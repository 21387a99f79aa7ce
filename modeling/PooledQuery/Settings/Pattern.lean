/-
Search patterns.

A pattern says how a text may go on from a place.  Standing at a place, it leads to a list
of later places, one for every way in which the text between them fits; letter case makes no
difference.  A pattern occurs in a text if it leads anywhere from some place of it.
-/
import PooledQuery.Settings.Marker

namespace PooledQuery

/-- A place in a text: the code point before it, and what follows. -/
structure Place where
  before : Option CodePoint
  rest : Text
  deriving DecidableEq, Repr

/-- The code points that fit at one place. -/
inductive PointSet where
  | between (ranges : List (Nat × Nat))
  | anyButNewline
  deriving DecidableEq, Repr

inductive Pattern where
  | nothing
  | point (allowed : PointSet)
  | points (allowed : PointSet)
  | start
  -- Fits at the end of the text, and before a line break that ends it.
  | finish
  | boundary
  | either (left right : Pattern)
  | chain (first second : Pattern)
  deriving DecidableEq, Repr

namespace PointSet

/-- Whether a code point is the caseless equal of one between two numbers. -/
def meets (point : CodePoint) (range : Nat × Nat) : Bool :=
  (List.range' range.1 (range.2 + 1 - range.1)).any fun n =>
    (CodePoint.ofNat? n).any fun member => member.sameLetter point

def allows : PointSet → CodePoint → Bool
  | .between ranges, point => ranges.any (meets point)
  | .anyButNewline, point => point != .char '\n'

end PointSet

namespace Place

def afterPoint? (allowed : PointSet) (place : Place) : Option Place :=
  match place.rest with
  | [] => none
  | point :: rest => if allowed.allows point then some ⟨some point, rest⟩ else none

def afterPoints (allowed : PointSet) (before : Option CodePoint) : Text → List Place
  | [] => [⟨before, []⟩]
  | point :: rest =>
      ⟨before, point :: rest⟩ ::
        if allowed.allows point then afterPoints allowed (some point) rest else []

def onlyIf (condition : Bool) (place : Place) : List Place :=
  if condition then [place] else []

/-- Whether the text ends here, or after one line break. -/
def isFinish (place : Place) : Bool :=
  place.rest.isEmpty || place.rest == [.char '\n']

def onwards (before : Option CodePoint) : Text → List Place
  | [] => [⟨before, []⟩]
  | point :: rest => ⟨before, point :: rest⟩ :: onwards (some point) rest

end Place

namespace Pattern

def places : Pattern → Place → List Place
  | .nothing, place => [place]
  | .point allowed, place => (place.afterPoint? allowed).toList
  | .points allowed, place => place.rest |> Place.afterPoints allowed place.before
  | .start, place => place.onlyIf place.before.isNone
  | .finish, place => place.onlyIf place.isFinish
  | .boundary, place => place.onlyIf (Marker.isBoundary place.before place.rest.head?)
  | .either left right, place => (left.places place ++ right.places place).eraseDups
  | .chain first second, place => ((first.places place).flatMap second.places).eraseDups

def occursIn (pattern : Pattern) (text : Text) : Bool :=
  (Place.onwards none text).any fun place => !(pattern.places place).isEmpty

def sequence (patterns : List Pattern) : Pattern :=
  patterns.foldr .chain .nothing

end Pattern
end PooledQuery
