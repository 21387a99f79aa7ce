/-
The marker of statements whose failures are not reported.

The marker is searched in any letter case.  At both of its ends a word character must meet
something that is none.
-/
import PooledQuery.Outline.Keyword

namespace PooledQuery

namespace Marker

def isBoundary (before after : Option CodePoint) : Bool :=
  Keyword.endsWord before != Keyword.endsWord after

/-- Whether the marker stands at the start of a text, after the given code point. -/
def standsAt (marker : Text) (before : Option CodePoint) (text : Text) : Bool :=
  isBoundary before text.head? &&
    match Text.afterWord? marker text with
    | some rest => isBoundary (((text.take marker.length).getLast?).or before) rest.head?
    | none => false

def occursAfter (marker : Text) (before : Option CodePoint) : Text → Bool
  | [] => standsAt marker before []
  | point :: rest =>
      standsAt marker before (point :: rest) || occursAfter marker (some point) rest

def occursIn (marker sql : Text) : Bool :=
  occursAfter marker none sql

end Marker
end PooledQuery
