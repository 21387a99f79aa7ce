/-
Parentheses and quotes in statement texts.

Every code point of a text has a level: the number of parentheses around it, or none for
a code point of a quoted segment, its quotes included.  A parenthesis has the level of
what lies outside of it, and a closing parenthesis without an opening one leaves the
level at zero.
-/
import PooledQuery.Statement.Quoting
import PooledQuery.Text.Words

namespace PooledQuery

/-- Where a reader of a statement stands with respect to parentheses and quotes. -/
structure Nesting where
  depth : Nat
  quoting : Quoting
  deriving DecidableEq, Repr, Inhabited

namespace Nesting

def top : Nesting := ⟨0, .outside⟩

def step (point : CodePoint) (nesting : Nesting) : Nesting :=
  match nesting.quoting with
  | .inside .. => ⟨nesting.depth, nesting.quoting.step point⟩
  | .outside =>
      if point = .char '(' then ⟨nesting.depth + 1, .outside⟩
      else if point = .char ')' then ⟨nesting.depth - 1, .outside⟩
      else ⟨nesting.depth, nesting.quoting.step point⟩

def level (point : CodePoint) (nesting : Nesting) : Option Nat :=
  match nesting.quoting with
  | .inside .. => none
  | .outside =>
      if (Quoting.quote? point).isSome then none
      else if point = .char ')' then some (nesting.depth - 1)
      else some nesting.depth

/-- Whether the next code point, when it is the given one, lies outside parentheses and
quotes. -/
def isTop (point : CodePoint) (nesting : Nesting) : Bool :=
  nesting.level point == some 0

def levelsFrom (nesting : Nesting) : Text → List (Option Nat)
  | [] => []
  | point :: rest => nesting.level point :: levelsFrom (nesting.step point) rest

def levels (text : Text) : List (Option Nat) :=
  levelsFrom top text

def after (nesting : Nesting) (text : Text) : Nesting :=
  text.foldl (fun reached point => reached.step point) nesting

def commaPiecesFrom (nesting : Nesting) : Text → List Text
  | [] => [[]]
  | point :: rest =>
      let following := commaPiecesFrom (nesting.step point) rest
      if point = .char ',' ∧ nesting.isTop point then [] :: following
      else
        match following with
        | [] => [[point]]
        | first :: others => (point :: first) :: others

end Nesting

namespace Text

/-- The items of a list: the trimmed pieces between the commas outside parentheses and
quotes. -/
def commaItems (text : Text) : List Text :=
  (Nesting.commaPiecesFrom .top text).map trim

end Text
end PooledQuery
