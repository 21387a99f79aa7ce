/-
Quotes in statement texts.

Single quotes, double quotes and backticks open a quoted segment that ends at the next
quote of the same kind.  Between single or double quotes a backslash takes the following
character with it.
-/
import PooledQuery.Text.Quoted

namespace PooledQuery

/-- Where a reader of a statement stands with respect to quotes. -/
inductive Quoting where
  | outside
  | inside (quote : Char) (escaped : Bool)
  deriving DecidableEq, Repr, Inhabited

namespace Quoting

def quote? : CodePoint → Option Char
  | .char c =>
      if c = Text.singleQuote ∨ c = Text.doubleQuote ∨ c = Text.backtick then some c else none
  | .surrogate _ => none

def step (point : CodePoint) : Quoting → Quoting
  | .outside =>
      match quote? point with
      | some quote => .inside quote false
      | none => .outside
  | .inside quote true => .inside quote false
  | .inside quote false =>
      if point = .char '\\' ∧ quote ≠ Text.backtick then .inside quote true
      else if point = .char quote then .outside
      else .inside quote false

def after (quoting : Quoting) (text : Text) : Quoting :=
  text.foldl (fun reached point => step point reached) quoting

end Quoting
end PooledQuery
