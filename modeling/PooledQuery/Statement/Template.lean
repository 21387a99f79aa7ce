/-
Statements with positional placeholders.

A template is read into pieces: characters to copy, and holes where a placeholder stands
outside quotes.  Rendering fills the holes with the literals of the parameters from the
left; holes beyond the last parameter keep their placeholder.
-/
import PooledQuery.Statement.Dialect
import PooledQuery.Statement.Literal
import PooledQuery.Statement.Quoting

namespace PooledQuery

/-- A part of a template: a code point to copy, or a hole for a parameter. -/
inductive Piece where
  | copied (point : CodePoint)
  | hole
  deriving DecidableEq, Repr

namespace Template

/-- The pieces of a text.  The next `skipped` code points belong to a placeholder. -/
def piecesFrom (token : Text) (quoting : Quoting) (skipped : Nat) : Text → List Piece
  | [] => []
  | point :: rest =>
      match skipped with
      | remaining + 1 => piecesFrom token quoting remaining rest
      | 0 =>
          if quoting = .outside ∧ token.isPrefixOf (point :: rest) then
            .hole :: piecesFrom token quoting (token.length - 1) rest
          else
            .copied point :: piecesFrom token (quoting.step point) 0 rest

def pieces (token : Text) (text : Text) : List Piece :=
  piecesFrom token .outside 0 text

def fill (token : Text) : List Piece → List Value → Except Failure Text
  | [], _ => .ok []
  | .copied point :: rest, params => do return point :: (← fill token rest params)
  | .hole :: rest, [] => do return token ++ (← fill token rest [])
  | .hole :: rest, value :: params => do
      let literal ← Literal.ofValue value
      return literal ++ (← fill token rest params)

def render (dialect : Option Dialect) (text : Text) (params : List Value) : Except Failure Text := do
  let token ← Dialect.placeholderOf dialect
  fill token (pieces token text) params

end Template
end PooledQuery
