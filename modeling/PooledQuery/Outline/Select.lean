/-
The outline of a SELECT statement: the labels of its columns and the name of its table.

The outline is read from the text alone.  Leading common table expressions are passed
over, and the projection ends at the first FROM outside parentheses and quotes.
-/
import PooledQuery.Outline.Source

namespace PooledQuery

/-- Column labels and table name of a SELECT; without a source the table is empty. -/
structure SelectOutline where
  columns : List Text
  table : Text
  deriving DecidableEq, Repr

namespace SelectOutline

def normalized (statement : Text) : Text :=
  Text.trim ((Text.singleSpaced statement).reverse.dropWhile (· == .char ';')).reverse

/-- The statement from its outer SELECT on, when it starts with common table expressions. -/
def withoutTableExpressions (statement : Text) : Text :=
  match Keyword.word "WITH" none statement with
  | some _ =>
      match Keyword.first? (Keyword.word "SELECT") statement with
      | some found => found.here
      | none => statement
  | none => statement

def afterLeadingWord? (word statement : Text) : Option Text := do
  Keyword.afterBlanks? (← Text.afterWord? word statement)

def withoutSelect (statement : Text) : Text :=
  match afterLeadingWord? "SELECT" statement with
  | some rest =>
      ((afterLeadingWord? "DISTINCT" rest).or (afterLeadingWord? "ALL" rest)).getD rest
  | none => statement

def ofStatement (statement : Text) : SelectOutline :=
  let body := withoutSelect (withoutTableExpressions (normalized statement))
  let (projection, source) := match Keyword.first? (Keyword.word "FROM") body with
    | some found => (found.before, found.after)
    | none => (body, [])
  { columns := ((Text.commaItems projection).filter fun item => !item.isEmpty).map Column.label
    table := Source.table (Text.trim source) }

end SelectOutline
end PooledQuery
