/-
SQL dialects.

A dialect decides how positional parameters are written and how a statement is bounded to
a range of rows.
-/
import PooledQuery.Failure

namespace PooledQuery

/-- How a dialect writes the clause that bounds a statement to a range of rows. -/
inductive RangeClause where
  -- The standard clause, with the dialect's placeholder.
  | standard
  | own (clause : Text)
  deriving DecidableEq, Repr

structure Dialect where
  name : Text
  parameterStyle : Text
  range : RangeClause
  deriving DecidableEq, Repr

namespace Dialect

def generic : Dialect := ⟨"generic", "qmark", .standard⟩

def sqlite : Dialect := ⟨"sqlite", "qmark", .own "LIMIT ?, ?"⟩

def postgres : Dialect := ⟨"postgres", "format", .own "OFFSET %s LIMIT %s"⟩

def mysql : Dialect := ⟨"mysql", "format", .own "LIMIT %s, %s"⟩

/-- The dialect that differs from the generic one in its name and parameter style only. -/
def named (name parameterStyle : Text) : Dialect := ⟨name, parameterStyle, .standard⟩

/-- Whether parameters are written in the style of a format string. -/
def usesFormat (dialect : Dialect) : Bool :=
  dialect.parameterStyle == "format"

def placeholder (dialect : Dialect) : Except Failure Text :=
  if dialect.parameterStyle = "qmark" then .ok "?"
  else if dialect.usesFormat then .ok "%s"
  else .error (.unsupportedParameterStyle dialect.parameterStyle)

def rangeClause (dialect : Dialect) : Except Failure Text :=
  match dialect.range with
  | .own clause => .ok clause
  | .standard => do
      let token ← dialect.placeholder
      return "OFFSET " ++ token ++ " ROWS FETCH NEXT " ++ token ++ " ROWS ONLY"

def rangeClauseOf : Option Dialect → Except Failure Text
  | none => .error (.missingAttribute "NoneType" "range_clause")
  | some dialect => dialect.rangeClause

def placeholderOf : Option Dialect → Except Failure Text
  | none => .ok "?"
  | some dialect => dialect.placeholder

end Dialect
end PooledQuery
