/-
Optional parts of statements.

A fragment is rendered when at least one of its values is present, and replaced by a
comment otherwise.  Fragments are spliced into statements that the driver interpolates,
so in the format style every percent sign is doubled.
-/
import PooledQuery.Statement.Template

namespace PooledQuery

namespace Fragment

def isPresent : Value → Bool
  | .null => false
  | .text content => !content.isEmpty
  | _ => true

def doubledPercents (text : Text) : Text :=
  text.flatMap fun point => if point = .char '%' then [point, point] else [point]

def spliced (dialect : Option Dialect) (fragment : Text) (values : List Value) :
    Except Failure Text := do
  let rendered ← Template.render dialect fragment values
  return if dialect.any Dialect.usesFormat then doubledPercents rendered else rendered

def whenPresent (dialect : Option Dialect) (fragment : Text) (values : List Value) :
    Except Failure Text :=
  if values.any isPresent then spliced dialect fragment values else .ok "-- calTo"

/-- A search pattern for a value: its plain text, if it can be written, between percent
signs. -/
def pattern : Value → Except Failure Value
  | .null => .ok .null
  | value => do return .text (.char '%' :: (← value.writtenText) ++ [.char '%'])

def likeWhenPresent (dialect : Option Dialect) (fragment : Text) (values : List Value) :
    Except Failure Text :=
  if values.any isPresent then do
    let patterns ← values.mapM pattern
    spliced dialect fragment patterns
  else .ok "/* calTo */"

/-- The line of one condition: a comparison if the value counts as true, and a comment
if it does not. -/
def condition (key value : Value) : Except Failure Text := do
  if value.isTruthy then
    return "AND " ++ (← key.writtenText) ++ " = " ++ (← Literal.ofValue value)
  else
    return "/* SKIP :: " ++ (← key.writtenText) ++ " */"

def conjunction (conditions : Entries) : Except Failure Text := do
  let lines ← conditions.mapM fun entry => condition entry.1 entry.2
  return Text.joined "\n" lines

end Fragment
end PooledQuery
