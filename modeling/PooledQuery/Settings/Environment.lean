/-
Settings from environment variables.

Four variables, whose names share a beginning, give the echo level, the default limit,
whether slow statements are recorded, and their threshold.  A variable that is missing or
empty gives nothing.
-/
import PooledQuery.Settings.Basic
import PooledQuery.Value.Integer

namespace PooledQuery

abbrev Environment := List (Text × Text)

namespace Environment

def nonEmpty? (environment : Environment) (name : Text) : Option Text :=
  match environment.find? fun entry => entry.1 == name with
  | some (_, value) => if value.isEmpty then none else some value
  | none => none

end Environment

namespace Settings.Draft

/-- The words that switch the record of slow statements on.  They hold no letter that is
the lower-case form of a letter beyond ASCII. -/
def affirmatives : List Text :=
  ["1", "true", "yes", "on"]

def isAffirmative (text : Text) : Bool :=
  affirmatives.contains (Text.asciiLower (Text.trim text))

def echoOfText (text : Text) : Except Failure Value := do
  let name := Text.upper (Text.trim text)
  return .text (← Echo.ofName (.text name)).name

/-- The draft that environment variables give; `stem` is the beginning of their names. -/
def ofEnvironment (environment : Environment) (stem : Text) : Except Failure Draft := do
  let setting? (name : Text) : Option Text := environment.nonEmpty? (stem ++ name)
  let echo ← (setting? "LOG").mapM echoOfText
  let limit ← (setting? "LIMIT").mapM fun text => (Value.text text).toInteger
  let slow := (setting? "SLOW_QUERY").map isAffirmative
  let threshold ← (setting? "SLOW_QUERY_MS").mapM Number.readFloat
  return {
    echo := echo
    defaultLimit := limit.map .int
    recordsSlow := slow.map .bool
    slowThreshold := threshold.map .float
    ignoreMarker := none }

def settleWith (environment : Environment) (stem : Text) (overrides : Draft) :
    Except Failure Settings := do
  ((← ofEnvironment environment stem).overriddenBy overrides).settle

end Settings.Draft
end PooledQuery
