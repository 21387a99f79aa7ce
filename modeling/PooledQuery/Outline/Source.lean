/-
The name of the table that a SELECT reads from.

The first item of the source clause, up to the first join or later clause, is a name or
a derived table in parentheses.  Its alias is preferred to its name, and a derived table
without alias has a placeholder for one.
-/
import PooledQuery.Outline.Column

namespace PooledQuery

namespace Source

def joinSides : List (List Text) :=
  [[], ["INNER"], ["LEFT"], ["RIGHT"], ["FULL"], ["CROSS"]]

def optional (keyword : Text) : List (List Text) :=
  [[], [keyword]]

/-- The phrases of a join: modifiers in a fixed order, each of them optional. -/
def joinPhrases : List (List Text) :=
  (optional "NATURAL").flatMap fun natural =>
    joinSides.flatMap fun side =>
      (optional "OUTER").map fun outer => natural ++ side ++ outer ++ [("JOIN" : Text)]

def clausePhrases : List (List Text) :=
  [["STRAIGHT_JOIN"], ["WHERE"], ["GROUP", "BY"], ["ORDER", "BY"], ["HAVING"], ["LIMIT"],
    ["UNION"], ["WINDOW"], ["FOR", "UPDATE"]]

def endPhrases : List (List Text) :=
  joinPhrases ++ clausePhrases

def clauseEnd : Recognizer :=
  Keyword.firstOf (endPhrases.map Keyword.phrase)

/-- What follows the first closing parenthesis outside parentheses and quotes, or nothing
if there is none. -/
def afterClosing (nesting : Nesting) : Text → Text
  | [] => []
  | point :: rest =>
      if point = .char ')' ∧ nesting.isTop point then rest
      else afterClosing (nesting.step point) rest

def nameAndRest (item : Text) : Text × List Text :=
  match item with
  | .char '(' :: _ => ("(...)", Text.words (afterClosing .top item))
  | _ =>
      match Text.words item with
      | [] => ([], [])
      | name :: rest => (name, rest)

def withoutAliasKeyword (words : List Text) : List Text :=
  match words with
  | [] => []
  | first :: rest => if Text.upper first = "AS" then rest else first :: rest

/-- The alias or the name of the first table of a source clause; empty when the clause
is. -/
def table (clause : Text) : Text :=
  let tables := match Keyword.first? clauseEnd clause with
    | some found => found.before
    | none => clause
  match Text.commaItems tables with
  | [] => []
  | item :: _ =>
      let (name, rest) := nameAndRest item
      Text.unquoted ((withoutAliasKeyword rest).headD name)

end Source
end PooledQuery
