/-
What a session does that others can see.

Events are calls of the pool, of a driver's connection and cursor, of the transform and of
the sink, and records of the log.  A call is an event even if it fails.  A record keeps the
parts of its line, and what reads the log puts them together: that they cannot be written
is no failure of the session.
-/
import PooledQuery.Rows.Outcome

namespace PooledQuery

/-- The severities of log records, from the least. -/
inductive Severity where
  | info
  | warning
  | error
  | critical
  deriving DecidableEq, Repr

namespace Severity

def rank : Severity → Nat
  | .info => 0
  | .warning => 1
  | .error => 2
  | .critical => 3

def reaches (severity floor : Severity) : Bool :=
  floor.rank ≤ severity.rank

end Severity

/-- The logs: of single statements, and of pages. -/
inductive LogChannel where
  | statements
  | pages
  deriving DecidableEq, Repr

inductive LogLine where
  | text (content : Text)
  | echoed (statement : Text) (outcome : Outcome)
  | pageFailed (page : Value) (limit : Number)

namespace LogLine

def written : LogLine → Except Failure Text
  | .text content => .ok content
  | .echoed statement outcome => do
      return "SQL] " ++ statement ++ " :: " ++ (← outcome.display)
  | .pageFailed page limit => do
      return "SQL] paging failed (page=" ++ (← page.writtenText) ++ ", limit=" ++
        (← (Value.number limit).writtenText) ++ ")"

instance : Coe LogLine Text where
  coe line := line.written.toOption.getD []

end LogLine

inductive Event where
  | acquire
  | release
  | selfRelease
  | begin
  | beginTransaction
  | commit
  | rollback
  -- A statement goes to the connection without a cursor.
  | direct (sql : Text)
  | execute (sql : Text) (params : Option (List Value))
  | close
  | transform (name : Text) (value : Value)
  | report (sql : Text) (params : List Value)
  | log (channel : LogChannel) (severity : Severity) (line : LogLine) (cause : Option Failure)

end PooledQuery
