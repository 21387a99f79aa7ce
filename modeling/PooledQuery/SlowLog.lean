/-
The log of slow statements.

An entry is kept under the fingerprint of its statement, and only the first entry of a
fingerprint is kept.
-/
import PooledQuery.Value.Basic

namespace PooledQuery

/-- A statement that took longer than the threshold. -/
structure SlowEntry where
  key : Text
  sql : Text
  params : List Value
  elapsed : Value

abbrev SlowLog := List SlowEntry

namespace SlowLog

def get? (log : SlowLog) (key : Text) : Option SlowEntry :=
  log.find? fun entry => entry.key == key

def has (log : SlowLog) (key : Text) : Bool :=
  (get? log key).isSome

/-- The log with an entry at its end, unless its key is there; and whether it was added. -/
def add (log : SlowLog) (entry : SlowEntry) : Bool × SlowLog :=
  if has log entry.key then (false, log) else (true, log ++ [entry])

end SlowLog
end PooledQuery
