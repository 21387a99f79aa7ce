/-
Scripted work on a log of slow statements.
-/
import PooledQuery.SlowLog

namespace PooledQuery.Rehearsal

/-- What is asked of a log of slow statements. -/
inductive SlowLogCommand where
  | add (entry : SlowEntry)
  | get (key : Text)
  | has (key : Text)
  | size
  | entries
  | clear

inductive SlowLogAnswer where
  | flag (flag : Bool)
  | entry (entry : Option SlowEntry)
  | size (size : Nat)
  | entries (log : SlowLog)
  | nothing

def performOnSlowLog (log : SlowLog) : SlowLogCommand → SlowLogAnswer × SlowLog
  | .add entry =>
      let (isNew, grown) := log.add entry
      (.flag isNew, grown)
  | .get key => (.entry (log.get? key), log)
  | .has key => (.flag (log.has key), log)
  | .size => (.size log.length, log)
  | .entries => (.entries log, log)
  | .clear => (.nothing, [])

def rehearseSlowLog (log : SlowLog) : List SlowLogCommand → List SlowLogAnswer
  | [] => []
  | command :: rest =>
      let (answer, after) := performOnSlowLog log command
      answer :: rehearseSlowLog after rest

end PooledQuery.Rehearsal
