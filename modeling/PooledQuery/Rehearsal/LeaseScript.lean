/-
Scripted work on a single lease.
-/
import PooledQuery.Rehearsal.Script

namespace PooledQuery.Rehearsal

/-- What is asked of a lease. -/
inductive LeaseCommand where
  | execute (sql : Text) (params : List Value)
  | begin
  | commit
  | rollback
  | release (pool : PoolPlan)
  | tabulate (columns : Option (List Text)) (row : Value)

structure LeasePlan where
  connection : ConnectionPlan
  dialect : Dialect
  commands : List LeaseCommand

def withoutResult (play : Play Unit) : Play Value := do
  play
  return .null

def performOnLease (driver : Driver Stage) (dialect : Dialect) : LeaseCommand → Play Value
  | .execute sql params => Lease.execute driver 0 sql params
  | .begin => withoutResult (Lease.begin driver dialect 0)
  | .commit => withoutResult (Lease.commit driver 0)
  | .rollback => withoutResult (Lease.rollback driver 0)
  | .release plan => withoutResult (Lease.release (pool plan) driver 0)
  | .tabulate columns row => Action.ofExcept (Lease.tableOfRow columns row)

/-- Rehearses work on one open lease, under default settings. -/
def rehearseLease (plan : LeasePlan) : Except Failure (List (Record Value)) := do
  let settings ← Settings.Draft.empty.settle
  let world : World Stage :=
    ⟨start plan.connection, settings, .identity, .discard, [], [⟨true, false, []⟩]⟩
  return playAll world (plan.commands.map (performOnLease (driver plan.connection) plan.dialect))

end PooledQuery.Rehearsal
