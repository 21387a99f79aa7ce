/-
Rehearsed sessions in which only statements fail.

A willing connection has every operation that a session may call, and none of them fails;
what its statements do is up to a script.
-/
import PooledQuery.Proofs.Session.Trace
import PooledQuery.Rehearsal.Stage
import PooledQuery.Session.Query

namespace PooledQuery.Rehearsal

def willing (script : List Line) : ConnectionPlan where
  script := script
  begin := .immediate
  beginTransaction := .missing
  release := .missing
  close := .deferred
  isolationLevel := none
  inTransaction := none
  failing := []

def willingSession (dialect : Dialect) (script : List Line) : Session Stage where
  pool := pool ⟨.deferred, .immediate, []⟩
  driver := driver (willing script)
  dialect := dialect
  logFloor := .info

/-- A world with a sink that takes every statement. -/
def quietWorld (echo : Echo) (script : List Line) (leases : List Lease) : World Stage where
  collaborators := start (willing script)
  settings := ⟨echo, .int 10, .bool false, .int 1000, .text "IGNORE"⟩
  transform := .identity
  sink := .report fun _sql _params => .ok ()
  slowLog := []
  leases := leases

theorem quietWorld_neverFails (echo : Echo) (script : List Line) (leases : List Lease) :
    (quietWorld echo script leases).sink.NeverFails :=
  fun _sql _params => rfl

/-- A script in which a driver refuses the statements with a marker. -/
def refusing (marker : Text) : List Line :=
  [⟨marker, [⟨none, some (.raised .driver "refused"), none, [], []⟩]⟩]

end PooledQuery.Rehearsal
