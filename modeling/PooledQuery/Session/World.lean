/-
The state of a session.

Besides the state of its collaborators a session has settings, a transform, a sink, the
log of slow statements, and a lease for every connection that it has borrowed.
-/
import PooledQuery.Rows.Outcome
import PooledQuery.Session.Action
import PooledQuery.Session.Driver
import PooledQuery.Settings.Basic
import PooledQuery.SlowLog

namespace PooledQuery

abbrev FailedStatement := Text × List Value

/-- Where failed statements go: nowhere, or to a function that may fail itself. -/
inductive Sink where
  | discard
  | report (respond : Text → List Value → Except Failure Unit)

/-- A borrowed connection, and the statements that failed on it within its transaction. -/
structure Lease where
  isOpen : Bool
  transactional : Bool
  failed : List FailedStatement

abbrev LeaseId := Nat

/-- The state of a session over collaborators with state `σ`. -/
structure World (σ : Type) where
  collaborators : σ
  settings : Settings
  transform : Transform
  sink : Sink
  slowLog : SlowLog
  leases : List Lease

namespace World

variable {σ : Type}

def lease (world : World σ) (id : LeaseId) : Lease :=
  world.leases.getD id ⟨false, false, []⟩

def perform {α : Type} (effect : Effect σ α) : Action (World σ) α := fun world =>
  let (outcome, collaborators) := effect world.collaborators
  ⟨outcome, { world with collaborators := collaborators }, []⟩

def call {α : Type} (event : Event) (effect : Effect σ α) : Action (World σ) α := do
  Action.emit event
  perform effect

def callIfPresent (event : Event) : Hook σ → Action (World σ) Bool
  | .callable _ effect => do
      call event effect
      return true
  | _ => return false

def updateLease (id : LeaseId) (change : Lease → Lease) : Action (World σ) Unit :=
  Action.update fun world => { world with leases := world.leases.modify id change }

def addLease (transactional : Bool) : Action (World σ) LeaseId := fun world =>
  ⟨.ok world.leases.length,
    { world with leases := world.leases ++ [⟨true, transactional, []⟩] }, []⟩

def updateSettings (change : Settings → Except Failure Settings) : Action (World σ) Unit := do
  let world ← Action.read
  let settings ← Action.ofExcept (change world.settings)
  Action.update fun world => { world with settings := settings }

def report (statement : FailedStatement) : Action (World σ) Unit := do
  match (← Action.read).sink with
  | .discard => return ()
  | .report respond =>
      Action.emit (.report statement.1 statement.2)
      Action.ofExcept (respond statement.1 statement.2)

def reportAll : List FailedStatement → Action (World σ) Unit
  | [] => return ()
  | statement :: rest => do
      report statement
      reportAll rest

/-- The outcome of a driver's answer.  The calls of an observed transform are events. -/
def outcomeOf (response : Value) : Action (World σ) Outcome := do
  let transform := (← Action.read).transform
  let (outcome, calls) := (Outcome.ofResponse transform response).outcome
  if transform.observed then
    Action.emitAll (calls.map fun call => .transform call.1 call.2)
  Action.ofExcept outcome

end World
end PooledQuery
