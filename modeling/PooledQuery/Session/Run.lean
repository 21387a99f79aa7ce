/-
Runs of statement bodies.

A run borrows one connection, gives its lease to a body, and gives the connection back on
every path.  In a transaction the body runs between begin and commit; any failure rolls
back, and then the statements that failed on the lease are handed to the sink in order.
-/
import PooledQuery.Session.Query

namespace PooledQuery

/-- A body of statements.  A statement hands its outcome or its failure on, so a body may
pass over failures. -/
inductive Body (α : Type) where
  | finish (result : α)
  | stop (failure : Failure)
  | query (sql : Text) (params : List Value) (next : Except Failure Outcome → Body α)

namespace Body

variable {α β : Type}

def andThen : Body α → (α → Body β) → Body β
  | .finish result, next => next result
  | .stop failure, _ => .stop failure
  | .query sql params more, next => .query sql params fun outcome => (more outcome).andThen next

instance : Monad Body where
  pure := finish
  bind := andThen

def ofExcept : Except Failure α → Body α
  | .ok result => .finish result
  | .error failure => .stop failure

def ask (sql : Text) (params : List Value) : Body Outcome :=
  .query sql params ofExcept

end Body

namespace Session

variable {σ α : Type} (session : Session σ)

def acquire : Action (World σ) Unit :=
  match session.pool.acquire with
  | .absent => Action.fail (.missingAttribute session.pool.typeName "acquire")
  | .notCallable type => Action.fail (.notCallable type)
  | .callable _ effect => World.call .acquire effect

/-- Rolls back and hands the statements that failed on the lease to the sink. -/
def abandon (id : LeaseId) : Action (World σ) Unit := do
  Lease.rollback session.driver id
  World.reportAll ((← Action.read).lease id).failed

def inTransaction (id : LeaseId) (body : Action (World σ) α) : Action (World σ) α := do
  let outcome ← Action.attempt do
    Lease.begin session.driver session.dialect id
    let result ← body
    Lease.commit session.driver id
    return result
  match outcome with
  | .ok result => return result
  | .error failure =>
      session.abandon id
      Action.fail failure

/-- Runs a body on a borrowed connection, within a transaction or not. -/
def run (transactional : Bool) (body : LeaseId → Action (World σ) α) : Action (World σ) α := do
  session.acquire
  let id ← World.addLease transactional
  let work := if transactional then session.inTransaction id (body id) else body id
  Action.thenAlways work (Lease.release session.pool session.driver id)

def perform (id : LeaseId) : Body α → Action (World σ) α
  | .finish result => return result
  | .stop failure => Action.fail failure
  | .query sql params next => do
      let outcome ← Action.attempt (session.query id sql params)
      perform id (next outcome)

def runBody (transactional : Bool) (body : Body α) : Action (World σ) α :=
  session.run transactional fun id => session.perform id body

def single (sql : Text) (params : List Value) : Action (World σ) Outcome :=
  session.run false fun id => session.query id sql params

end Session
end PooledQuery
