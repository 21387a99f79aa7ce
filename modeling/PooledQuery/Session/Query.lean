/-
Single statements of a session.

A statement is executed on a lease.  After its success the driver's answer becomes an
outcome, the statement is echoed, and it is recorded if it was slow.  After an ordinary
failure the log gets a line, and the statement is reported unless it is to be ignored:
within a transaction it is kept on the lease, otherwise the sink gets it at once.
-/
import PooledQuery.Fingerprint.Basic
import PooledQuery.Session.Lease

namespace PooledQuery

/-- A session's collaborators: the pool, the driver of its connections, their dialect, and
the least severity that the log keeps. -/
structure Session (σ : Type) where
  pool : Pool σ
  driver : Driver σ
  dialect : Dialect
  logFloor : Severity

namespace Session

variable {σ : Type} (session : Session σ)

def log (channel : LogChannel) (severity : Severity) (line : LogLine) (cause : Option Failure) :
    Action (World σ) Unit := do
  if severity.reaches session.logFloor then
    Action.emit (.log channel severity line cause)

def rendered (sql : Text) (params : List Value) : Action (World σ) Text :=
  Action.ofExcept (Template.render (some session.dialect) sql params)

/-- The line that echoes a statement.  An outcome as JSON is written at once. -/
def echoLine (level : Echo) (statement : Text) (outcome : Outcome) : Except Failure LogLine :=
  match level with
  | .full => do
      return .text ("SQL] " ++ Text.singleSpaced statement ++ " :: " ++ (← outcome.written))
  | _ => .ok (.echoed statement outcome)

def echo (sql : Text) (params : List Value) (outcome : Outcome) : Action (World σ) Unit := do
  let level := (← Action.read).settings.echo
  if level ≠ .silent ∧ Severity.info.reaches session.logFloor then
    let statement ← session.rendered sql params
    let line ← Action.ofExcept (echoLine level statement outcome)
    session.log .statements .info line none

def isSlow (settings : Settings) (elapsed : Binary64) : Except Failure Bool := do
  if settings.recordsSlow.isTruthy then
    return !(← Number.holds .atMost (.float elapsed) settings.slowThreshold)
  else
    return false

/-- Records a statement if it was slow, and logs it when the record is new. -/
def recordSlow (sql : Text) (params : List Value) (elapsed : Binary64) : Action (World σ) Unit := do
  if ← Action.ofExcept (isSlow (← Action.read).settings elapsed) then
    let key ← Action.ofExcept (Fingerprint.ofStatement (some session.dialect) sql params)
    let (isNew, slowLog) := (← Action.read).slowLog.add ⟨key, sql, params, .float elapsed⟩
    Action.update fun world => { world with slowLog := slowLog }
    if isNew then
      let statement ← session.rendered sql params
      session.log .statements .warning
        (.text ("Slow SQL] " ++ elapsed.oneDecimal ++ "ms " ++ statement)) none

def complete (sql : Text) (params : List Value) (response : Value) (elapsed : Binary64) :
    Action (World σ) Outcome := do
  let outcome ← World.outcomeOf response
  session.echo sql params outcome
  session.recordSlow sql params elapsed
  return outcome

def logFailure (sql : Text) (params : List Value) : Action (World σ) Unit := do
  if (← Action.read).settings.echo ≠ .silent then
    let statement ← session.rendered sql params
    session.log .statements .warning (.text ("SQL failed] " ++ statement)) none

/-- Keeps a failed statement on its lease within a transaction, and hands it to the sink
otherwise, unless it is to be ignored. -/
def keepFailure (id : LeaseId) (sql : Text) (params : List Value) : Action (World σ) Unit := do
  let world ← Action.read
  unless ← Action.ofExcept (world.settings.ignores sql) do
    if (world.lease id).transactional then
      World.updateLease id fun lease => { lease with failed := lease.failed ++ [(sql, params)] }
    else
      World.report (sql, params)

def reportFailure (id : LeaseId) (sql : Text) (params : List Value) : Action (World σ) Unit := do
  session.logFailure sql params
  keepFailure id sql params

def now : Action (World σ) Binary64 := do
  return session.driver.now (← Action.read).collaborators

def milliseconds (started ended : Binary64) : Binary64 :=
  (ended.sub started).mul (Binary64.ofRat 1000)

def query (id : LeaseId) (sql : Text) (params : List Value) : Action (World σ) Outcome := do
  let started ← session.now
  match ← Action.attempt (Lease.execute session.driver id sql params) with
  | .error failure =>
      if failure.isOrdinary then
        session.reportFailure id sql params
      Action.fail failure
  | .ok response =>
      let ended ← session.now
      session.complete sql params response (milliseconds started ended)

def answered (sql : Text) (params : List Value) (response : Value) : Action (World σ) Outcome :=
  session.complete sql params response (Binary64.signedZero false)

end Session
end PooledQuery
