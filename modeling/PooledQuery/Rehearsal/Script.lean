/-
Scripted sessions.

A command is something that a user of a session asks for; a routine is a body of steps,
which are statements, failures, and commands on the same session.  A rehearsal performs
commands one after the other and keeps the answer and the events of each.
-/
import PooledQuery.Rehearsal.Rule
import PooledQuery.Rehearsal.Stage
import PooledQuery.Session.Select

namespace PooledQuery.Rehearsal

mutual

/-- What is asked of a session. -/
inductive Command where
  | query (sql : Text) (params : List Value)
  | first (sql : Text) (params : List Value)
  -- The rows of a statement whose outline has been read.
  | fetch (sql : Text) (params : List Value)
  | page (sql : Text) (request : PageRequest) (params : List Value)
  | slice (sql : Text) (index count : Value) (params : List Value)
  | run (transactional : Bool) (routine : Routine)
  | savedQuery (sql : Text) (params : List Value)
  | savedFailures
  | answered (sql : Text) (params : List Value) (response : Value)
  | slowLog
  | slowHas (key : Text)
  | clearSlow
  | ignores (sql : Text)
  | settings
  | setEcho (value : Value)
  | setDefaultLimit (value : Value)
  | setRecordsSlow (value : Value)
  | setSlowThreshold (value : Value)
  | setTransform (transform : Transform)
  | setSink (sink : Sink)

/-- A body: a value that is given at once, or steps.  A routine may leave its lease
behind. -/
inductive Routine where
  | constant (value : Value)
  | steps (saves : Bool) (steps : List Step)

/-- A step; a suppressed one has an answer also when it fails ordinarily. -/
inductive Step where
  | query (suppressed : Bool) (sql : Text) (params : List Value)
  | failures (suppressed : Bool)
  | stop (suppressed : Bool) (failure : Failure)
  | command (suppressed : Bool) (command : Command)

end

inductive Answer where
  | nothing
  | value (value : Value)
  | outcome (outcome : Outcome)
  | first (row : FirstRow)
  | rows (rows : List Json)
  | page (page : Page)
  | slice (page : SlicePage)
  | steps (answers : List Answer)
  | suppressed (failure : Failure)
  | leaseFailures (transactional : Bool) (failed : List FailedStatement)
  | failures (failed : List FailedStatement)
  | slowLog (log : SlowLog)
  | slowHas (present : Bool) (size : Nat)
  | flag (flag : Bool)
  | settings (settings : Settings)

abbrev Play := Action (World Stage)

def savedLease (missing : Failure) : Play LeaseId := do
  match (← Action.read).collaborators.saved with
  | some id => return id
  | none => Action.fail missing

def saveLease (id : LeaseId) : Play Unit :=
  Action.update fun world =>
    { world with collaborators := { world.collaborators with saved := some id } }

def guarded (suppressed : Bool) (play : Play Answer) : Play Answer := do
  match ← Action.attempt play with
  | .ok answer => return answer
  | .error failure =>
      if suppressed ∧ failure.isOrdinary then return .suppressed failure
      else Action.fail failure

def changeSettings (change : Settings → Except Failure Settings) : Play Answer := do
  World.updateSettings change
  return .nothing

mutual

def perform (session : Session Stage) : Command → Play Answer
  | .query sql params => do return .outcome (← session.single sql params)
  | .first sql params => do return .first (← session.selectFirst sql params)
  | .fetch sql params => do return .rows (← session.selectRows sql params)
  | .page sql request params => do return .page (← session.selectPage sql request params)
  | .slice sql index count params => do
      let part ← Action.ofExcept (Slice.make index count)
      return .slice (← session.selectSlice sql part params)
  | .run transactional routine =>
      session.run transactional fun id => performRoutine session id routine
  | .savedQuery sql params => do
      let id ← savedLease (.notCallable "NoneType")
      return .outcome (← session.query id sql params)
  | .savedFailures => do
      let id ← savedLease (.missingAttribute "NoneType" "failed")
      return .failures ((← Action.read).lease id).failed
  | .answered sql params response => do
      return .outcome (← session.answered sql params response)
  | .slowLog => do return .slowLog (← Action.read).slowLog
  | .slowHas key => do
      let log := (← Action.read).slowLog
      return .slowHas (log.has key) log.length
  | .clearSlow => do
      Action.update fun world => { world with slowLog := [] }
      return .nothing
  | .ignores sql => do
      return .flag (← Action.ofExcept ((← Action.read).settings.ignores sql))
  | .settings => do return .settings (← Action.read).settings
  | .setEcho value => changeSettings fun settings => settings.withEcho value
  | .setDefaultLimit value => changeSettings fun settings => settings.withDefaultLimit value
  | .setRecordsSlow value => changeSettings fun settings => .ok (settings.withRecordsSlow value)
  | .setSlowThreshold value => changeSettings fun settings => settings.withSlowThreshold value
  | .setTransform transform => do
      Action.update fun world => { world with transform := transform }
      return .nothing
  | .setSink sink => do
      Action.update fun world => { world with sink := sink }
      return .nothing

def performRoutine (session : Session Stage) (id : LeaseId) : Routine → Play Answer
  | .constant value => return .value value
  | .steps saves steps => do
      if saves then
        saveLease id
      return .steps (← performSteps session id steps)

def performSteps (session : Session Stage) (id : LeaseId) : List Step → Play (List Answer)
  | [] => return []
  | step :: rest => do
      let answer ← performStep session id step
      return answer :: (← performSteps session id rest)

def performStep (session : Session Stage) (id : LeaseId) : Step → Play Answer
  | .query suppressed sql params =>
      guarded suppressed do return .outcome (← session.query id sql params)
  | .failures suppressed =>
      guarded suppressed do
        let lease := (← Action.read).lease id
        return .leaseFailures lease.transactional lease.failed
  | .stop suppressed failure => guarded suppressed (Action.fail failure)
  | .command suppressed command => guarded suppressed (perform session command)

end

/-- What became of one command: its outcome and its events. -/
structure Record (α : Type) where
  outcome : Except Failure α
  events : List Event

def playAll {α : Type} (world : World Stage) : List (Play α) → List (Record α)
  | [] => []
  | play :: rest =>
      let execution := play world
      ⟨execution.outcome, execution.events⟩ :: playAll execution.state rest

structure SessionPlan where
  connection : ConnectionPlan
  -- A session without a pool cannot be made.
  pool : Option PoolPlan
  dialect : Dialect
  logFloor : Severity
  settings : Settings.Draft
  transform : Transform
  sink : Sink
  commands : List Command

/-- The session of a plan with its first state.  The settings are checked before the pool
is missed. -/
def open? (plan : SessionPlan) : Except Failure (Session Stage × World Stage) := do
  let settings ← plan.settings.settle
  match plan.pool with
  | none => throw .missingPool
  | some poolPlan =>
      return (⟨pool poolPlan, driver plan.connection, plan.dialect, plan.logFloor⟩,
        ⟨start plan.connection, settings, plan.transform, plan.sink, [], []⟩)

def rehearse (plan : SessionPlan) : Except Failure (List (Record Answer)) := do
  let (session, world) ← open? plan
  return playAll world (plan.commands.map (perform session))

end PooledQuery.Rehearsal
