/-
A scripted pool and driver.

A rehearsal of a session needs no database: a plan says which operations exist and which
of them fail, and a script answers the statements.  Time passes only as the script says.
-/
import PooledQuery.Session.Driver

namespace PooledQuery.Rehearsal

/-- The state of the scripted collaborators. -/
structure Stage where
  clock : Binary64
  uses : List Nat
  rows : List Value
  -- A lease that a body has left behind.
  saved : Option Nat

/-- A scripted answer.  First its delay passes; then it fails or shows on the cursor. -/
structure Reply where
  delay : Option Binary64
  failure : Option Failure
  columns : Option (List Text)
  rows : List Value
  attributes : List (Text × Value)

/-- A line of the script: the statements that contain the marker get the replies in turn,
and the last reply over and over. -/
structure Line where
  marker : Text
  replies : List Reply

/-- The forms in which an optional operation occurs. -/
inductive Form where
  | immediate
  | deferred
  | missing
  | notCallable
  deriving DecidableEq, Repr

structure ConnectionPlan where
  script : List Line
  begin : Form
  beginTransaction : Form
  release : Form
  close : Form
  isolationLevel : Option Value
  inTransaction : Option Value
  failing : List Text

structure PoolPlan where
  acquire : Form
  release : Form
  failing : List Text

def effect (failing : List Text) (name : Text) (failure : Failure) : Effect Stage Unit :=
  fun stage => (if failing.contains name then .error failure else .ok (), stage)

def operationFailure (name : Text) : Failure :=
  .raised .driver (name ++ " failed")

def hook (form : Form) (operation : Effect Stage Unit) : Hook Stage :=
  match form with
  | .immediate => .callable false operation
  | .deferred => .callable true operation
  | .missing => .absent
  | .notCallable => .notCallable "int"

def contains (part : Text) : Text → Bool
  | [] => part.isEmpty
  | point :: rest => part.isPrefixOf (point :: rest) || contains part rest

def unknownReply : Reply :=
  ⟨none, none, none, [], [("rowcount", .int 0)]⟩

def replyAt (replies : List Reply) (use : Nat) : Reply :=
  (replies[use]?).getD (replies.getLast?.getD unknownReply)

def respond (script : List Line) (sql : Text) : Effect Stage Cursor := fun stage =>
  let index := script.findIdx fun line => contains line.marker sql
  let (reply, uses) := match script[index]? with
    | some line => (replyAt line.replies (stage.uses.getD index 0), stage.uses.modify index (· + 1))
    | none => (unknownReply, stage.uses)
  let clock := match reply.delay with
    | some seconds => stage.clock.add seconds
    | none => stage.clock
  let stage := { stage with clock := clock, uses := uses }
  match reply.failure with
  | some failure => (.error failure, stage)
  | none => (.ok ⟨reply.columns, reply.attributes⟩, { stage with rows := reply.rows })

def driver (plan : ConnectionPlan) : Driver Stage :=
  let operation (name : Text) : Effect Stage Unit := effect plan.failing name (operationFailure name)
  { begin := hook plan.begin (operation "begin")
    beginTransaction := hook plan.beginTransaction (operation "begin_transaction")
    commit := operation "commit"
    rollback := operation "rollback"
    release := hook plan.release (operation "release")
    openCursor := fun stage => (.ok (), stage)
    execute := fun sql _ => respond plan.script sql
    fetch := fun stage => (.ok stage.rows, stage)
    closeCursor := hook plan.close (operation "close")
    direct := fun _ stage => (.ok (), stage)
    isolationLevel := plan.isolationLevel
    inTransaction := plan.inTransaction
    now := Stage.clock }

def pool (plan : PoolPlan) : Pool Stage :=
  { typeName := "Pool"
    acquire := hook plan.acquire
      (effect plan.failing "acquire" (.raised .connection "pool exhausted"))
    release := hook plan.release (effect plan.failing "release" (operationFailure "release")) }

def start (plan : ConnectionPlan) : Stage :=
  ⟨Binary64.signedZero false, plan.script.map fun _ => 0, [], none⟩

end PooledQuery.Rehearsal
