/-
Traces of a session.

Out of a session's events a driver and its pool see their calls, and the sink sees the
statements that are reported to it.  Calls of the transform and records of the log reach
neither of them.
-/
import PooledQuery.Session.World

namespace PooledQuery

/-- What an event is to a driver and its pool: which operation is called. -/
inductive DriverCall where
  | acquire
  | release
  | selfRelease
  | begin
  | beginTransaction
  | direct
  | commit
  | rollback
  | execute
  | close
  deriving DecidableEq, Repr

/-- A statement as a cursor gets it, with parameters or without any. -/
abbrev GivenStatement := Text × Option (List Value)

namespace Event

/-- The call that an event is, if it reaches the driver or the pool. -/
def call? : Event → Option DriverCall
  | .acquire => some .acquire
  | .release => some .release
  | .selfRelease => some .selfRelease
  | .begin => some .begin
  | .beginTransaction => some .beginTransaction
  | .commit => some .commit
  | .rollback => some .rollback
  | .direct _ => some .direct
  | .execute _ _ => some .execute
  | .close => some .close
  | .transform _ _ => none
  | .report _ _ => none
  | .log _ _ _ _ => none

def reported? : Event → Option FailedStatement
  | .report sql params => some (sql, params)
  | _ => none

def given? : Event → Option GivenStatement
  | .execute sql params => some (sql, params)
  | _ => none

/-- Whether an event reaches the driver, the pool or the sink. -/
def isOutward (event : Event) : Bool :=
  event.call?.isSome || event.reported?.isSome

def CallsOneOf (calls : List DriverCall) (event : Event) : Prop :=
  ∃ call ∈ calls, event.call? = some call

/-- Events that are none of the driver's or the pool's calls but the given ones. -/
def CallsAtMost (calls : List DriverCall) (event : Event) : Prop :=
  ∀ call, event.call? = some call → call ∈ calls

def IsInward (event : Event) : Prop :=
  event.isOutward = false

variable {event : Event}

theorem callsAtMost_of_none {calls : List DriverCall} (none : event.call? = none) :
    event.CallsAtMost calls := by
  intro call called
  rw [none] at called
  cases called

theorem CallsAtMost.mono {fewer more : List DriverCall} (among : event.CallsAtMost fewer)
    (subset : fewer ⊆ more) : event.CallsAtMost more :=
  fun call called => subset (among call called)

theorem CallsOneOf.callsAtMost {calls : List DriverCall} (one : event.CallsOneOf calls) :
    event.CallsAtMost calls := by
  obtain ⟨call, member, called⟩ := one
  intro other same
  rw [called] at same
  rw [← Option.some.inj same]
  exact member

theorem CallsOneOf.isCall {calls : List DriverCall} (one : event.CallsOneOf calls) :
    event.call?.isSome = true := by
  obtain ⟨call, member, called⟩ := one
  rw [called]
  rfl

theorem IsInward.callsAtMost {calls : List DriverCall} (inward : event.IsInward) :
    event.CallsAtMost calls := by
  unfold IsInward isOutward at inward
  rw [Bool.or_eq_false_iff] at inward
  exact callsAtMost_of_none (Option.isSome_eq_false_iff.mp inward.1 |> Option.isNone_iff_eq_none.mp)

end Event

def driverTrace (events : List Event) : List DriverCall :=
  events.filterMap Event.call?

/-- The statements that the sink is handed. -/
def sinkTrace (events : List Event) : List FailedStatement :=
  events.filterMap Event.reported?

/-- The statements that cursors are given. -/
def givenTrace (events : List Event) : List GivenStatement :=
  events.filterMap Event.given?

/-- The events that reach the driver, the pool or the sink. -/
def outwardTrace (events : List Event) : List Event :=
  events.filter Event.isOutward

/-- The events by which a sink shows that it is handed statements; the sink that discards
them shows nothing. -/
def Sink.handed : Sink → List FailedStatement → List Event
  | .discard, _ => []
  | .report _, statements => statements.map fun statement => .report statement.1 statement.2

/-- Whether a sink takes every statement. -/
def Sink.NeverFails : Sink → Prop
  | .discard => True
  | .report respond => ∀ sql params, respond sql params = .ok ()

section Traces

variable {first second events : List Event}

@[simp] theorem driverTrace_append :
    driverTrace (first ++ second) = driverTrace first ++ driverTrace second :=
  List.filterMap_append

@[simp] theorem sinkTrace_append :
    sinkTrace (first ++ second) = sinkTrace first ++ sinkTrace second :=
  List.filterMap_append

@[simp] theorem givenTrace_append :
    givenTrace (first ++ second) = givenTrace first ++ givenTrace second :=
  List.filterMap_append

@[simp] theorem outwardTrace_append :
    outwardTrace (first ++ second) = outwardTrace first ++ outwardTrace second :=
  List.filter_append first second

@[simp] theorem driverTrace_nil : driverTrace [] = [] := rfl

@[simp] theorem sinkTrace_nil : sinkTrace [] = [] := rfl

@[simp] theorem givenTrace_nil : givenTrace [] = [] := rfl

@[simp] theorem outwardTrace_nil : outwardTrace [] = [] := rfl

theorem sinkTrace_outwardTrace : sinkTrace (outwardTrace events) = sinkTrace events := by
  unfold sinkTrace outwardTrace
  rw [List.filterMap_filter]
  congr 1
  funext event
  cases event <;> rfl

theorem not_mem_driverTrace {calls : List DriverCall} {call : DriverCall}
    (among : ∀ event ∈ events, event.CallsAtMost calls) (outside : call ∉ calls) :
    call ∉ driverTrace events := by
  intro member
  obtain ⟨event, present, called⟩ := List.mem_filterMap.mp member
  exact outside (among event present call called)

theorem driverTrace_of_callsAtMost_nil (none : ∀ event ∈ events, event.CallsAtMost []) :
    driverTrace events = [] := by
  rw [List.eq_nil_iff_forall_not_mem]
  intro call
  exact not_mem_driverTrace none List.not_mem_nil

theorem outwardTrace_of_inward (inward : ∀ event ∈ events, event.IsInward) :
    outwardTrace events = [] := by
  unfold outwardTrace
  rw [List.filter_eq_nil_iff]
  intro event member
  rw [show event.isOutward = false from inward event member]
  exact Bool.false_ne_true

theorem givenTrace_of_calls (calls : ∀ event ∈ events, event.call? ≠ some .execute) :
    givenTrace events = [] := by
  unfold givenTrace
  rw [List.filterMap_eq_nil_iff]
  intro event member
  have other := calls event member
  cases event with
  | execute sql params => exact absurd rfl other
  | _ => rfl

theorem sinkTrace_of_calls (calls : ∀ event ∈ events, event.call?.isSome = true) :
    sinkTrace events = [] := by
  unfold sinkTrace
  rw [List.filterMap_eq_nil_iff]
  intro event member
  have called := calls event member
  cases event with
  | report sql params => cases called
  | _ => rfl

theorem outwardTrace_of_calls (calls : ∀ event ∈ events, event.call?.isSome = true) :
    outwardTrace events = events := by
  unfold outwardTrace
  rw [List.filter_eq_self]
  intro event member
  unfold Event.isOutward
  rw [calls event member, Bool.true_or]

@[simp] theorem Sink.handed_nil (sink : Sink) : sink.handed [] = [] := by
  cases sink <;> rfl

theorem outwardTrace_handed (sink : Sink) (statements : List FailedStatement) :
    outwardTrace (sink.handed statements) = sink.handed statements := by
  cases sink with
  | discard => rfl
  | report respond =>
      unfold outwardTrace Sink.handed
      rw [List.filter_map, List.filter_eq_self.mpr]
      intro statement member
      rfl

private theorem sinkTrace_handed (respond : Text → List Value → Except Failure Unit)
    (statements : List FailedStatement) :
    sinkTrace ((Sink.report respond).handed statements) = statements := by
  unfold sinkTrace Sink.handed
  rw [List.filterMap_map]
  exact List.filterMap_some

theorem mem_of_mem_sinkTrace_handed (sink : Sink) (statements : List FailedStatement)
    (statement : FailedStatement) (member : statement ∈ sinkTrace (sink.handed statements)) :
    statement ∈ statements := by
  cases sink with
  | discard => cases member
  | report respond =>
      rw [sinkTrace_handed] at member
      exact member

end Traces
end PooledQuery
