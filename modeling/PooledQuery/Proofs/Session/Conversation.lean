/-
Conversations with a session.

A conversation is all that may be asked of a session, one thing after the other, where each
answer decides what is asked next: statements on leases, runs whose bodies are conversations
themselves, selections, and changes of the settings.  What it comes to is an action; along
with it goes a history, the deeds of which each starts in a known world.  What holds of
single deeds and passes through every way of composing actions holds of conversations.
-/
import PooledQuery.Proofs.Session.Stages
import PooledQuery.Session.Select

namespace PooledQuery

variable {σ α β : Type}

/-- A single statement or a selection, on a connection of its own. -/
inductive Request : Type → Type where
  | single (sql : Text) (params : List Value) : Request Outcome
  | first (sql : Text) (params : List Value) : Request FirstRow
  | rows (sql : Text) (params : List Value) : Request (List Json)
  | page (sql : Text) (request : PageRequest) (params : List Value) : Request Page
  | slice (sql : Text) (slice : Slice) (params : List Value) : Request SlicePage

/-- A change of what a session notes down, or of its default limit. -/
inductive Adjustment where
  | clearSlow
  | echo (value : Value)
  | defaultLimit (value : Value)
  | recordsSlow (value : Value)
  | slowThreshold (value : Value)

/-- All that is asked of a session.  A body may use the lease of its own run, those of other
runs, and the session itself. -/
inductive Conversation : Type → Type 1 where
  | finish {α : Type} (result : α) : Conversation α
  | stop {α : Type} (failure : Failure) : Conversation α
  | query {α : Type} (id : LeaseId) (sql : Text) (params : List Value)
      (next : Except Failure Outcome → Conversation α) : Conversation α
  | run {α β : Type} (transactional : Bool) (body : LeaseId → Conversation β)
      (next : Except Failure β → Conversation α) : Conversation α
  | request {α β : Type} (request : Request β) (next : Except Failure β → Conversation α) :
      Conversation α
  | adjust {α : Type} (adjustment : Adjustment) (next : Except Failure Unit → Conversation α) :
      Conversation α

def Adjustment.apply : Adjustment → Action (World σ) Unit
  | .clearSlow => Action.update fun world => { world with slowLog := [] }
  | .echo value => World.updateSettings fun settings => settings.withEcho value
  | .defaultLimit value => World.updateSettings fun settings => settings.withDefaultLimit value
  | .recordsSlow value => World.updateSettings fun settings => .ok (settings.withRecordsSlow value)
  | .slowThreshold value => World.updateSettings fun settings => settings.withSlowThreshold value

/-- A statement on a lease, in the world in which it is asked. -/
structure Asking (σ : Type) where
  id : LeaseId
  sql : Text
  params : List Value
  world : World σ

/-- What is done in the course of a conversation. -/
inductive Deed (σ : Type) where
  | asked (asking : Asking σ)
  | adjusted (adjustment : Adjustment) (world : World σ)
  -- A page could not be read, for the given failure.
  | pageFailed (page : Value) (limit : Number) (failure : Failure) (world : World σ)

abbrev History (σ : Type) := World σ → List (Deed σ)

namespace History

def none : History σ := fun _world => []

def andThen (former : History σ) (first : Action (World σ) α) (latter : α → History σ) :
    History σ := fun world =>
  former world ++ match (first world).outcome with
    | .ok result => latter result (first world).state
    | .error _ => []

theorem andThen_none (former : History σ) (first : Action (World σ) α) :
    (former.andThen first fun _result => none) = former := by
  funext world
  unfold andThen none
  cases (first world).outcome <;> exact List.append_nil _

end History

def Outcome.rows? : Outcome → Except Failure (List Json)
  | .rows items => .ok items
  | .change _ => .error .noRowSet

namespace Session

variable (session : Session σ)

def answer : Request β → Action (World σ) β
  | .single sql params => session.single sql params
  | .first sql params => session.selectFirst sql params
  | .rows sql params => session.selectRows sql params
  | .page sql request params => session.selectPage sql request params
  | .slice sql slice params => session.selectSlice sql slice params

def converse : {α : Type} → Conversation α → Action (World σ) α
  | _, .finish result => return result
  | _, .stop failure => Action.fail failure
  | _, .query id sql params next => do
      converse (next (← Action.attempt (session.query id sql params)))
  | _, .run transactional body next => do
      let outcome ← Action.attempt (session.run transactional fun id => converse (body id))
      converse (next outcome)
  | _, .request request next => do converse (next (← Action.attempt (session.answer request)))
  | _, .adjust adjustment next => do converse (next (← Action.attempt adjustment.apply))

/-- What a statement comes to where it is asked. -/
def asked (asking : Asking σ) : Execution (World σ) Outcome :=
  session.query asking.id asking.sql asking.params asking.world

/-! ### Histories -/

def asks (id : LeaseId) (sql : Text) (params : List Value) : History σ :=
  fun world => [.asked ⟨id, sql, params, world⟩]

def runHistory (transactional : Bool) (body : LeaseId → History σ) : History σ := fun world =>
  if (session.acquire world).outcome.isOk &&
      (!transactional || (session.begun world).outcome.isOk) then
    body (nextLease world) (session.entered transactional world)
  else []

def bodyHistory (id : LeaseId) : Body α → History σ
  | .finish _ => History.none
  | .stop _ => History.none
  | .query sql params next =>
      (asks id sql params).andThen (Action.attempt (session.query id sql params)) fun outcome =>
        bodyHistory id (next outcome)

def pageUnder (sql : Text) (request : PageRequest) (params : List Value) (defaultLimit : Number) :
    Action (World σ) Page := do
  let (page, limit) ← Action.ofExcept (request.resolve (.number defaultLimit))
  let offset ← Action.ofExcept (Paging.offset page (.number limit))
  let body := Paging.pageBody session.dialect sql params page limit offset
  match ← Action.attempt (session.runBody false body) with
  | .ok found => return found
  | .error failure =>
      session.logPageFailure page limit failure
      Action.fail failure

private theorem selectPage_eq (sql : Text) (request : PageRequest) (params : List Value) :
    session.selectPage sql request params = (Action.read >>= fun world =>
      session.pageUnder sql request params world.settings.defaultLimit) := rfl

private theorem selectRows_eq (sql : Text) (params : List Value) :
    session.selectRows sql params = (session.single sql params >>= fun outcome =>
      Action.ofExcept outcome.rows?) := by
  unfold Session.selectRows
  congr 1
  funext outcome
  cases outcome <;> rfl

def pageHistory (sql : Text) (request : PageRequest) (params : List Value)
    (defaultLimit : Number) : History σ :=
  History.none.andThen (Action.ofExcept (request.resolve (.number defaultLimit)))
    fun (page, limit) =>
      History.none.andThen (Action.ofExcept (Paging.offset page (.number limit))) fun offset =>
        let body := Paging.pageBody session.dialect sql params page limit offset
        (session.runHistory false fun id => session.bodyHistory id body).andThen
          (Action.attempt (session.runBody false body)) fun
            | .ok _ => History.none
            | .error failure => fun world => [.pageFailed page limit failure world]

def requestHistory : Request β → History σ
  | .single sql params => session.runHistory false fun id => asks id sql params
  | .first sql params => session.runHistory false fun id => asks id sql params
  | .rows sql params => session.runHistory false fun id => asks id sql params
  | .page sql request params => fun world =>
      session.pageHistory sql request params world.settings.defaultLimit world
  | .slice sql slice params =>
      session.runHistory true fun id =>
        session.bodyHistory id (Paging.sliceBody session.dialect sql params slice)

/-- The deeds of a conversation, in order. -/
def history : {α : Type} → Conversation α → History σ
  | _, .finish _ => History.none
  | _, .stop _ => History.none
  | _, .query id sql params next =>
      (asks id sql params).andThen (Action.attempt (session.query id sql params)) fun outcome =>
        history (next outcome)
  | _, .run transactional body next =>
      (session.runHistory transactional fun id => history (body id)).andThen
        (Action.attempt (session.run transactional fun id => session.converse (body id)))
        fun outcome => history (next outcome)
  | _, .request request next =>
      (session.requestHistory request).andThen (Action.attempt (session.answer request))
        fun outcome => history (next outcome)
  | _, .adjust adjustment next =>
      History.andThen (fun world => [.adjusted adjustment world])
        (Action.attempt adjustment.apply) fun outcome => history (next outcome)

/-! ### What passes through conversations -/

/-- A property of actions with their histories that single deeds have, and that passes
through every way in which a conversation composes them. -/
structure Pervades (property : (α : Type) → Action (World σ) α → History σ → Prop) : Prop where
  ofExcept : ∀ {α : Type} (outcome : Except Failure α),
    property α (Action.ofExcept outcome) History.none
  query : ∀ id sql params, property Outcome (session.query id sql params) (asks id sql params)
  adjust : ∀ adjustment : Adjustment,
    property Unit adjustment.apply fun world => [.adjusted adjustment world]
  pageFailed : ∀ page limit failure,
    property Unit (session.logPageFailure page limit failure)
      fun world => [.pageFailed page limit failure world]
  run : ∀ {α : Type} (transactional : Bool) (body : LeaseId → Action (World σ) α)
    (former : LeaseId → History σ), (∀ id, property α (body id) (former id)) →
    property α (session.run transactional body) (session.runHistory transactional former)
  attempt : ∀ {α : Type} (action : Action (World σ) α) (former : History σ),
    property α action former → property (Except Failure α) (Action.attempt action) former
  bind : ∀ {α β : Type} (first : Action (World σ) α) (next : α → Action (World σ) β)
    (former : History σ) (latter : α → History σ), property α first former →
    (∀ result, property β (next result) (latter result)) →
    property β (first >>= next) (former.andThen first latter)
  readLimit : ∀ {α : Type} (next : Number → Action (World σ) α) (latter : Number → History σ),
    (∀ limit, property α (next limit) (latter limit)) →
    property α (Action.read >>= fun world => next world.settings.defaultLimit)
      fun world => latter world.settings.defaultLimit world

namespace Pervades

variable {session : Session σ} {property : (α : Type) → Action (World σ) α → History σ → Prop}
  (pervades : session.Pervades property)

include pervades

theorem perform (id : LeaseId) (body : Body α) :
    property α (session.perform id body) (session.bodyHistory id body) := by
  induction body with
  | finish result => exact pervades.ofExcept (.ok result)
  | stop failure => exact pervades.ofExcept (.error failure)
  | query sql params next ih =>
      exact pervades.bind _ _ _ _ (pervades.attempt _ _ (pervades.query id sql params)) ih

theorem runBody (transactional : Bool) (body : Body α) :
    property α (session.runBody transactional body)
      (session.runHistory transactional fun id => session.bodyHistory id body) :=
  pervades.run transactional _ _ fun id => pervades.perform id body

theorem single (sql : Text) (params : List Value) :
    property Outcome (session.single sql params)
      (session.runHistory false fun id => asks id sql params) :=
  pervades.run false _ _ fun id => pervades.query id sql params

theorem bind_ofExcept {first : Action (World σ) α} {former : History σ}
    (holds : property α first former) (made : α → Except Failure β) :
    property β (first >>= fun result => Action.ofExcept (made result)) former := by
  rw [← former.andThen_none first]
  exact pervades.bind first _ former _ holds fun result => pervades.ofExcept (made result)

theorem pageUnder (sql : Text) (request : PageRequest) (params : List Value)
    (defaultLimit : Number) :
    property Page (session.pageUnder sql request params defaultLimit)
      (session.pageHistory sql request params defaultLimit) := by
  refine pervades.bind _ _ _ _ (pervades.ofExcept _) fun (page, limit) => ?_
  refine pervades.bind _ _ _ _ (pervades.ofExcept _) fun offset => ?_
  refine pervades.bind _ _ _ _ (pervades.attempt _ _ (pervades.runBody false _)) fun outcome => ?_
  cases outcome with
  | ok found => exact pervades.ofExcept (.ok found)
  | error failure =>
      exact pervades.bind_ofExcept (pervades.pageFailed page limit failure)
        fun _logged => .error failure

theorem answer (request : Request β) :
    property β (session.answer request) (session.requestHistory request) := by
  cases request with
  | single sql params => exact pervades.single sql params
  | first sql params =>
      exact pervades.bind_ofExcept (pervades.single sql params)
        fun outcome => .ok (FirstRow.ofOutcome outcome)
  | rows sql params =>
      change property _ (session.selectRows sql params) _
      rw [session.selectRows_eq]
      exact pervades.bind_ofExcept (pervades.single sql params) Outcome.rows?
  | page sql request params =>
      change property _ (session.selectPage sql request params) _
      rw [session.selectPage_eq]
      exact pervades.readLimit _ _ (pervades.pageUnder sql request params)
  | slice sql slice params => exact pervades.runBody true _

theorem converse {α : Type} (conversation : Conversation α) :
    property α (session.converse conversation) (session.history conversation) := by
  induction conversation with
  | finish result => exact pervades.ofExcept (.ok result)
  | stop failure => exact pervades.ofExcept (.error failure)
  | query id sql params next ih =>
      exact pervades.bind _ _ _ _ (pervades.attempt _ _ (pervades.query id sql params)) ih
  | run transactional body next ihBody ih =>
      exact pervades.bind _ _ _ _ (pervades.attempt _ _
        (pervades.run transactional _ _ ihBody)) ih
  | request request next ih =>
      exact pervades.bind _ _ _ _ (pervades.attempt _ _ (pervades.answer request)) ih
  | adjust adjustment next ih =>
      exact pervades.bind _ _ _ _ (pervades.attempt _ _ (pervades.adjust adjustment)) ih

end Pervades
end Session
end PooledQuery
