/-
Actions with a state, events and failures.

An execution of an action has an outcome, a final state and the events that happened, in
order.  A failure ends a sequence of actions, and what happened before it stays.
-/
import PooledQuery.Session.Event

namespace PooledQuery

/-- What one execution of an action amounts to. -/
structure Execution (σ α : Type) where
  outcome : Except Failure α
  state : σ
  events : List Event

def Action (σ α : Type) : Type :=
  σ → Execution σ α

namespace Action

variable {σ α β : Type}

def done (result : α) : Action σ α := fun state => ⟨.ok result, state, []⟩

def fail (failure : Failure) : Action σ α := fun state => ⟨.error failure, state, []⟩

/-- An action, and after its success another one. -/
def andThen (first : Action σ α) (next : α → Action σ β) : Action σ β := fun state =>
  let execution := first state
  match execution.outcome with
  | .ok result =>
      let following := next result execution.state
      ⟨following.outcome, following.state, execution.events ++ following.events⟩
  | .error failure => ⟨.error failure, execution.state, execution.events⟩

instance : Monad (Action σ) where
  pure := done
  bind := andThen

def ofExcept (outcome : Except Failure α) : Action σ α := fun state => ⟨outcome, state, []⟩

/-- An action whose failure becomes a result. -/
def attempt (action : Action σ α) : Action σ (Except Failure α) := fun state =>
  let execution := action state
  ⟨.ok execution.outcome, execution.state, execution.events⟩

/-- An action, and after its success or failure another one; a failure of the second one
takes the place of the outcome. -/
def thenAlways (action : Action σ α) (cleanup : Action σ Unit) : Action σ α := do
  let outcome ← attempt action
  cleanup
  ofExcept outcome

def read : Action σ σ := fun state => ⟨.ok state, state, []⟩

def update (change : σ → σ) : Action σ Unit := fun state => ⟨.ok (), change state, []⟩

def emit (event : Event) : Action σ Unit := fun state => ⟨.ok (), state, [event]⟩

def emitAll (events : List Event) : Action σ Unit := fun state => ⟨.ok (), state, events⟩

end Action
end PooledQuery
