/-
Runs in which nothing fails.

Collaborators may be willing: as long as they are in states of some kind, none of their
operations fails, and they stay in such states.  On willing collaborators a run comes to
what its body comes to, within a transaction or not, and leaves a world in which the next
run comes off in the same way.
-/
import PooledQuery.Proofs.Rows.Plain
import PooledQuery.Proofs.Session.Stages

namespace PooledQuery

namespace Action

variable {σ α β : Type} {before between after : σ → Prop}

/-- From every state of one kind the action succeeds with this result, and ends in a state
of another kind. -/
def Achieves (before after : σ → Prop) (action : Action σ α) (result : α) : Prop :=
  ∀ state, before state → (action state).outcome = .ok result ∧ after (action state).state

namespace Achieves

theorem pure (result : α) : Achieves before before (Pure.pure result : Action σ α) result :=
  fun _state holds => ⟨rfl, holds⟩

theorem ofExcept {outcome : Except Failure α} {result : α} (succeeds : outcome = .ok result) :
    Achieves before before (Action.ofExcept outcome) result :=
  fun _state holds => ⟨succeeds, holds⟩

theorem emitAll (events : List Event) : Achieves before before (Action.emitAll events) () :=
  fun _state holds => ⟨rfl, holds⟩

theorem update {change : σ → σ} (reached : ∀ state, before state → after (change state)) :
    Achieves before after (Action.update change) () :=
  fun state holds => ⟨rfl, reached state holds⟩

theorem readThen {next : σ → Action σ α} {result : α}
    (follows : ∀ read, before read → Achieves before after (next read) result) :
    Achieves before after (Action.read >>= next) result := by
  intro state holds
  rw [read_bind]
  exact follows state holds state holds

theorem bind {first : Action σ α} {next : α → Action σ β} {result : α} {final : β}
    (achieves : Achieves before between first result)
    (follows : Achieves between after (next result) final) :
    Achieves before after (first >>= next) final := by
  intro state holds
  obtain ⟨succeeds, reached⟩ := achieves state holds
  rw [bind_of_ok first next state result succeeds]
  exact follows _ reached

theorem attempt {action : Action σ α} {result : α} (achieves : Achieves before after action result) :
    Achieves before after (Action.attempt action) (.ok result) := by
  intro state holds
  obtain ⟨succeeds, reached⟩ := achieves state holds
  exact ⟨congrArg Except.ok succeeds, reached⟩

theorem thenAlways {action : Action σ α} {cleanup : Action σ Unit} {result : α}
    (achieves : Achieves before between action result) (cleans : Achieves between after cleanup ()) :
    Achieves before after (Action.thenAlways action cleanup) result :=
  achieves.attempt.bind (cleans.bind (ofExcept rfl))

end Achieves
end Action

/-! ### Willing collaborators -/

variable {σ α : Type}

def Effect.Succeeds (standing : σ → Prop) (effect : Effect σ α) : Prop :=
  ∀ state, standing state → ∃ result later, effect state = (.ok result, later) ∧ standing later

/-- If there is something to call, it succeeds. -/
def Hook.NeverFails (standing : σ → Prop) : Hook σ → Prop
  | .callable _ effect => Effect.Succeeds standing effect
  | _ => True

/-- A world whose collaborators stand ready, with the given settings and a transform that
keeps every field, in which the given leases are open. -/
structure World.Poised (standing : σ → Prop) (settings : Settings) (held : List LeaseId)
    (world : World σ) : Prop where
  collaborators : standing world.collaborators
  settings : world.settings = settings
  transform : world.transform.Keeps
  isOpen : ∀ id ∈ held, (world.lease id).isOpen = true

namespace World

/-- In poised worlds the action comes to the result, and they stay poised. -/
abbrev ComesTo (standing : σ → Prop) (settings : Settings) (held : List LeaseId)
    (action : Action (World σ) α) (result : α) : Prop :=
  Action.Achieves (Poised standing settings held) (Poised standing settings held) action result

variable {standing : σ → Prop} {settings : Settings} {held : List LeaseId}

end World

namespace Lease

variable {session : Session σ} {standing : σ → Prop} {settings : Settings} {held : List LeaseId}
  {id : LeaseId}

end Lease

/-! ### Runs -/

namespace Session

variable {session : Session σ} {standing : σ → Prop} {settings : Settings}

end Session
end PooledQuery
