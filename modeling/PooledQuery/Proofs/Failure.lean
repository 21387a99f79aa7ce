/-
Computations that may fail.

Where a sequence of computations succeeds, each of them has succeeded; where it fails, it fails
as the first of them that does.
-/
import Mathlib.Data.List.Forall2
import PooledQuery.Failure

namespace PooledQuery.Failure

variable {α β : Type}

theorem ok_bind (result : α) (next : α → Except Failure β) :
    (Except.ok result >>= next) = next result := rfl

theorem bind_ok {first : Except Failure α} {next : α → Except Failure β} {result : β}
    (succeeds : (first >>= next) = .ok result) :
    ∃ middle, first = .ok middle ∧ next middle = .ok result := by
  cases first with
  | error failure => cases succeeds
  | ok middle => exact ⟨middle, rfl, succeeds⟩

theorem bind_pure_ok {first : Except Failure α} {wrap : α → β} {result : β}
    (succeeds : (do return wrap (← first) : Except Failure β) = .ok result) :
    ∃ middle, first = .ok middle ∧ wrap middle = result := by
  obtain ⟨middle, ran, wrapped⟩ := bind_ok succeeds
  exact ⟨middle, ran, Except.ok.inj wrapped⟩

/-- A computation for each item of a list either succeeds for all of them, or fails as it does
for the first item for which it fails. -/
theorem mapM_cases (f : α → Except Failure β) (items : List α) :
    (∃ results, items.mapM f = .ok results ∧
      List.Forall₂ (fun item result => f item = .ok result) items results) ∨
    ∃ before item rest failure, items = before ++ item :: rest ∧
      (∀ earlier ∈ before, ∃ result, f earlier = .ok result) ∧ f item = .error failure ∧
        items.mapM f = .error failure := by
  induction items with
  | nil => exact .inl ⟨[], rfl, .nil⟩
  | cons item rest ih =>
      rw [List.mapM_cons]
      cases first : f item with
      | error failure => exact .inr ⟨[], item, rest, failure, rfl, nofun, first, rfl⟩
      | ok result =>
          rw [ok_bind]
          rcases ih with ⟨results, succeeds, each⟩ | ⟨before, other, later, failure, split, reads, fails, failed⟩
          · rw [succeeds]
            exact .inl ⟨result :: results, rfl, .cons first each⟩
          · rw [failed, split]
            refine .inr ⟨item :: before, other, later, failure, rfl, ?_, fails, rfl⟩
            exact List.forall_mem_cons.mpr ⟨⟨result, first⟩, reads⟩

end PooledQuery.Failure
