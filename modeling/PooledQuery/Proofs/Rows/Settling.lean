/-
What keeping every field comes to.

A transform that keeps every field leaves no trace but its calls.  If no member of an
enumeration names a set or another member, the visit then only coerces: it makes lists of
all lists, tables with texts for keys of all tables, and of everything else what one step of
coercion gives, or what a member names.
-/
import Mathlib.Data.List.Forall2
import PooledQuery.Proofs.Rows.Parts

namespace PooledQuery

/-! ### Visits -/

namespace Value

mutual

/-- What the visit of an item comes to when the transform keeps every field. -/
def settled : Value → Except Failure Value
  | .table _ entries => do return .table false (Entries.ofPairs (← settledEntries entries))
  | .list items => do return .list (← settledItems items)
  | .tuple items => do return .list (← settledItems items)
  | .set _ items => do return .list (← settledItems items)
  | .member _ _ named => if named.isAtom then .ok named else named.settled
  | value => value.plain

def settledItems : List Value → Except Failure (List Value)
  | [] => .ok []
  | item :: rest => do
      let first ← item.settled
      return first :: (← settledItems rest)

def settledEntries : List (Value × Value) → Except Failure (List (Value × Value))
  | [] => .ok []
  | (key, value) :: rest => do
      let name ← key.writtenText
      let held ← value.settled
      return (.text name, held) :: (← settledEntries rest)

end

end Value

namespace Fields

variable {transform : Transform}

theorem visitItem_eq (descend : Value → Visit Value) (item : Value) :
    visitItem transform descend item =
      (Visit.ofExcept item.plain >>= visit transform descend) := by
  cases item with
  | number n => cases n <;> rfl
  | _ => rfl

private theorem comesTo_of_kept (keeps : transform.Keeps) {descend : Value → Visit Value}
    (name : Text)
    {coerced outcome : Except Failure Value}
    (comes : (Visit.ofExcept coerced >>= descend).ComesTo outcome) :
    (do
      let given ← Visit.ofExcept coerced
      let answer ← Visit.call transform name given
      descend answer).ComesTo outcome := by
  cases coerced with
  | error failure => exact comes
  | ok given =>
      have called : (Visit.call transform name given).ComesTo (.ok given) :=
        keeps name given ▸ Visit.ComesTo.call
      have followed : (Visit.call transform name given >>= descend).ComesTo
          (Except.ok given >>= fun _same => outcome) := by
        refine called.bind fun answer kept => ?_
        cases kept
        exact comes
      exact followed

mutual

theorem visitItem_settles (keeps : transform.Keeps) (item : Value) (direct : item.NamesDirectly)
    (limit : Nat) (shallow : nesting item ≤ limit) :
    (visitItem transform (visitWithin transform limit) item).ComesTo item.settled := by
  cases item with
  | table view entries =>
      unfold visitItem
      exact (visitEntries_settles keeps entries (fun entry member => (direct.entry member).2)
        limit shallow).returning _
  | list items =>
      unfold visitItem
      exact (visitItems_settles keeps items (fun item => direct.item rfl) limit shallow).returning _
  | tuple items =>
      unfold visitItem
      exact (visitItems_settles keeps items (fun item => direct.item rfl) limit shallow).returning _
  | set frozen items =>
      unfold visitItem
      exact (visitItems_settles keeps items (fun item => direct.item rfl) limit shallow).returning _
  | member enumeration name named =>
      have within := visitItem_settles keeps named direct.named.1 limit shallow
      rw [visitItem_eq] at within
      unfold visitItem Value.settled
      cases atom : named.isAtom with
      | true =>
          rw [if_pos rfl, visit_of_atom _ atom]
          exact Visit.ComesTo.ofExcept _
      | false =>
          rw [if_neg Bool.false_ne_true]
          cases named with
          | table view entries => exact within
          | list items => exact within
          | tuple items => exact within
          | set frozen items => cases direct.named.2
          | member _ _ _ => cases direct.named.2
          | _ => cases atom
  | _ => exact Visit.ComesTo.ofExcept _

theorem visitItems_settles (keeps : transform.Keeps) (items : List Value)
    (direct : ∀ item ∈ items, item.NamesDirectly) (limit : Nat)
    (shallow : nestingOfItems items ≤ limit) :
    (visitItems transform (visitWithin transform limit) items).ComesTo
      (Value.settledItems items) := by
  cases items with
  | nil => exact Visit.ComesTo.ofExcept _
  | cons item rest =>
      have bounds := Nat.max_le.mp shallow
      unfold visitItems Value.settledItems
      refine (visitItem_settles keeps item (direct item List.mem_cons_self) limit bounds.1).bind
        fun first _succeeds => ?_
      exact (visitItems_settles keeps rest
        (fun other member => direct other (List.mem_cons_of_mem _ member)) limit bounds.2).returning _

theorem visitEntries_settles (keeps : transform.Keeps) (entries : List (Value × Value))
    (direct : ∀ entry ∈ entries, entry.2.NamesDirectly) (limit : Nat)
    (shallow : nestingOfEntries entries < limit) :
    (visitEntries transform (visitWithin transform limit) entries).ComesTo
      (Value.settledEntries entries) := by
  cases entries with
  | nil => exact Visit.ComesTo.ofExcept _
  | cons entry rest =>
      obtain ⟨key, value⟩ := entry
      have bounds := Nat.max_lt.mp shallow
      cases limit with
      | zero => exact absurd bounds.1 (Nat.not_lt_zero _)
      | succ lower =>
          -- The transform changes nothing, so an entry is settled as an item is.
          have within : (Visit.ofExcept value.plain >>= visitWithin transform (lower + 1)).ComesTo
              value.settled := by
            have item := visitItem_settles keeps value (direct _ List.mem_cons_self) lower
              (Nat.le_of_lt_succ bounds.1)
            rwa [visitItem_eq] at item
          have after (name : Text) := (comesTo_of_kept keeps name within).bind
            fun held _succeeds => (visitEntries_settles keeps rest (fun other member =>
              direct other (List.mem_cons_of_mem _ member)) (lower + 1) bounds.2).returning
                ((.text name, held) :: ·)
          have whole := (Visit.ComesTo.ofExcept key.writtenText).bind fun name _succeeds => after name
          simpa only [visitEntries, Value.settledEntries, bind_assoc] using whole

end

/-! ### Normalized rows -/

/-- What normalizing rows comes to when the transform keeps every field. -/
def settledRows (items : List Value) : Except Failure (List Json) := do
  let held ← Value.settledItems items
  let written ← Json.ofValues false held
  return Json.readBackItems written

private theorem normalized_settles (keeps : transform.Keeps) (items : List Value)
    (direct : ∀ item ∈ items, item.NamesDirectly) :
    (normalized transform items).ComesTo (settledRows items) := by
  unfold normalized settledRows
  refine (visitItems_settles keeps items direct _ (Nat.le_add_right _ _)).bind fun held _settles => ?_
  exact (Visit.ComesTo.ofExcept (Json.ofValues false held)).returning Json.readBackItems

theorem normalizedRows_settles (keeps : transform.Keeps) {rows : Value}
    (direct : rows.NamesDirectly) {items : List Value} (lists : rows.elements = .ok items) :
    (normalizedRows transform rows).outcome.1 = settledRows items := by
  have comes : (normalizedRows transform rows).ComesTo (Except.ok items >>= settledRows) := by
    unfold normalizedRows
    rw [lists]
    refine (Visit.ComesTo.ofExcept _).bind fun given same => ?_
    cases same
    exact normalized_settles keeps items (direct.elements lists)
  exact comes.outcome

private theorem settledRows_of_written {items held : List Value} {written : List Json}
    (settles : Value.settledItems items = .ok held)
    (writes : Json.ofValues false held = .ok written) :
    settledRows items = .ok (Json.readBackItems written) := by
  unfold settledRows
  rw [settles, Failure.ok_bind, writes]
  rfl

private theorem settledRows_each_written {items held : List Value} {written : List Json}
    (settles : Value.settledItems items = .ok held)
    (writes : Json.ofValues false held = .ok written) :
    List.Forall₂ (fun item row => settledRows [item] = .ok [row]) items
      (Json.readBackItems written) := by
  induction items generalizing held written with
  | nil =>
      cases settles
      cases writes
      exact .nil
  | cons item rest ih =>
      obtain ⟨first, starts, others⟩ := Failure.bind_ok settles
      obtain ⟨later, ends, rfl⟩ := Failure.bind_pure_ok others
      obtain ⟨json, comes, more⟩ := Failure.bind_ok writes
      obtain ⟨jsons, last, rfl⟩ := Failure.bind_pure_ok more
      have alone : Value.settledItems [item] = .ok [first] := by
        rw [Value.settledItems, starts]
        rfl
      have writtenAlone : Json.ofValues false [first] = .ok [json] := by
        rw [Json.ofValues, comes]
        rfl
      exact .cons (settledRows_of_written alone writtenAlone) (ih ends last)

theorem settledRows_each {items : List Value} {result : List Json}
    (succeeds : settledRows items = .ok result) :
    List.Forall₂ (fun item row => settledRows [item] = .ok [row]) items result := by
  obtain ⟨held, settles, follows⟩ := Failure.bind_ok succeeds
  obtain ⟨written, writes, rfl⟩ := Failure.bind_pure_ok follows
  exact settledRows_each_written settles writes

end Fields
end PooledQuery
