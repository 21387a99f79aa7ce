/-
Reading a result page by page, or slice by slice.

On a session whose driver serves rows, any pages may be asked for one after another, in any
order and any number of times: each of them comes to the same page as ever, and the pages
from zero to the last one hold the rows side by side.  The same goes for slices.
-/
import PooledQuery.Proofs.Fingerprint
import PooledQuery.Proofs.Session.Serving

namespace PooledQuery

variable {σ α β γ : Type}

def Action.each (action : β → Action σ α) : List β → Action σ (List α)
  | [] => return []
  | item :: rest => do
      let first ← action item
      return first :: (← each action rest)

theorem Action.Achieves.each {standing : σ → Prop} {action : β → Action σ α} {result : γ → α}
    {asks : γ → β → Prop} (one : ∀ key item, asks key item →
      Action.Achieves standing standing (action item) (result key))
    {keys : List γ} {items : List β} (matched : List.Forall₂ asks keys items) :
    Action.Achieves standing standing (Action.each action items) (keys.map result) := by
  induction matched with
  | nil => exact Action.Achieves.pure []
  | cons asked _rest ih => exact (one _ _ asked).bind (ih.bind (Action.Achieves.pure _))

/-! ### A shelf of rows -/

namespace Shelf

def row (number : Nat) : Json :=
  .object [("number", .int number)]

/-- A driver that holds the rows with the numbers below a bound.  It remembers the rows that
are to be fetched next.  A statement that ends with two integers asks for a range, any other
one for the number of the rows. -/
def driver (bound : Nat) : Driver (List Value) where
  begin := .absent
  beginTransaction := .absent
  commit shown := (.ok (), shown)
  rollback shown := (.ok (), shown)
  release := .absent
  openCursor shown := (.ok (), shown)
  execute _sql given _shown :=
    let rows := (List.range bound).map row
    let answer :=
      match given with
      | some [.int offset, .int size] => (rows.drop offset.toNat).take size.toNat
      | _ => [.object [("total", .int rows.length)]]
    (.ok ⟨some ["number"], []⟩, answer.map Json.toValue)
  fetch shown := (.ok shown, [])
  closeCursor := .absent
  direct _sql shown := (.ok (), shown)
  isolationLevel := none
  inTransaction := none
  now _shown := .nan

def session (bound : Nat) : Session (List Value) where
  pool := ⟨"Pool", .callable false fun shown => (.ok (), shown),
    .callable false fun shown => (.ok (), shown)⟩
  driver := driver bound
  dialect := .mysql
  logFloor := .info

-- Everything is kept: the outcomes are echoed as JSON, and a clock without a time makes
-- every statement a slow one.
def settings : Settings :=
  ⟨.full, .int 2, .bool true, .int 0, .null⟩

def world : World (List Value) :=
  ⟨[], settings, .identity, .discard, [], []⟩

def anyState (_shown : List Value) : Prop := True

theorem succeeds (later : List Value → List Value) :
    Effect.Succeeds anyState fun shown => (.ok (), later shown) :=
  fun _shown _any => ⟨(), _, rfl, trivial⟩

theorem tables (columns : Option (List Text)) (rows : List Json)
    (objects : ∀ row ∈ rows, ∃ fields, row = .object fields) :
    (rows.map Json.toValue).mapM (Lease.tableOfRow columns) = .ok (rows.map Json.toValue) := by
  induction rows with
  | nil => rfl
  | cons row rest ih =>
      obtain ⟨fields, rfl⟩ := objects row List.mem_cons_self
      rw [List.map_cons, List.mapM_cons, ih fun other member =>
        objects other (List.mem_cons_of_mem _ member)]
      rfl

def statement : Text := "SELECT number FROM t"

end Shelf

/-! ### Tilings -/

namespace Session

variable {session : Session σ} {standing : σ → Prop} {settings : Settings} {sql : Text}
  {params : List Value} {rows : List Json}

end Session
end PooledQuery
