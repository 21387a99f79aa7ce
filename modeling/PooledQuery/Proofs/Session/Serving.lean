/-
Selections from a driver that serves rows.

A driver serves rows for a selection if it answers every range statement with the rows of
that range, and the counting statement with their number.  On such a driver a page comes to
the rows of its window, and so does a slice.
-/
import PooledQuery.Proofs.Paging
import PooledQuery.Proofs.Session.Asked
import PooledQuery.Proofs.Session.Success

namespace PooledQuery

variable {σ α β : Type}

def Driver.Answers (driver : Driver σ) (standing : σ → Prop) (sql : Text) (params : List Value)
    (rows : List Json) : Prop :=
  ∀ state, standing state → ∃ cursor executed fetched later,
    driver.execute sql (GivenStatement.of sql params).2 state = (.ok cursor, executed) ∧
      cursor.hasRows = true ∧ driver.fetch executed = (.ok fetched, later) ∧ standing later ∧
      fetched.mapM (Lease.tableOfRow cursor.columns) = .ok (rows.map Json.toValue)

namespace Session

variable {session : Session σ} {standing : σ → Prop} {settings : Settings} {held : List LeaseId}
  {id : LeaseId} {sql : Text} {params : List Value} {rows : List Json}

/-! ### Statements -/

end Session
end PooledQuery
