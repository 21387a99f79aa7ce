/-
Pools and drivers.

A pool lends connections; a driver is what can be done with one of them.  Both have a
state of their own, which their operations change.  Some operations are optional: they may
be missing, or there may be something in their place that cannot be called.
-/
import PooledQuery.Value.Basic

namespace PooledQuery

abbrev Effect (σ α : Type) := σ → Except Failure α × σ

/-- An optional operation, or the type of what stands in its place.  Whether its answer has
to be awaited makes no difference to what the session does. -/
inductive Hook (σ : Type) where
  | absent
  | notCallable (type : Text)
  | callable (deferred : Bool) (effect : Effect σ Unit)

/-- What a cursor shows after a statement: the names of its columns, if it has a
description, and attributes such as the number of affected rows. -/
structure Cursor where
  columns : Option (List Text)
  attributes : List (Text × Value)

namespace Cursor

def toValue (cursor : Cursor) : Value :=
  .record cursor.attributes

def attributeOr (cursor : Cursor) (name : Text) (default : Value) : Value :=
  (cursor.toValue.attribute? name).getD default

def hasRows (cursor : Cursor) : Bool :=
  cursor.columns.any fun names => !names.isEmpty

end Cursor

structure Driver (σ : Type) where
  begin : Hook σ
  beginTransaction : Hook σ
  commit : Effect σ Unit
  rollback : Effect σ Unit
  -- The connection returns itself to its pool.
  release : Hook σ
  openCursor : Effect σ Unit
  execute : Text → Option (List Value) → Effect σ Cursor
  fetch : Effect σ (List Value)
  closeCursor : Hook σ
  direct : Text → Effect σ Unit
  isolationLevel : Option Value
  inTransaction : Option Value
  -- The time in seconds.
  now : σ → Binary64

structure Pool (σ : Type) where
  typeName : Text
  acquire : Hook σ
  release : Hook σ

end PooledQuery
