/-
Rows that leave the library as they came.

A plain JSON value is one that a reader makes of some text: the names of an object differ,
no text holds a surrogate pair, and no integer has too many digits to be written.  Rows of
plain values are changed neither by a transform that keeps every field nor by being written
and read back.
-/
import PooledQuery.Proofs.Rows.Visits
import PooledQuery.Proofs.Value.Written
import PooledQuery.Rows.Outcome

namespace PooledQuery

namespace Json

inductive IsPlain : Json → Prop
  | null : IsPlain .null
  | bool (b : Bool) : IsPlain (.bool b)
  | int (n : Int) (short : n.natAbs < Number.unwritable) : IsPlain (.int n)
  | float (x : Binary64) : IsPlain (.float x)
  | text (content : Text) (joined : content.pairsJoined = content) : IsPlain (.text content)
  | list (items : List Json) (each : ∀ item ∈ items, IsPlain item) : IsPlain (.list items)
  | object (fields : List (Text × Json)) (distinct : (fields.map Prod.fst).Nodup)
      (names : ∀ field ∈ fields, field.1.pairsJoined = field.1)
      (values : ∀ field ∈ fields, IsPlain field.2) : IsPlain (.object fields)

theorem put_of_new (fields : List (Text × Json)) (key : Text) (value : Json)
    (new : key ∉ fields.map Prod.fst) : put fields key value = fields ++ [(key, value)] := by
  induction fields with
  | nil => rfl
  | cons field rest ih =>
      rw [List.map_cons, List.mem_cons, not_or] at new
      rw [put, if_neg (Ne.symm new.1), ih new.2]
      rfl

theorem foldl_put_of_distinct (fields earlier : List (Text × Json))
    (distinct : ((earlier ++ fields).map Prod.fst).Nodup) :
    fields.foldl (fun fields pair => put fields pair.1 pair.2) earlier = earlier ++ fields := by
  induction fields generalizing earlier with
  | nil => rw [List.foldl_nil, List.append_nil]
  | cons field rest ih =>
      have new : field.1 ∉ earlier.map Prod.fst := by
        intro member
        rw [List.map_append, List.map_cons] at distinct
        exact (List.nodup_append.mp distinct).2.2 _ member _ List.mem_cons_self rfl
      rw [List.foldl_cons, put_of_new earlier field.1 field.2 new, ih]
      · exact List.append_assoc earlier [field] rest
      · rwa [List.append_assoc]

private theorem fieldsOfPairs_of_distinct (fields : List (Text × Json))
    (distinct : (fields.map Prod.fst).Nodup) : fieldsOfPairs fields = fields :=
  foldl_put_of_distinct fields [] distinct

theorem readBackItems_of_each (items : List Json) (each : ∀ item ∈ items, item.readBack = item) :
    readBackItems items = items := by
  induction items with
  | nil => rfl
  | cons item rest ih =>
      rw [readBackItems, each item List.mem_cons_self,
        ih fun other member => each other (List.mem_cons_of_mem _ member)]

private theorem readBackFields_of_each (fields : List (Text × Json))
    (names : ∀ field ∈ fields, field.1.pairsJoined = field.1)
    (values : ∀ field ∈ fields, field.2.readBack = field.2) :
    readBackFields fields = fields := by
  induction fields with
  | nil => rfl
  | cons field rest ih =>
      rw [readBackFields, names field List.mem_cons_self, values field List.mem_cons_self,
        ih (fun other member => names other (List.mem_cons_of_mem _ member))
          (fun other member => values other (List.mem_cons_of_mem _ member))]

theorem IsPlain.readBack_eq {json : Json} (plain : json.IsPlain) : json.readBack = json := by
  induction plain with
  | text content joined => rw [readBack, joined]
  | list items each ih => rw [readBack, readBackItems_of_each items ih]
  | object fields distinct names values ih =>
      rw [readBack, readBackFields_of_each fields names ih, fieldsOfPairs_of_distinct fields distinct]
  | _ => rfl

/-! ### Writing -/

/-- The value holds no integer that is too long to be written. -/
inductive IsWritable : Json → Prop
  | null : IsWritable .null
  | bool (b : Bool) : IsWritable (.bool b)
  | int (n : Int) (short : n.natAbs < Number.unwritable) : IsWritable (.int n)
  | float (x : Binary64) : IsWritable (.float x)
  | text (content : Text) : IsWritable (.text content)
  | list (items : List Json) (each : ∀ item ∈ items, IsWritable item) : IsWritable (.list items)
  | object (fields : List (Text × Json)) (each : ∀ field ∈ fields, IsWritable field.2) :
      IsWritable (.object fields)

theorem IsPlain.isWritable {json : Json} (plain : json.IsPlain) : json.IsWritable := by
  induction plain with
  | null => exact .null
  | bool b => exact .bool b
  | int n short => exact .int n short
  | float x => exact .float x
  | text content _joined => exact .text content
  | list items _each ih => exact .list items ih
  | object fields _distinct _names _values ih => exact .object fields ih

private theorem ofValue_int (strict : Bool) {n : Int} (short : n.natAbs < Number.unwritable) :
    ofValue strict (.int n) = .ok (.int n) := by
  rw [ofValue, Number.isOverlong_of_short short]
  rfl

theorem int_of_ofValue {strict : Bool} {n : Int} {json : Json}
    (formed : ofValue strict (.int n) = .ok json) :
    json = .int n ∧ n.natAbs < Number.unwritable := by
  rw [ofValue] at formed
  split at formed
  · cases formed
  · rename_i writable
    exact ⟨(Except.ok.inj formed).symm, Number.short_of_not_overlong writable⟩

theorem ofValues_of_each (strict : Bool) (items : List Json)
    (each : ∀ item ∈ items, ofValue strict item.toValue = .ok item) :
    ofValues strict (toValues items) = .ok items := by
  induction items with
  | nil => rfl
  | cons item rest ih =>
      rw [toValues, ofValues, each item List.mem_cons_self,
        ih fun other member => each other (List.mem_cons_of_mem _ member)]
      rfl

private theorem ofEntries_of_each (strict : Bool) (fields : List (Text × Json))
    (each : ∀ field ∈ fields, ofValue strict field.2.toValue = .ok field.2) :
    ofEntries strict (toEntries fields) = .ok fields := by
  induction fields with
  | nil => rfl
  | cons field rest ih =>
      rw [toEntries, ofEntries, each field List.mem_cons_self,
        ih fun other member => each other (List.mem_cons_of_mem _ member)]
      rfl

private theorem IsWritable.ofValue_toValue {json : Json} (writable : json.IsWritable)
    (strict : Bool) :
    ofValue strict json.toValue = .ok json := by
  induction writable with
  | int n short => exact ofValue_int strict short
  | list items _each ih =>
      rw [toValue, ofValue, ofValues_of_each strict items ih]
      rfl
  | object fields _each ih =>
      rw [toValue, ofValue, ofEntries_of_each strict fields ih]
      rfl
  | _ => rfl

/-! ### Tables -/

theorem put_toEntries (fields : List (Text × Json)) (key : Text) (value : Json) :
    Entries.put (toEntries fields) (.text key) value.toValue = toEntries (put fields key value) := by
  induction fields with
  | nil => rfl
  | cons field rest ih =>
      obtain ⟨name, held⟩ := field
      rw [toEntries, Entries.put, put, ih]
      have test : Value.sameKey (.text name) (.text key) = (name == key) := rfl
      rw [test]
      by_cases same : name = key
      · subst same
        rw [if_pos (beq_self_eq_true name), if_pos rfl]
        rfl
      · rw [if_neg (fun equal => same (eq_of_beq equal)), if_neg same]
        rfl

private theorem foldl_put_toEntries (fields earlier : List (Text × Json)) :
    (toEntries fields).foldl (fun entries pair => Entries.put entries pair.1 pair.2)
        (toEntries earlier) =
      toEntries (fields.foldl (fun fields pair => put fields pair.1 pair.2) earlier) := by
  induction fields generalizing earlier with
  | nil => rfl
  | cons field rest ih =>
      rw [toEntries, List.foldl_cons, List.foldl_cons, put_toEntries, ih]

private theorem ofPairs_toEntries_of_distinct (fields : List (Text × Json))
    (distinct : (fields.map Prod.fst).Nodup) :
    Entries.ofPairs (toEntries fields) = toEntries fields := by
  have folded := foldl_put_toEntries fields []
  rw [foldl_put_of_distinct fields [] distinct] at folded
  exact folded

private theorem plain_toValue (json : Json) : json.toValue.plain = .ok json.toValue := by
  cases json <;> rfl

theorem toValues_eq_map (items : List Json) : toValues items = items.map toValue := by
  induction items with
  | nil => rfl
  | cons item rest ih => rw [toValues, ih, List.map_cons]

end Json

/-! ### Visiting -/

/-- The transform keeps every field as it is. -/
def Transform.Keeps (transform : Transform) : Prop :=
  ∀ name value, transform.apply name value = .ok value

theorem Transform.identity_keeps : Transform.identity.Keeps :=
  fun _name _value => rfl

namespace Fields

variable {transform : Transform} {descend : Value → Visit Value}

theorem nesting_le_of_mem (items : List Json) (item : Json) (member : item ∈ items) :
    nesting item.toValue ≤ nestingOfItems (Json.toValues items) := by
  induction items with
  | nil => cases member
  | cons first rest ih =>
      rw [Json.toValues, nestingOfItems]
      rcases List.mem_cons.mp member with rfl | later
      · exact Nat.le_max_left _ _
      · exact Nat.le_trans (ih later) (Nat.le_max_right _ _)

private theorem nesting_le_of_mem_fields (fields : List (Text × Json)) (field : Text × Json)
    (member : field ∈ fields) :
    nesting field.2.toValue ≤ nestingOfEntries (Json.toEntries fields) := by
  induction fields with
  | nil => cases member
  | cons first rest ih =>
      rw [Json.toEntries, nestingOfEntries]
      rcases List.mem_cons.mp member with rfl | later
      · exact Nat.le_max_left _ _
      · exact Nat.le_trans (ih later) (Nat.le_max_right _ _)

theorem visitItems_yields (items : List Json)
    (each : ∀ item ∈ items, (visitItem transform descend item.toValue).Yields item.toValue) :
    (visitItems transform descend (Json.toValues items)).Yields (Json.toValues items) := by
  induction items with
  | nil => exact Visit.Yields.pure []
  | cons item rest ih =>
      rw [Json.toValues, visitItems]
      refine (each item List.mem_cons_self).bind ?_
      exact (ih fun other member => each other (List.mem_cons_of_mem _ member)).bind
        (Visit.Yields.pure _)

private theorem visitEntries_yields (keeps : transform.Keeps) (fields : List (Text × Json))
    (each : ∀ field ∈ fields, (descend field.2.toValue).Yields field.2.toValue) :
    (visitEntries transform descend (Json.toEntries fields)).Yields (Json.toEntries fields) := by
  induction fields with
  | nil => exact Visit.Yields.pure []
  | cons field rest ih =>
      obtain ⟨name, value⟩ := field
      have named : (Value.text name).writtenText = .ok name := rfl
      rw [Json.toEntries, visitEntries]
      refine (Visit.Yields.ofExcept named).bind ?_
      refine (Visit.Yields.ofExcept value.plain_toValue).bind ?_
      refine (Visit.Yields.call (keeps _ _)).bind ?_
      refine (each (name, value) List.mem_cons_self).bind ?_
      exact (ih fun other member => each other (List.mem_cons_of_mem _ member)).bind
        (Visit.Yields.pure _)

private theorem visit_yields (keeps : transform.Keeps) {json : Json} (plain : json.IsPlain)
    (limit : Nat)
    (shallow : nesting json.toValue ≤ limit) :
    (visit transform (visitWithin transform limit) json.toValue).Yields json.toValue ∧
      (visitItem transform (visitWithin transform limit) json.toValue).Yields json.toValue := by
  induction plain generalizing limit with
  | list items each ih =>
      have visited : (visitItems transform (visitWithin transform limit)
          (Json.toValues items)).Yields (Json.toValues items) := by
        refine visitItems_yields items fun item member => (ih item member limit ?_).2
        exact Nat.le_trans (nesting_le_of_mem items item member) shallow
      exact ⟨visited.bind (Visit.Yields.pure _), visited.bind (Visit.Yields.pure _)⟩
  | object fields distinct names values ih =>
      -- The values of a table nest one less deep than the table itself.
      have visited : (visitEntries transform (visitWithin transform limit)
          (Json.toEntries fields)).Yields (Json.toEntries fields) := by
        refine visitEntries_yields keeps fields fun field member => ?_
        have within := nesting_le_of_mem_fields fields field member
        change nestingOfEntries (Json.toEntries fields) + 1 ≤ limit at shallow
        cases limit with
        | zero => omega
        | succ lower => exact (ih field member lower (by omega)).1
      have table : (do return Value.table false (Entries.ofPairs (← visitEntries transform
          (visitWithin transform limit) (Json.toEntries fields))) : Visit Value).Yields
            (.table false (Json.toEntries fields)) := by
        refine visited.bind ?_
        rw [Json.ofPairs_toEntries_of_distinct fields distinct]
        exact Visit.Yields.pure _
      exact ⟨table, table⟩
  | _ => exact ⟨Visit.Yields.pure _, Visit.Yields.pure _⟩

theorem normalized_of_plain (keeps : transform.Keeps) (rows : List Json)
    (plain : ∀ row ∈ rows, row.IsPlain) :
    (normalized transform (rows.map Json.toValue)).Yields rows := by
  rw [← Json.toValues_eq_map]
  unfold normalized
  dsimp only
  refine (visitItems_yields rows fun row member => ?_).bind ?_
  · refine (visit_yields keeps (plain row member) _ ?_).2
    exact Nat.le_trans (nesting_le_of_mem rows row member) (Nat.le_add_right _ _)
  · have written : Json.ofValues false (Json.toValues rows) = .ok rows :=
      Json.ofValues_of_each false rows fun row member =>
        (plain row member).isWritable.ofValue_toValue false
    refine (Visit.Yields.ofExcept written).bind ?_
    rw [Json.readBackItems_of_each rows fun row member => (plain row member).readBack_eq]
    exact Visit.Yields.pure rows

end Fields

end PooledQuery
