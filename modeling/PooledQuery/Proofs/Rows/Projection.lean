/-
Rows as JSON values.

What is read back is plain: the names of an object differ, no text holds a surrogate pair,
and every integer can be written.  So a transform that keeps every field changes the rows at
most once.  Rows that consist of plain values already come out as they are.
-/
import Mathlib.Data.List.Nodup
import PooledQuery.Proofs.Rows.Settling
import PooledQuery.Proofs.Text.Pairs

namespace PooledQuery

/-! ### Reading back -/

namespace Json

private theorem names_put (fields : List (Text × Json)) (key : Text) (value : Json) :
    (put fields key value).map Prod.fst =
      if key ∈ fields.map Prod.fst then fields.map Prod.fst
      else fields.map Prod.fst ++ [key] := by
  induction fields with
  | nil => rfl
  | cons field rest ih =>
      obtain ⟨name, held⟩ := field
      rw [put, List.map_cons]
      by_cases same : name = key
      · subst same
        rw [if_pos rfl, if_pos List.mem_cons_self, List.map_cons]
      · rw [if_neg same, List.map_cons, ih]
        by_cases later : key ∈ rest.map Prod.fst
        · rw [if_pos later, if_pos (List.mem_cons_of_mem _ later)]
        · have new : key ∉ name :: rest.map Prod.fst := by
            rw [List.mem_cons, not_or]
            exact ⟨Ne.symm same, later⟩
          rw [if_neg later, if_neg new, List.cons_append]

theorem distinct_put {fields : List (Text × Json)} (distinct : (fields.map Prod.fst).Nodup)
    (key : Text) (value : Json) : ((put fields key value).map Prod.fst).Nodup := by
  rw [names_put]
  split
  · exact distinct
  · rename_i new
    refine List.nodup_append.mpr ⟨distinct, List.nodup_singleton key, ?_⟩
    intro name present other single same
    rw [List.mem_singleton.mp single] at same
    exact new (same ▸ present)

private theorem distinct_fieldsOfPairs (pairs : List (Text × Json)) :
    ((fieldsOfPairs pairs).map Prod.fst).Nodup :=
  List.foldlRecOn (motive := fun fields : List (Text × Json) => (fields.map Prod.fst).Nodup) pairs _ List.nodup_nil
    fun _fields distinct pair _member => distinct_put distinct pair.1 pair.2

theorem isPlain_readBackItems {items : List Json} (each : ∀ item ∈ items, item.readBack.IsPlain) :
    ∀ json ∈ readBackItems items, json.IsPlain := by
  intro json member
  obtain ⟨item, present, rfl⟩ := mem_readBackItems json member
  exact each item present

private theorem IsWritable.isPlain_readBack {json : Json} (writable : json.IsWritable) :
    json.readBack.IsPlain := by
  induction writable with
  | null => exact .null
  | bool b => exact .bool b
  | int n short => exact .int n short
  | float x => exact .float x
  | text content => exact .text _ (Text.pairsJoined_pairsJoined content)
  | list items _each ih => exact .list _ (isPlain_readBackItems ih)
  | object fields _each ih =>
      have origin : ∀ field ∈ fieldsOfPairs (readBackFields fields), ∃ source ∈ fields,
          field = (source.1.pairsJoined, source.2.readBack) :=
        fun field member => mem_readBackFields field (mem_fieldsOfPairs field member)
      refine .object _ (distinct_fieldsOfPairs _) ?_ ?_
      · intro field member
        obtain ⟨source, _present, rfl⟩ := origin field member
        exact Text.pairsJoined_pairsJoined source.1
      · intro field member
        obtain ⟨source, present, rfl⟩ := origin field member
        exact ih source present

theorem isWritable_of_coerced {strict : Bool} {value : Value} {type : Text} {json : Json}
    (formed : (if strict then .error (.notSerializable type) else do
      match ← value.coerced with
      | .text content => return .text content
      | _ => .error (.notSerializable type) : Except Failure Json) = .ok json) :
    json.IsWritable := by
  cases strict with
  | true => cases formed
  | false =>
      obtain ⟨simpler, _coerces, becomes⟩ := Failure.bind_ok formed
      cases simpler <;> cases becomes
      exact .text _

mutual

theorem isWritable_ofValue {strict : Bool} :
    ∀ {value : Value} {json : Json}, ofValue strict value = .ok json → json.IsWritable
  | .null, _, rfl => .null
  | .bool b, _, rfl => .bool b
  | .int n, _, formed => by
      obtain ⟨rfl, short⟩ := int_of_ofValue formed
      exact .int n short
  | .float x, _, rfl => .float x
  | .text content, _, rfl => .text content
  | .list _, _, formed => by
      obtain ⟨written, items, rfl⟩ := Failure.bind_pure_ok formed
      exact .list written (isWritable_ofValues items)
  | .tuple _, _, formed => by
      obtain ⟨written, items, rfl⟩ := Failure.bind_pure_ok formed
      exact .list written (isWritable_ofValues items)
  | .table false _, _, formed => by
      obtain ⟨written, entries, rfl⟩ := Failure.bind_pure_ok formed
      exact .object written (isWritable_ofEntries entries)
  | .set _ _, _, formed => by
      rw [ofValue] at formed
      cases strict with
      | true => cases formed
      | false =>
          obtain ⟨written, items, rfl⟩ := Failure.bind_pure_ok formed
          exact .list written (isWritable_ofValues items)
  | .member _ _ _, _, formed => by
      rw [ofValue] at formed
      cases strict with
      | true => cases formed
      | false => exact isWritable_ofValue formed
  | .decimal _, _, formed => isWritable_of_coerced formed
  | .bytes _ _, _, formed => isWritable_of_coerced formed
  | .date _, _, formed => isWritable_of_coerced formed
  | .time _, _, formed => isWritable_of_coerced formed
  | .moment _ _ _, _, formed => isWritable_of_coerced formed
  | .duration _, _, formed => isWritable_of_coerced formed
  | .uuid _, _, formed => isWritable_of_coerced formed
  | .table true _, _, formed => isWritable_of_coerced formed
  | .record _, _, formed => isWritable_of_coerced formed
  | .blank, _, formed => isWritable_of_coerced formed

theorem isWritable_ofValues {strict : Bool} :
    ∀ {items : List Value} {written : List Json}, ofValues strict items = .ok written →
      ∀ json ∈ written, json.IsWritable
  | [], _, rfl => List.forall_mem_nil _
  | _ :: _, _, formed => by
      obtain ⟨_, first, follows⟩ := Failure.bind_ok formed
      obtain ⟨_, rest, rfl⟩ := Failure.bind_pure_ok follows
      exact List.forall_mem_cons.mpr ⟨isWritable_ofValue first, isWritable_ofValues rest⟩

theorem isWritable_ofEntries {strict : Bool} :
    ∀ {entries : List (Value × Value)} {written : List (Text × Json)},
      ofEntries strict entries = .ok written → ∀ field ∈ written, field.2.IsWritable
  | [], _, rfl => List.forall_mem_nil _
  | (_, _) :: _, _, formed => by
      obtain ⟨_, _, valued⟩ := Failure.bind_ok formed
      obtain ⟨_, value, follows⟩ := Failure.bind_ok valued
      obtain ⟨_, rest, rfl⟩ := Failure.bind_pure_ok follows
      exact List.forall_mem_cons.mpr ⟨isWritable_ofValue value, isWritable_ofEntries rest⟩

end

end Json

/-! ### Values that JSON knows -/

namespace Value

/-- Values that consist of what JSON knows, with texts for keys, without surrogate pairs and
without integers of too many digits. -/
inductive IsJson : Value → Prop
  | null : IsJson .null
  | bool (b : Bool) : IsJson (.bool b)
  | int (n : Int) (short : n.natAbs < Number.unwritable) : IsJson (.int n)
  | float (x : Binary64) : IsJson (.float x)
  | text (content : Text) (lacks : content.LacksPairs) : IsJson (.text content)
  | list (items : List Value) (each : ∀ item ∈ items, IsJson item) : IsJson (.list items)
  | table (entries : List (Value × Value)) (distinct : (entries.map Prod.fst).Nodup)
      (named : ∀ entry ∈ entries, ∃ name : Text, entry.1 = .text name ∧ name.LacksPairs)
      (each : ∀ entry ∈ entries, IsJson entry.2) : IsJson (.table false entries)

def HasPlainForm (value : Value) : Prop :=
  ∃ json : Json, json.IsPlain ∧ json.toValue = value

theorem exists_plainItems {items : List Value} (each : ∀ item ∈ items, item.HasPlainForm) :
    ∃ jsons : List Json, (∀ json ∈ jsons, json.IsPlain) ∧ Json.toValues jsons = items := by
  induction items with
  | nil => exact ⟨[], List.forall_mem_nil _, rfl⟩
  | cons item rest ih =>
      obtain ⟨json, plain, rfl⟩ := each item List.mem_cons_self
      obtain ⟨jsons, plains, rfl⟩ := ih fun other member => each other (List.mem_cons_of_mem _ member)
      exact ⟨json :: jsons, List.forall_mem_cons.mpr ⟨plain, plains⟩, rfl⟩

private theorem exists_plainFields {entries : List (Value × Value)}
    (named : ∀ entry ∈ entries, ∃ name : Text, entry.1 = .text name ∧ name.LacksPairs)
    (each : ∀ entry ∈ entries, entry.2.HasPlainForm) :
    ∃ fields : List (Text × Json), (∀ field ∈ fields, field.1.LacksPairs ∧ field.2.IsPlain) ∧
      Json.toEntries fields = entries := by
  induction entries with
  | nil => exact ⟨[], List.forall_mem_nil _, rfl⟩
  | cons entry rest ih =>
      obtain ⟨key, value⟩ := entry
      obtain ⟨name, text, lacks⟩ := named _ List.mem_cons_self
      obtain ⟨json, plain, shown⟩ := each _ List.mem_cons_self
      dsimp only at text shown
      subst text shown
      obtain ⟨fields, plains, rfl⟩ := ih
        (fun other member => named other (List.mem_cons_of_mem _ member))
        (fun other member => each other (List.mem_cons_of_mem _ member))
      exact ⟨(name, json) :: fields, List.forall_mem_cons.mpr ⟨⟨lacks, plain⟩, plains⟩, rfl⟩

private theorem keys_toEntries (fields : List (Text × Json)) :
    (Json.toEntries fields).map Prod.fst = (fields.map Prod.fst).map Value.text := by
  induction fields with
  | nil => rfl
  | cons field rest ih => rw [Json.toEntries, List.map_cons, List.map_cons, List.map_cons, ih]

private theorem IsJson.hasPlainForm {value : Value} (known : value.IsJson) :
    value.HasPlainForm := by
  induction known with
  | null => exact ⟨.null, .null, rfl⟩
  | bool b => exact ⟨.bool b, .bool b, rfl⟩
  | int n short => exact ⟨.int n, .int n short, rfl⟩
  | float x => exact ⟨.float x, .float x, rfl⟩
  | text content lacks =>
      exact ⟨.text content, .text content (Text.pairsJoined_of_lacksPairs lacks), rfl⟩
  | list items each ih =>
      obtain ⟨jsons, plain, rfl⟩ := exists_plainItems ih
      exact ⟨.list jsons, .list jsons plain, rfl⟩
  | table entries distinct named each ih =>
      obtain ⟨fields, plain, rfl⟩ := exists_plainFields named ih
      rw [keys_toEntries] at distinct
      refine ⟨.object fields, .object fields (List.Nodup.of_map _ distinct) ?_ ?_, rfl⟩
      · exact fun field member => Text.pairsJoined_of_lacksPairs (plain field member).1
      · exact fun field member => (plain field member).2

end Value

/-! ### Normalized rows -/

namespace Fields

variable {transform : Transform}

private theorem isPlain_normalizedRows (rows : Value) {result : List Json}
    (succeeds : (normalizedRows transform rows).outcome.1 = .ok result) :
    ∀ row ∈ result, row.IsPlain := by
  have plain (items : List Value) :
      (normalized transform items).Ensures fun result => ∀ row ∈ result, row.IsPlain := by
    unfold normalized
    dsimp only
    refine (Visit.Ensures.anything _).bind fun visited _any =>
      (Visit.Ensures.ofExcept fun written forms => forms).bind fun written forms => ?_
    refine Visit.Ensures.pure (Json.isPlain_readBackItems fun item member => ?_)
    exact (Json.isWritable_ofValues forms item member).isPlain_readBack
  have ensures : (normalizedRows transform rows).Ensures fun result => ∀ row ∈ result, row.IsPlain :=
    (Visit.Ensures.anything _).bind fun items _any => plain items
  exact ensures.outcome succeeds

theorem normalizedRows_of_plain (keeps : transform.Keeps) (rows : List Json)
    (plain : ∀ row ∈ rows, row.IsPlain) :
    (normalizedRows transform (.list (rows.map Json.toValue))).outcome.1 = .ok rows :=
  (normalized_of_plain keeps rows plain).outcome

/-- Normalizing is a projection onto the values that JSON knows: what comes out is left as it
is by normalizing it again, and so are rows that consist of such values. -/
theorem normalizedRows_projects (keeps : transform.Keeps) :
    (∀ rows result, (normalizedRows transform rows).outcome.1 = .ok result →
      (normalizedRows transform (.list (result.map Json.toValue))).outcome.1 = .ok result) ∧
    (∀ rows, (∀ row ∈ rows, row.IsJson) → ∃ result,
      (normalizedRows transform (.list rows)).outcome.1 = .ok result ∧
        result.map Json.toValue = rows) := by
  constructor
  · intro rows result succeeds
    exact normalizedRows_of_plain keeps result (isPlain_normalizedRows rows succeeds)
  · intro rows known
    obtain ⟨jsons, plain, rfl⟩ :=
      Value.exists_plainItems fun row member => (known row member).hasPlainForm
    refine ⟨jsons, ?_, (Json.toValues_eq_map jsons).symm⟩
    rw [Json.toValues_eq_map]
    exact normalizedRows_of_plain keeps jsons plain

/-- Readings of a gauge, in a table whose two keys have the same text. -/
def readings : Value :=
  .tuple [.table true [(.int 1, .member "Level" "LOW" (.decimal (.finite false 15 (-1)))),
    (.text "1", .set true [.float .nan, .null])]]

/-- A reading that JSON knows. -/
def reading : Value :=
  .table false [(.text "level", .float (.signedZero true)),
    (.text "past", .list [.int (-3), .bool true, .text "low"])]

theorem readings_projected :
    (∃ result, (normalizedRows Transform.identity readings).outcome.1 = .ok result ∧
      (normalizedRows Transform.identity (.list (result.map Json.toValue))).outcome.1 =
        .ok result) ∧
    ∃ result, (normalizedRows Transform.identity (.list [reading])).outcome.1 = .ok result ∧
      result.map Json.toValue = [reading] := by
  have projects := normalizedRows_projects Transform.identity_keeps
  have succeeds : (normalizedRows Transform.identity readings).outcome.1 =
      .ok [.object [("1", .list [.float .nan, .null])]] := rfl
  have one : 1 ≤ Number.digitLimit := by decide
  have past : (Value.list [.int (-3), .bool true, .text "low"]).IsJson :=
    .list _ (by
      simp only [List.forall_mem_cons]
      exact ⟨.int _ (Number.lt_unwritable one (by decide)), .bool _, .text _ (by decide),
        List.forall_mem_nil _⟩)
  have known : reading.IsJson := by
    have names : (["level", "past"] : List Text).Nodup := by decide
    refine .table _ (names.map (f := Value.text) fun _ _ => Value.text.inj) ?_ ?_
    · simp only [List.forall_mem_cons]
      exact ⟨⟨_, rfl, by decide⟩, ⟨_, rfl, by decide⟩, List.forall_mem_nil _⟩
    · simp only [List.forall_mem_cons]
      exact ⟨.float _, past, List.forall_mem_nil _⟩
  exact ⟨⟨_, succeeds, projects.1 _ _ succeeds⟩,
    projects.2 _ (List.forall_mem_singleton.mpr known)⟩

/-- A reading with more digits than an integer may be written with. -/
def hugeReading : Value :=
  .table false [(.text "level", .int Number.unwritable)]

/-- An integer of too many digits does not come out, and of a table only the keys do. -/
theorem readings_not_projected :
    (normalizedRows Transform.identity (.list [hugeReading])).outcome.1 =
        .error .integerTooLongToWrite ∧
      (normalizedRows Transform.identity reading).outcome.1 = .ok [.text "level", .text "past"] := by
  refine ⟨?_, rfl⟩
  have long : Number.isOverlong Number.unwritable = true := Number.isOverlong_unwritable
  unfold hugeReading
  generalize (Number.unwritable : Int) = level at long
  have direct : (Value.list [.table false [(.text "level", .int level)]]).NamesDirectly := by
    simp [Value.NamesDirectly, Value.parts, Value.partsOfItems, Value.partsOfEntries,
      Value.namesDirect]
  rw [normalizedRows_settles Transform.identity_keeps direct rfl]
  have fails : Json.ofValues false [.table false [(.text "level", .int level)]] =
      .error .integerTooLongToWrite := by
    simp only [Json.ofValues, Json.ofValue, Json.ofEntries, long]
    rfl
  change (Json.ofValues false [.table false [(.text "level", .int level)]] >>= _) = _
  rw [fails]
  rfl

end Fields
end PooledQuery
