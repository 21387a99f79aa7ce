/-
What lies within values and JSON values.

A value's parts are itself and everything within it; a JSON value has fields within it.
Writing makes a field of an entry, and reading back makes a field of a field, so that every
field in the end has an origin.
-/
import PooledQuery.Proofs.Failure
import PooledQuery.Proofs.Rows.Plain

namespace PooledQuery

/-! ### Values -/

namespace Value

mutual

/-- A value and everything within it, keys of tables included. -/
def parts : Value → List Value
  | .member enumeration name named => .member enumeration name named :: named.parts
  | .list items => .list items :: partsOfItems items
  | .tuple items => .tuple items :: partsOfItems items
  | .set frozen items => .set frozen items :: partsOfItems items
  | .table view entries => .table view entries :: partsOfEntries entries
  | value => [value]

def partsOfItems : List Value → List Value
  | [] => []
  | item :: rest => item.parts ++ partsOfItems rest

def partsOfEntries : List (Value × Value) → List Value
  | [] => []
  | (key, value) :: rest => (key.parts ++ value.parts) ++ partsOfEntries rest

end

/-- Whether there is nothing within a value. -/
def isAtom : Value → Bool
  | .member _ _ _ => false
  | .list _ => false
  | .tuple _ => false
  | .set _ _ => false
  | .table _ _ => false
  | _ => true

/-- Whether a value is neither a member of an enumeration nor a set. -/
def isDirect : Value → Bool
  | .member _ _ _ => false
  | .set _ _ => false
  | _ => true

/-- Whether a value, if it is a member, names a direct value. -/
def namesDirect : Value → Bool
  | .member _ _ named => named.isDirect
  | _ => true

/-- No member within the value names a member or a set. -/
def NamesDirectly (value : Value) : Prop :=
  ∀ part ∈ value.parts, part.namesDirect = true

theorem parts_of_mem {item : Value} {items : List Value} (member : item ∈ items) :
    item.parts ⊆ partsOfItems items := by
  induction items with
  | nil => cases member
  | cons first rest ih =>
      rw [partsOfItems]
      rcases List.mem_cons.mp member with rfl | later
      · exact List.subset_append_left _ _
      · exact List.subset_append_of_subset_right _ (ih later)

theorem parts_of_entry {entry : Value × Value} {entries : List (Value × Value)}
    (member : entry ∈ entries) : entry.1.parts ++ entry.2.parts ⊆ partsOfEntries entries := by
  induction entries with
  | nil => cases member
  | cons first rest ih =>
      rw [partsOfEntries]
      rcases List.mem_cons.mp member with rfl | later
      · exact List.subset_append_left _ _
      · exact List.subset_append_of_subset_right _ (ih later)

theorem parts_of_atom {value : Value} (atom : value.isAtom = true) : value.parts = [value] := by
  cases value <;> first | rfl | cases atom

theorem isDirect_of_atom {value : Value} (atom : value.isAtom = true) : value.isDirect = true := by
  cases value <;> first | rfl | cases atom

theorem isAtom_of_plain {value given : Value} (atom : value.isAtom = true)
    (coerces : value.plain = .ok given) : given.isAtom = true := by
  cases value with
  | number n => cases n <;> cases coerces <;> rfl
  | member _ _ _ => cases atom
  | list _ => cases atom
  | tuple _ => cases atom
  | set _ _ => cases atom
  | table _ _ => cases atom
  | _ => cases coerces <;> rfl

namespace NamesDirectly

theorem of_subset {inner outer : Value} (direct : outer.NamesDirectly)
    (subset : inner.parts ⊆ outer.parts) : inner.NamesDirectly :=
  fun part member => direct part (subset member)

theorem of_atom {value : Value} (atom : value.isAtom = true) : value.NamesDirectly := by
  intro part member
  rw [parts_of_atom atom, List.mem_singleton] at member
  subst member
  cases part <;> first | rfl | cases atom

theorem item {items : List Value} {outer item : Value} (direct : outer.NamesDirectly)
    (within : outer.parts = outer :: partsOfItems items) (member : item ∈ items) :
    item.NamesDirectly := by
  refine direct.of_subset (List.Subset.trans (parts_of_mem member) ?_)
  rw [within]
  exact List.subset_cons_self _ _

theorem entry {view : Bool} {entries : List (Value × Value)} {entry : Value × Value}
    (direct : (Value.table view entries).NamesDirectly) (member : entry ∈ entries) :
    entry.1.NamesDirectly ∧ entry.2.NamesDirectly := by
  have within : entry.1.parts ++ entry.2.parts ⊆ (Value.table view entries).parts :=
    List.Subset.trans (parts_of_entry member) (List.subset_cons_self _ _)
  exact ⟨direct.of_subset (List.Subset.trans (List.subset_append_left _ _) within),
    direct.of_subset (List.Subset.trans (List.subset_append_right _ _) within)⟩

theorem named {enumeration name : Text} {named : Value}
    (direct : (Value.member enumeration name named).NamesDirectly) :
    named.NamesDirectly ∧ named.isDirect = true :=
  ⟨direct.of_subset (List.subset_cons_self _ _), direct _ List.mem_cons_self⟩

theorem plain {value given : Value} (direct : value.NamesDirectly)
    (coerces : value.plain = .ok given) : given.NamesDirectly ∧ given.isDirect = true := by
  cases value with
  | member enumeration name named =>
      cases coerces
      exact direct.named
  | list items =>
      cases coerces
      exact ⟨direct, rfl⟩
  | tuple items =>
      cases coerces
      exact ⟨direct, rfl⟩
  | set frozen items =>
      cases coerces
      refine ⟨List.forall_mem_cons.mpr ⟨rfl, ?_⟩, rfl⟩
      exact fun part member => direct part (List.mem_cons_of_mem _ member)
  | table view entries =>
      cases coerces
      refine ⟨List.forall_mem_cons.mpr ⟨rfl, ?_⟩, rfl⟩
      exact fun part member => direct part (List.mem_cons_of_mem _ member)
  | _ =>
      have atom := isAtom_of_plain rfl coerces
      exact ⟨of_atom atom, isDirect_of_atom atom⟩

theorem elements {value : Value} {items : List Value} (direct : value.NamesDirectly)
    (lists : value.elements = .ok items) : ∀ item ∈ items, item.NamesDirectly := by
  cases value with
  | text content =>
      cases lists
      intro item member
      obtain ⟨point, _present, rfl⟩ := List.mem_map.mp member
      exact of_atom rfl
  | bytes form content =>
      cases lists
      intro item member
      obtain ⟨byte, _present, rfl⟩ := List.mem_map.mp member
      exact of_atom rfl
  | list items =>
      cases lists
      exact fun item => direct.item rfl
  | tuple items =>
      cases lists
      exact fun item => direct.item rfl
  | set frozen items =>
      cases lists
      exact fun item => direct.item rfl
  | table view entries =>
      cases lists
      intro item member
      obtain ⟨entry, present, rfl⟩ := List.mem_map.mp member
      exact (direct.entry present).1
  | _ => cases lists

end NamesDirectly
end Value

theorem Fields.visit_of_atom {transform : Transform} (descend : Value → Visit Value) {value : Value}
    (atom : value.isAtom = true) : visit transform descend value = pure value := by
  cases value <;> first | rfl | cases atom

theorem Entries.mem_put_of_texts {entries : Entries} {key value : Value} {entry : Value × Value}
    (texts : ∀ other ∈ entries, ∃ name, other.1 = .text name) (text : ∃ name, key = .text name)
    (member : entry ∈ Entries.put entries key value) : entry = (key, value) ∨ entry ∈ entries := by
  induction entries with
  | nil => exact .inl (List.mem_singleton.mp member)
  | cons first rest ih =>
      obtain ⟨otherKey, otherValue⟩ := first
      rw [Entries.put] at member
      split at member
      · rename_i same
        rcases List.mem_cons.mp member with rfl | later
        · obtain ⟨name, rfl⟩ := text
          obtain ⟨otherName, other⟩ := texts _ List.mem_cons_self
          dsimp only at other
          subst other
          have equal : otherName = name := eq_of_beq same
          rw [equal]
          exact .inl rfl
        · exact .inr (List.mem_cons_of_mem _ later)
      · rcases List.mem_cons.mp member with rfl | later
        · exact .inr List.mem_cons_self
        · rcases ih (fun other present => texts other (List.mem_cons_of_mem _ present)) later with
            new | old
          · exact .inl new
          · exact .inr (List.mem_cons_of_mem _ old)

theorem Entries.mem_ofPairs_of_texts {pairs : List (Value × Value)}
    (texts : ∀ pair ∈ pairs, ∃ name, pair.1 = .text name) :
    ∀ entry ∈ Entries.ofPairs pairs, entry ∈ pairs := by
  refine List.foldlRecOn (motive := fun entries : Entries => ∀ entry ∈ entries, entry ∈ pairs)
    pairs _ (fun _entry none => nomatch none) ?_
  intro earlier among pair new entry member
  rcases Entries.mem_put_of_texts (fun other present => texts other (among other present))
    (texts pair new) member with rfl | old
  · exact new
  · exact among entry old

/-! ### JSON values -/

namespace Json

/-- The fields within a JSON value, at any depth. -/
inductive HasField (field : Text × Json) : Json → Prop
  | item (items : List Json) (item : Json) (member : item ∈ items) (inner : HasField field item) :
      HasField field (.list items)
  | here (fields : List (Text × Json)) (member : field ∈ fields) : HasField field (.object fields)
  | within (fields : List (Text × Json)) (outer : Text × Json) (member : outer ∈ fields)
      (inner : HasField field outer.2) : HasField field (.object fields)

/-- A JSON value with nothing within, as a reader makes it. -/
inductive IsScalar : Json → Prop
  | null : IsScalar .null
  | bool (b : Bool) : IsScalar (.bool b)
  | int (n : Int) : IsScalar (.int n)
  | float (x : Binary64) : IsScalar (.float x)
  | text (content : Text) (joined : content.pairsJoined = content) : IsScalar (.text content)

theorem ofValues_mem (strict : Bool) {items : List Value} {written : List Json}
    (writes : ofValues strict items = .ok written) :
    ∀ json ∈ written, ∃ item ∈ items, ofValue strict item = .ok json := by
  induction items generalizing written with
  | nil =>
      cases writes
      exact fun _json none => nomatch none
  | cons item rest ih =>
      obtain ⟨first, starts, follows⟩ := Failure.bind_ok writes
      obtain ⟨others, ends, rfl⟩ := Failure.bind_pure_ok follows
      intro json member
      rcases List.mem_cons.mp member with rfl | later
      · exact ⟨item, List.mem_cons_self, starts⟩
      · obtain ⟨source, among, comes⟩ := ih ends json later
        exact ⟨source, List.mem_cons_of_mem _ among, comes⟩

theorem ofEntries_mem (strict : Bool) {entries : List (Value × Value)}
    {written : List (Text × Json)} (writes : ofEntries strict entries = .ok written) :
    ∀ field ∈ written, ∃ entry ∈ entries,
      entry.1.fieldName = .ok field.1 ∧ ofValue strict entry.2 = .ok field.2 := by
  induction entries generalizing written with
  | nil =>
      cases writes
      exact fun _field none => nomatch none
  | cons entry rest ih =>
      obtain ⟨name, names, valued⟩ := Failure.bind_ok writes
      obtain ⟨json, comes, follows⟩ := Failure.bind_ok valued
      obtain ⟨others, ends, rfl⟩ := Failure.bind_pure_ok follows
      intro field member
      rcases List.mem_cons.mp member with rfl | later
      · exact ⟨entry, List.mem_cons_self, names, comes⟩
      · obtain ⟨source, among, comesToo⟩ := ih ends field later
        exact ⟨source, List.mem_cons_of_mem _ among, comesToo⟩

theorem ofValue_atom {value : Value} {json : Json} (atom : value.isAtom = true)
    (writes : ofValue false value = .ok json) (field : Text × Json) : ¬ HasField field json := by
  intro has
  cases value with
  | member _ _ _ => cases atom
  | list _ => cases atom
  | tuple _ => cases atom
  | set _ _ => cases atom
  | table _ _ => cases atom
  | number n =>
      cases n with
      | int n =>
          rw [(int_of_ofValue writes).1] at has
          cases has
      | _ =>
          cases writes
          cases has
  | _ => cases writes <;> cases has

private theorem mem_put {fields : List (Text × Json)} {key : Text} {value : Json}
    {field : Text × Json}
    (member : field ∈ put fields key value) : field = (key, value) ∨ field ∈ fields := by
  induction fields with
  | nil => exact .inl (List.mem_singleton.mp member)
  | cons first rest ih =>
      rw [put] at member
      split at member
      · rcases List.mem_cons.mp member with rfl | later
        · exact .inl rfl
        · exact .inr (List.mem_cons_of_mem _ later)
      · rcases List.mem_cons.mp member with rfl | later
        · exact .inr List.mem_cons_self
        · exact (ih later).imp_right (List.mem_cons_of_mem _)

theorem mem_fieldsOfPairs {pairs : List (Text × Json)} :
    ∀ field ∈ fieldsOfPairs pairs, field ∈ pairs := by
  refine List.foldlRecOn (motive := fun fields => ∀ field ∈ fields, field ∈ pairs)
    pairs _ (fun _field none => nomatch none) ?_
  intro earlier among pair new field member
  rcases mem_put member with rfl | old
  · exact new
  · exact among field old

theorem mem_readBackItems {items : List Json} :
    ∀ json ∈ readBackItems items, ∃ item ∈ items, json = item.readBack := by
  induction items with
  | nil => exact fun _json none => nomatch none
  | cons item rest ih =>
      intro json member
      rcases List.mem_cons.mp member with rfl | later
      · exact ⟨item, List.mem_cons_self, rfl⟩
      · obtain ⟨source, among, same⟩ := ih json later
        exact ⟨source, List.mem_cons_of_mem _ among, same⟩

theorem mem_readBackFields {fields : List (Text × Json)} :
    ∀ field ∈ readBackFields fields, ∃ source ∈ fields,
      field = (source.1.pairsJoined, source.2.readBack) := by
  induction fields with
  | nil => exact fun _field none => nomatch none
  | cons first rest ih =>
      intro field member
      rcases List.mem_cons.mp member with rfl | later
      · exact ⟨first, List.mem_cons_self, rfl⟩
      · obtain ⟨source, among, same⟩ := ih field later
        exact ⟨source, List.mem_cons_of_mem _ among, same⟩

theorem hasField_of_readBack {field : Text × Json} {read : Json} (has : HasField field read) :
    ∀ json, read = json.readBack → ∃ source, HasField source json ∧
      field = (source.1.pairsJoined, source.2.readBack) := by
  induction has with
  | item items item member inner ih =>
      intro json same
      cases json <;> cases same
      rename_i sources
      obtain ⟨source, among, becomes⟩ := mem_readBackItems item member
      obtain ⟨origin, has, reads⟩ := ih source becomes
      exact ⟨origin, .item sources source among has, reads⟩
  | here fields member =>
      intro json same
      cases json <;> cases same
      rename_i sources
      obtain ⟨source, among, reads⟩ := mem_readBackFields field (mem_fieldsOfPairs field member)
      exact ⟨source, .here sources among, reads⟩
  | within fields outer member inner ih =>
      intro json same
      cases json <;> cases same
      rename_i sources
      obtain ⟨source, among, reads⟩ := mem_readBackFields outer (mem_fieldsOfPairs outer member)
      obtain ⟨origin, has, comes⟩ := ih source.2 (by rw [reads])
      exact ⟨origin, .within sources source among has, comes⟩

theorem IsScalar.readBack_eq {json : Json} (scalar : json.IsScalar) : json.readBack = json := by
  cases scalar with
  | text content joined => rw [readBack, joined]
  | _ => rfl

theorem IsScalar.eq_of_ofValue {json written : Json} (scalar : json.IsScalar)
    (writes : ofValue false json.toValue = .ok written) : written = json := by
  cases scalar with
  | int n => exact (int_of_ofValue writes).1
  | _ => exact (Except.ok.inj writes).symm

theorem IsScalar.isAtom {json : Json} (scalar : json.IsScalar) : json.toValue.isAtom = true := by
  cases scalar <;> rfl

end Json
end PooledQuery
