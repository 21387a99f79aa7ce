/-
Transforms that hide a field.

A transform may answer one name with a constant and leave every other field alone.  The
visit of the fields then meets every entry of every table, because whatever one step of
coercion does not take apart is no container.  That fails for a member that names a set or
another member, which takes two steps, and for a name that only a reader joins to the hidden
one.  Apart from these, the hidden field shows the constant wherever it stands.
-/
import PooledQuery.Proofs.Rows.Parts

namespace PooledQuery

/-! ### Parts of values -/

namespace Value

def fieldNames : Value → List Text
  | .table _ entries => entries.map fun entry => entry.1.plainText
  | _ => []

/-- Values in which a name can be hidden: no member within names a member or a set, and no
other name becomes this one when it is written and read back. -/
structure Hides (key : Text) (value : Value) : Prop where
  members : ∀ part ∈ value.parts, part.namesDirect = true
  names : ∀ part ∈ value.parts, ∀ name ∈ part.fieldNames, name.pairsJoined = key → name = key

variable {key : Text}

theorem Hides.of_subset {inner outer : Value} (hides : outer.Hides key)
    (subset : inner.parts ⊆ outer.parts) : inner.Hides key :=
  ⟨fun part member => hides.members part (subset member),
    fun part member => hides.names part (subset member)⟩

theorem Hides.list {items : List Value} {outer : Value} (hides : outer.Hides key)
    (subset : partsOfItems items ⊆ outer.parts) : (Value.list items).Hides key where
  members part member := by
    rcases List.mem_cons.mp member with rfl | within
    · rfl
    · exact hides.members part (subset within)
  names part member := by
    rcases List.mem_cons.mp member with rfl | within
    · exact fun name none => nomatch none
    · exact hides.names part (subset within)

theorem Hides.item {items : List Value} {outer item : Value} (hides : outer.Hides key)
    (within : outer.parts = outer :: partsOfItems items) (member : item ∈ items) :
    item.Hides key := by
  refine hides.of_subset (List.Subset.trans (parts_of_mem member) ?_)
  rw [within]
  exact List.subset_cons_self _ _

theorem Hides.entry {view : Bool} {entries : List (Value × Value)} {entry : Value × Value}
    (hides : (Value.table view entries).Hides key) (member : entry ∈ entries) :
    entry.2.Hides key ∧ (entry.1.plainText.pairsJoined = key → entry.1.plainText = key) := by
  constructor
  · have within := List.Subset.trans (parts_of_entry member)
      (List.subset_cons_self (.table view entries) _)
    exact hides.of_subset (List.Subset.trans (List.subset_append_right _ _) within)
  · exact hides.names _ List.mem_cons_self _ (List.mem_map_of_mem member)

theorem Hides.table {view : Bool} {entries : List (Value × Value)}
    (hides : (Value.table view entries).Hides key) (other : Bool) :
    (Value.table other entries).Hides key where
  members part member := by
    rcases List.mem_cons.mp member with rfl | within
    · rfl
    · exact hides.members part (List.mem_cons_of_mem _ within)
  names part member := by
    rcases List.mem_cons.mp member with rfl | within
    · exact hides.names (.table view entries) List.mem_cons_self
    · exact hides.names part (List.mem_cons_of_mem _ within)

theorem hides_of_atom {value : Value} (atom : value.isAtom = true) : value.Hides key := by
  have alone : value.parts = [value] ∧ value.namesDirect = true ∧ value.fieldNames = [] := by
    cases value <;> first | exact ⟨rfl, rfl, rfl⟩ | cases atom
  constructor
  · intro part member
    rw [alone.1, List.mem_singleton] at member
    rw [member, alone.2.1]
  · intro part member name named
    rw [alone.1, List.mem_singleton] at member
    rw [member, alone.2.2] at named
    cases named

theorem Hides.plain {value given : Value} (hides : value.Hides key)
    (coerces : value.plain = .ok given) : given.Hides key ∧ given.isDirect = true := by
  cases value with
  | member enumeration name named =>
      -- Coercion stops at what the member names, which must need no further step.
      cases coerces
      exact ⟨hides.of_subset (List.subset_cons_self _ _), hides.members _ List.mem_cons_self⟩
  | list items =>
      cases coerces
      exact ⟨hides, rfl⟩
  | tuple items =>
      cases coerces
      exact ⟨hides, rfl⟩
  | set frozen items =>
      cases coerces
      exact ⟨hides.list (List.subset_cons_self _ _), rfl⟩
  | table view entries =>
      cases coerces
      exact ⟨hides.table false, rfl⟩
  | _ =>
      have atom := isAtom_of_plain rfl coerces
      exact ⟨hides_of_atom atom, isDirect_of_atom atom⟩

theorem Hides.elements {value : Value} {items : List Value} (hides : value.Hides key)
    (lists : value.elements = .ok items) : ∀ item ∈ items, item.Hides key := by
  cases value with
  | text content =>
      cases lists
      intro item member
      obtain ⟨point, _present, rfl⟩ := List.mem_map.mp member
      exact hides_of_atom rfl
  | bytes form content =>
      cases lists
      intro item member
      obtain ⟨byte, _present, rfl⟩ := List.mem_map.mp member
      exact hides_of_atom rfl
  | list items =>
      cases lists
      exact fun item => hides.item rfl
  | tuple items =>
      cases lists
      exact fun item => hides.item rfl
  | set frozen items =>
      cases lists
      exact fun item => hides.item rfl
  | table view entries =>
      cases lists
      intro item member
      obtain ⟨entry, present, rfl⟩ := List.mem_map.mp member
      have within := List.Subset.trans (parts_of_entry present)
        (List.subset_cons_self (.table view entries) _)
      exact hides.of_subset (List.Subset.trans (List.subset_append_left _ _) within)
  | _ => cases lists

/-- Visited values in which a name is hidden: lists and tables with names, in which the
name, and whatever becomes it, stands before the constant only. -/
inductive Hidden (key : Text) (constant : Value) : Value → Prop
  | atom (value : Value) (atom : value.isAtom = true) : Hidden key constant value
  | list (items : List Value) (each : ∀ item ∈ items, Hidden key constant item) :
      Hidden key constant (.list items)
  | table (entries : List (Value × Value))
      (named : ∀ entry ∈ entries, ∃ name, entry.1 = .text name ∧
        (name.pairsJoined = key → entry.2 = constant))
      (each : ∀ entry ∈ entries, Hidden key constant entry.2) :
      Hidden key constant (.table false entries)

end Value

/-! ### Visits -/

/-- A transform that answers one name with a constant, and leaves every other field alone. -/
structure Transform.Redacts (transform : Transform) (key : Text) (constant : Value) : Prop where
  hides : ∀ value, transform.apply key value = .ok constant
  keeps : ∀ name value, name ≠ key → transform.apply name value = .ok value

namespace Fields

open Value

/-- A transform that hides a name behind an atom, and a way of visiting its answers that
does so too, and leaves atoms as they are. -/
structure Conceals (key : Text) (constant : Value) (transform : Transform)
    (descend : Value → Visit Value) : Prop where
  redacts : transform.Redacts key constant
  atom : constant.isAtom = true
  hides : ∀ value, value.Hides key → value.isDirect = true →
    (descend value).Ensures (Hidden key constant)
  keeps : ∀ value, value.isAtom = true → (descend value).Ensures (· = value)

variable {key : Text} {constant : Value} {transform : Transform} {descend : Value → Visit Value}

def HiddenEntries (key : Text) (constant : Value) (entries : List (Value × Value)) : Prop :=
  ∀ entry ∈ entries, (∃ name, entry.1 = .text name ∧
    (name.pairsJoined = key → entry.2 = constant)) ∧ Hidden key constant entry.2

private theorem hidden_table {entries : List (Value × Value)}
    (hidden : HiddenEntries key constant entries) :
    Hidden key constant (.table false (Entries.ofPairs entries)) := by
  have among : ∀ entry ∈ Entries.ofPairs entries, entry ∈ entries := by
    refine Entries.mem_ofPairs_of_texts fun entry member => ?_
    obtain ⟨⟨name, text, _shows⟩, _within⟩ := hidden entry member
    exact ⟨name, text⟩
  exact .table _ (fun entry member => (hidden entry (among entry member)).1)
    fun entry member => (hidden entry (among entry member)).2

private theorem call_hides (conceals : Conceals key constant transform descend)
    {name : Text} {given : Value} (unmixed : name.pairsJoined = key → name = key)
    (hides : given.Hides key) (direct : given.isDirect = true) :
    (Visit.call transform name given).Ensures fun answer =>
      (name.pairsJoined = key → answer = constant) ∧ answer.Hides key ∧
        answer.isDirect = true := by
  refine Visit.Ensures.call fun answer succeeds => ?_
  by_cases same : name = key
  · rw [same, conceals.redacts.hides given] at succeeds
    cases succeeds
    exact ⟨fun _becomes => rfl, hides_of_atom conceals.atom, isDirect_of_atom conceals.atom⟩
  · rw [conceals.redacts.keeps name given same] at succeeds
    cases succeeds
    exact ⟨fun becomes => absurd (unmixed becomes) same, hides, direct⟩

private theorem descend_hides (conceals : Conceals key constant transform descend)
    {name : Text} {answer : Value} (answers : (name.pairsJoined = key → answer = constant) ∧
      answer.Hides key ∧ answer.isDirect = true) :
    (descend answer).Ensures fun visited =>
      (name.pairsJoined = key → visited = constant) ∧ Hidden key constant visited := by
  obtain ⟨shows, hides, direct⟩ := answers
  intro calls later visited succeeds
  refine ⟨fun becomes => ?_, conceals.hides answer hides direct calls later visited succeeds⟩
  have equal := shows becomes
  subst equal
  exact conceals.keeps answer conceals.atom calls later visited succeeds

theorem list_hides {items : List Value} (within : (visitItems transform descend items).Ensures
      fun visited => ∀ item ∈ visited, Hidden key constant item) :
    (do return Value.list (← visitItems transform descend items) : Visit Value).Ensures
      (Hidden key constant) :=
  within.bind fun visited hidden => Visit.Ensures.pure (.list visited hidden)

theorem table_hides {entries : List (Value × Value)}
    (within : (visitEntries transform descend entries).Ensures (HiddenEntries key constant)) :
    (do return Value.table false (Entries.ofPairs (← visitEntries transform descend entries)) :
      Visit Value).Ensures (Hidden key constant) :=
  within.bind fun _visited hidden => Visit.Ensures.pure (hidden_table hidden)

mutual

theorem visit_hides (conceals : Conceals key constant transform descend) (value : Value)
    (hides : value.Hides key) (direct : value.isDirect = true) :
    (visit transform descend value).Ensures (Hidden key constant) := by
  cases value with
  | table view entries =>
      unfold visit
      exact table_hides (visitEntries_hides conceals entries fun entry => hides.entry)
  | list items =>
      unfold visit
      exact list_hides (visitItems_hides conceals items fun item => hides.item rfl)
  | tuple items =>
      unfold visit
      exact list_hides (visitItems_hides conceals items fun item => hides.item rfl)
  | member _ _ _ => cases direct
  | set _ _ => cases direct
  | _ => exact Visit.Ensures.pure (.atom _ rfl)

theorem visitItem_hides (conceals : Conceals key constant transform descend) (item : Value)
    (hides : item.Hides key) :
    (visitItem transform descend item).Ensures (Hidden key constant) := by
  cases item with
  | table view entries =>
      unfold visitItem
      exact table_hides (visitEntries_hides conceals entries fun entry => hides.entry)
  | list items =>
      unfold visitItem
      exact list_hides (visitItems_hides conceals items fun item => hides.item rfl)
  | tuple items =>
      unfold visitItem
      exact list_hides (visitItems_hides conceals items fun item => hides.item rfl)
  | set frozen items =>
      unfold visitItem
      exact list_hides (visitItems_hides conceals items fun item => hides.item rfl)
  | member enumeration name named =>
      unfold visitItem
      exact visit_hides conceals named (hides.of_subset (List.subset_cons_self _ _))
        (hides.members _ List.mem_cons_self)
  | _ => exact Visit.Ensures.ofExcept fun given coerces => .atom given (isAtom_of_plain rfl coerces)

theorem visitItems_hides (conceals : Conceals key constant transform descend)
    (items : List Value) (hides : ∀ item ∈ items, item.Hides key) :
    (visitItems transform descend items).Ensures fun visited =>
      ∀ item ∈ visited, Hidden key constant item := by
  cases items with
  | nil =>
      unfold visitItems
      exact Visit.Ensures.pure fun _item none => nomatch none
  | cons item rest =>
      unfold visitItems
      refine (visitItem_hides conceals item (hides item List.mem_cons_self)).bind fun first hidden => ?_
      refine (visitItems_hides conceals rest fun other member =>
        hides other (List.mem_cons_of_mem _ member)).bind fun later others => ?_
      exact Visit.Ensures.pure (List.forall_mem_cons.mpr ⟨hidden, others⟩)

theorem visitEntries_hides (conceals : Conceals key constant transform descend)
    (entries : List (Value × Value))
    (hides : ∀ entry ∈ entries, entry.2.Hides key ∧
      (entry.1.plainText.pairsJoined = key → entry.1.plainText = key)) :
    (visitEntries transform descend entries).Ensures (HiddenEntries key constant) := by
  cases entries with
  | nil =>
      unfold visitEntries
      exact Visit.Ensures.pure fun _entry none => nomatch none
  | cons entry rest =>
      obtain ⟨name, value⟩ := entry
      obtain ⟨fit, unmixed⟩ := hides _ List.mem_cons_self
      unfold visitEntries
      refine (Visit.Ensures.ofExcept fun text names => names).bind fun text names => ?_
      obtain rfl := Value.plainText_of_writtenText names
      have coerced : (Visit.ofExcept value.plain).Ensures fun given =>
          given.Hides key ∧ given.isDirect = true :=
        Visit.Ensures.ofExcept fun given coerces => fit.plain coerces
      refine coerced.bind fun given ready => ?_
      refine (call_hides conceals unmixed ready.1 ready.2).bind fun answer answers => ?_
      refine (descend_hides conceals answers).bind fun visited shown => ?_
      refine (visitEntries_hides conceals rest fun other member =>
        hides other (List.mem_cons_of_mem _ member)).bind fun later others => ?_
      exact Visit.Ensures.pure
        (List.forall_mem_cons.mpr ⟨⟨⟨_, rfl, shown.1⟩, shown.2⟩, others⟩)

end

private theorem visitWithin_conceals (redacts : transform.Redacts key constant)
    (atom : constant.isAtom = true) (limit : Nat) :
    Conceals key constant transform (visitWithin transform limit) := by
  induction limit with
  | zero =>
      exact ⟨redacts, atom, fun _value _hides _direct => Visit.Ensures.throw _,
        fun _value _atom => Visit.Ensures.throw _⟩
  | succ limit ih =>
      refine ⟨redacts, atom, visit_hides ih, fun value alone => ?_⟩
      rw [visitWithin, visit_of_atom _ alone]
      exact Visit.Ensures.pure rfl

end Fields

/-! ### Written rows -/

namespace Json

private theorem ofValue_hidden {key : Text} {constant : Json} (scalar : constant.IsScalar)
    {value : Value}
    (hidden : Value.Hidden key constant.toValue value) {json : Json}
    (writes : ofValue false value = .ok json) (field : Text × Json) (has : HasField field json)
    (becomes : field.1.pairsJoined = key) : field.2 = constant := by
  -- By induction on the visited value: what is written of an atom has no fields at all.
  induction hidden generalizing json with
  | atom value atom => exact absurd has (ofValue_atom atom writes field)
  | list items each ih =>
      obtain ⟨written, within, rfl⟩ := Failure.bind_pure_ok writes
      cases has with
      | item _ json member inner =>
          obtain ⟨item, among, comes⟩ := ofValues_mem false within json member
          exact ih item among comes inner
  | table entries named each ih =>
      obtain ⟨written, within, rfl⟩ := Failure.bind_pure_ok writes
      cases has with
      | here _ member =>
          obtain ⟨entry, among, names, comes⟩ := ofEntries_mem false within field member
          obtain ⟨name, text, shows⟩ := named entry among
          have same : name = field.1 := by
            rw [text] at names
            exact Except.ok.inj names
          rw [shows (same ▸ becomes)] at comes
          exact scalar.eq_of_ofValue comes
      | within _ outer member inner =>
          obtain ⟨entry, among, names, comes⟩ := ofEntries_mem false within outer member
          exact ih entry among comes inner

end Json

namespace Fields

variable {transform : Transform} {key : Text} {constant : Json} {rows : Value}

private theorem normalized_hides (redacts : transform.Redacts key constant.toValue)
    (scalar : constant.IsScalar) {items : List Value} (hides : ∀ item ∈ items, item.Hides key) :
    (normalized transform items).Ensures fun result => ∀ json ∈ result, ∀ field,
      json.HasField field → field.1 = key → field.2 = constant := by
  unfold normalized
  dsimp only
  have conceals := visitWithin_conceals redacts scalar.isAtom (nestingOfItems items + nestingAllowance)
  refine (visitItems_hides conceals items hides).bind fun visited hidden => ?_
  have written : (Visit.ofExcept (Json.ofValues false visited)).Ensures fun written =>
      ∀ json ∈ written, ∀ field, json.HasField field →
        field.1.pairsJoined = key → field.2 = constant := by
    refine Visit.Ensures.ofExcept fun written writes json member field has becomes => ?_
    obtain ⟨item, among, comes⟩ := Json.ofValues_mem false writes json member
    exact Json.ofValue_hidden scalar (hidden item among) comes field has becomes
  refine written.bind fun written shows => Visit.Ensures.pure fun json member field has named => ?_
  -- A field that is read back has an origin among the written ones, whose name becomes its own.
  obtain ⟨source, among, becomes⟩ := Json.mem_readBackItems json member
  obtain ⟨origin, held, reads⟩ := Json.hasField_of_readBack has source becomes
  rw [reads] at named ⊢
  rw [shows source among origin held named]
  exact scalar.readBack_eq

/-- A hidden field shows the constant, wherever it stands in the rows. -/
theorem normalizedRows_hides (redacts : transform.Redacts key constant.toValue)
    (scalar : constant.IsScalar) (hides : rows.Hides key) {result : List Json}
    (succeeds : (normalizedRows transform rows).outcome.1 = .ok result) (field : Text × Json)
    (has : (Json.list result).HasField field) (named : field.1 = key) : field.2 = constant := by
  have ensures : (normalizedRows transform rows).Ensures fun result => ∀ json ∈ result, ∀ field,
      json.HasField field → field.1 = key → field.2 = constant := by
    have listed : (Visit.ofExcept rows.elements).Ensures fun items =>
        ∀ item ∈ items, item.Hides key :=
      Visit.Ensures.ofExcept fun _items lists => hides.elements lists
    exact listed.bind fun items fit => normalized_hides redacts scalar fit
  cases has with
  | item _ json member inner => exact ensures.outcome succeeds json member field inner named

/-- A transform that answers one name with a text. -/
def masking (key mask : Text) : Transform :=
  ⟨false, fun name value => .ok (if name = key then .text mask else value)⟩

theorem masking_redacts (key mask : Text) :
    (masking key mask).Redacts key (Json.text mask).toValue where
  hides _value := by
    unfold masking
    dsimp only
    rw [if_pos rfl]
    rfl
  keeps name value different := by
    unfold masking
    dsimp only
    rw [if_neg different]

/-- A card in a tuple, and one that a member of a set stands for. -/
def cards : Value :=
  let card : Value := .table false [(.text "owner", .int 7), (.text "pin", .int 1234)]
  .list [.table false [(.text "cards", .tuple [card]),
    (.text "blocked", .set true [.member "Card" "LOST" card])]]

def maskedCards : List Json :=
  let card : Json := .object [("owner", .int 7), ("pin", .text "***")]
  [.object [("cards", .list [card]), ("blocked", .list [card])]]

theorem cards_masked :
    (normalizedRows (masking "pin" "***") cards).outcome.1 = .ok maskedCards ∧
      ∀ field, (Json.list maskedCards).HasField field → field.1 = "pin" →
        field.2 = .text "***" := by
  have succeeds : (normalizedRows (masking "pin" "***") cards).outcome.1 = .ok maskedCards := rfl
  have fit : cards.Hides "pin" := ⟨by decide, by decide⟩
  have redacts := masking_redacts "pin" "***"
  exact ⟨succeeds, normalizedRows_hides redacts (.text _ (by decide)) fit succeeds⟩

/-- The two halves of the character U+10000. -/
def halves : Text := [.surrogate ⟨0, by decide⟩, .surrogate ⟨0x400, by decide⟩]

def whole : Text := [.char '𐀀']

def oneField (name : Text) : Value :=
  .list [.table false [(.text name, .text "secret")]]

theorem oneField_namesDirectly (name : Text) : (oneField name).NamesDirectly := by
  have parts : (oneField name).parts = [oneField name, .table false [(.text name, .text "secret")],
      .text name, .text "secret"] := rfl
  unfold Value.NamesDirectly
  rw [parts]
  simp only [List.forall_mem_cons]
  exact ⟨rfl, rfl, rfl, rfl, fun _part none => nomatch none⟩

/-- What stands under the halves of a hidden character comes out under that character; and a
mask of two halves comes out as the character, too. -/
theorem halves_not_hidden :
    (masking whole "***").Redacts whole (Json.text "***").toValue ∧
      (oneField halves).NamesDirectly ∧
      (∃ result field, (normalizedRows (masking whole "***") (oneField halves)).outcome.1 =
        .ok result ∧ (Json.list result).HasField field ∧ field.1 = whole ∧
          field.2 ≠ .text "***") ∧
    (masking "pin" halves).Redacts "pin" (Json.text halves).toValue ∧
      (oneField "pin").NamesDirectly ∧
      ∃ result field, (normalizedRows (masking "pin" halves) (oneField "pin")).outcome.1 =
        .ok result ∧ (Json.list result).HasField field ∧ field.1 = "pin" ∧
          field.2 ≠ .text halves := by
  have among (name mask : Text) :
      (Json.list [.object [(name, .text mask)]]).HasField (name, .text mask) :=
    .item _ _ List.mem_cons_self (.here _ List.mem_cons_self)
  have shown : (normalizedRows (masking whole "***") (oneField halves)).outcome.1 =
      .ok [.object [(whole, .text "secret")]] := rfl
  have masked : (normalizedRows (masking "pin" halves) (oneField "pin")).outcome.1 =
      .ok [.object [("pin", .text whole)]] := rfl
  refine ⟨masking_redacts _ _, oneField_namesDirectly _, ⟨_, _, shown, among _ _, rfl, ?_⟩,
    masking_redacts _ _, oneField_namesDirectly _, _, _, masked, among _ _, rfl, ?_⟩
  · intro same
    have texts := Json.text.inj same
    revert texts
    decide
  · intro same
    have texts := Json.text.inj same
    revert texts
    decide

end Fields
end PooledQuery
