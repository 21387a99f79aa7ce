/-
Transforms that put texts in the place of fields.

A text can always be written as JSON, and there is nothing within it to visit.  So rows that
can be normalized when every field is kept can be so when some of the fields become texts.
-/
import PooledQuery.Proofs.Rows.Total

namespace PooledQuery

variable {α β γ δ : Type}

/-- A transform that keeps a field or puts a text in its place. -/
def Transform.Masks (transform : Transform) : Prop :=
  ∀ name value, transform.apply name value = .ok value ∨
    ∃ content, transform.apply name value = .ok (.text content)

/-- Where the first visit succeeds, so does the second one, with a related result. -/
def Visit.Carries (relates : α → β → Prop) (visit : Visit α) (other : Visit β) : Prop :=
  ∀ calls callsToo later result, visit.run.run calls = (.ok result, later) →
    ∃ laterToo last, other.run.run callsToo = (.ok last, laterToo) ∧ relates result last

namespace Visit.Carries

variable {relates : α → β → Prop} {reached : γ → δ → Prop}

theorem pure {result : α} {last : β} (related : relates result last) :
    Carries relates (Pure.pure result) (Pure.pure last) := by
  intro calls callsToo later other succeeds
  cases succeeds
  exact ⟨callsToo, last, rfl, related⟩

theorem throw (failure : Failure) (other : Visit β) :
    Carries relates (MonadExcept.throw failure) other := by
  intro calls callsToo later result succeeds
  cases succeeds

theorem ofExcept {outcome : Except Failure α} {other : Except Failure β}
    (carries : ∀ result, outcome = .ok result → ∃ last, other = .ok last ∧ relates result last) :
    Carries relates (Visit.ofExcept outcome) (Visit.ofExcept other) := by
  intro calls callsToo later result succeeds
  cases succeeds
  obtain ⟨last, rfl, related⟩ := carries result rfl
  exact ⟨callsToo, last, rfl, related⟩

theorem bind {visit : Visit α} {other : Visit β} {next : α → Visit γ} {nextToo : β → Visit δ}
    (carries : Carries relates visit other)
    (follows : ∀ result last, relates result last →
      Carries reached (next result) (nextToo last)) :
    Carries reached (visit >>= next) (other >>= nextToo) := by
  intro calls callsToo later result succeeds
  cases ran : visit.run.run calls with
  | mk outcome middle =>
      cases outcome with
      | error failure =>
          rw [run_bind_of_error visit next calls middle failure ran] at succeeds
          cases succeeds
      | ok first =>
          rw [run_bind_of_ok visit next calls middle first ran] at succeeds
          obtain ⟨middleToo, firstToo, ranToo, related⟩ := carries _ callsToo _ first ran
          rw [run_bind_of_ok other nextToo callsToo middleToo firstToo ranToo]
          exact follows first firstToo related _ _ _ _ succeeds

theorem call {transform other : Transform} {name : Text} {value : Value}
    {relates : Value → Value → Prop}
    (carries : ∀ answer, transform.apply name value = .ok answer →
      ∃ last, other.apply name value = .ok last ∧ relates answer last) :
    Carries relates (Visit.call transform name value) (Visit.call other name value) := by
  have records : Carries (fun _done _other => True)
      (modify fun calls => (name, value) :: calls : Visit Unit)
      (modify fun calls => (name, value) :: calls) := by
    intro calls callsToo later result _succeeds
    exact ⟨_, (), rfl, trivial⟩
  exact records.bind fun _done _other _true => ofExcept carries

theorem outcome {visit : Visit α} {other : Visit β} (carries : Carries relates visit other)
    {result : α} (succeeds : visit.outcome.1 = .ok result) :
    ∃ last, other.outcome.1 = .ok last ∧ relates result last := by
  unfold Visit.outcome at succeeds ⊢
  cases ran : visit.run.run [] with
  | mk first later =>
      rw [ran] at succeeds
      dsimp only at succeeds
      subst succeeds
      obtain ⟨laterToo, last, ranToo, related⟩ := carries [] [] later result ran
      exact ⟨last, by rw [ranToo], related⟩

end Visit.Carries

/-! ### Writing -/

/-- The value can be written as JSON. -/
def Value.Writes (value : Value) : Prop :=
  ∃ json, Json.ofValue false value = .ok json

namespace Json

theorem ofValues_ok_iff {items : List Value} :
    (∃ written, ofValues false items = .ok written) ↔ ∀ item ∈ items, item.Writes := by
  induction items with
  | nil => exact ⟨fun _written => List.forall_mem_nil _, fun _each => ⟨[], rfl⟩⟩
  | cons item rest ih =>
      rw [List.forall_mem_cons, ← ih]
      constructor
      · rintro ⟨written, writes⟩
        obtain ⟨first, starts, follows⟩ := Failure.bind_ok writes
        obtain ⟨others, ends, _⟩ := Failure.bind_pure_ok follows
        exact ⟨⟨first, starts⟩, others, ends⟩
      · rintro ⟨⟨first, starts⟩, others, ends⟩
        refine ⟨first :: others, ?_⟩
        rw [ofValues, starts, Failure.ok_bind, ends]
        rfl

private theorem ofEntries_ok_iff {entries : Entries} (texts : entries.HaveNames) :
    (∃ written, ofEntries false entries = .ok written) ↔ ∀ entry ∈ entries, entry.2.Writes := by
  induction entries with
  | nil => exact ⟨fun _written => List.forall_mem_nil _, fun _each => ⟨[], rfl⟩⟩
  | cons entry rest ih =>
      obtain ⟨⟨name, value, rfl⟩, others⟩ := texts.of_cons
      rw [List.forall_mem_cons, ← ih others]
      constructor
      · rintro ⟨written, writes⟩
        obtain ⟨key, _named, valued⟩ := Failure.bind_ok writes
        obtain ⟨json, comes, follows⟩ := Failure.bind_ok valued
        obtain ⟨later, ends, _⟩ := Failure.bind_pure_ok follows
        exact ⟨⟨json, comes⟩, later, ends⟩
      · rintro ⟨⟨json, comes⟩, later, ends⟩
        have named : (Value.text name).fieldName = .ok name := rfl
        refine ⟨(name, json) :: later, ?_⟩
        rw [ofEntries, named, Failure.ok_bind, comes, Failure.ok_bind, ends]
        rfl

end Json

namespace Value

private theorem writes_list_iff {items : List Value} :
    (Value.list items).Writes ↔ ∀ item ∈ items, item.Writes := by
  rw [← Json.ofValues_ok_iff]
  constructor
  · rintro ⟨json, writes⟩
    obtain ⟨written, each, _⟩ := Failure.bind_pure_ok writes
    exact ⟨written, each⟩
  · rintro ⟨written, each⟩
    refine ⟨.list written, ?_⟩
    rw [Json.ofValue, each]
    rfl

theorem writes_table_iff {entries : Entries} (texts : entries.HaveNames) :
    (Value.table false entries).Writes ↔ ∀ entry ∈ entries, entry.2.Writes := by
  rw [← Json.ofEntries_ok_iff texts]
  constructor
  · rintro ⟨json, writes⟩
    obtain ⟨written, each, _⟩ := Failure.bind_pure_ok writes
    exact ⟨written, each⟩
  · rintro ⟨written, each⟩
    refine ⟨.object written, ?_⟩
    rw [Json.ofValue, each]
    rfl

end Value

/-- If the first value can be written, so can the second one. -/
def WritesToo (value other : Value) : Prop :=
  value.Writes → other.Writes

/-- Two entries under one name, of which the second can be written if the first can. -/
def EntryWritesToo (entry other : Value × Value) : Prop :=
  (∃ name, entry.1 = .text name ∧ other.1 = .text name) ∧ WritesToo entry.2 other.2

theorem writes_each {items others : List Value} (each : List.Forall₂ WritesToo items others)
    (writes : ∀ item ∈ items, item.Writes) : ∀ other ∈ others, other.Writes := by
  induction each with
  | nil => exact writes
  | cons first _later ih =>
      obtain ⟨starts, follows⟩ := List.forall_mem_cons.mp writes
      exact List.forall_mem_cons.mpr ⟨first starts, ih follows⟩

private theorem writesToo_list {items others : List Value}
    (each : List.Forall₂ WritesToo items others) :
    WritesToo (.list items) (.list others) := by
  intro writes
  rw [Value.writes_list_iff] at writes ⊢
  exact writes_each each writes

namespace Entries

variable {entries others : Entries}

private theorem haveNames_of_entryWritesToo (each : List.Forall₂ EntryWritesToo entries others) :
    HaveNames entries ∧ HaveNames others := by
  induction each with
  | nil => exact ⟨fun _entry none => (nomatch none), fun _entry none => nomatch none⟩
  | cons first _later ih =>
      obtain ⟨⟨name, text, textToo⟩, _⟩ := first
      exact ⟨List.forall_mem_cons.mpr ⟨⟨name, text⟩, ih.1⟩,
        List.forall_mem_cons.mpr ⟨⟨name, textToo⟩, ih.2⟩⟩

private theorem writesEach_of_entryWritesToo (each : List.Forall₂ EntryWritesToo entries others)
    (writes : ∀ entry ∈ entries, entry.2.Writes) : ∀ other ∈ others, other.2.Writes := by
  induction each with
  | nil => exact writes
  | cons first _later ih =>
      obtain ⟨starts, follows⟩ := List.forall_mem_cons.mp writes
      exact List.forall_mem_cons.mpr ⟨first.2 starts, ih follows⟩

private theorem put_entryWritesToo (each : List.Forall₂ EntryWritesToo entries others) (name : Text)
    {value valueToo : Value} (carries : WritesToo value valueToo) :
    List.Forall₂ EntryWritesToo (put entries (.text name) value)
      (put others (.text name) valueToo) := by
  induction each with
  | nil => exact .cons ⟨⟨name, rfl, rfl⟩, carries⟩ .nil
  | @cons entry other rest later first each ih =>
      obtain ⟨key, held⟩ := entry
      obtain ⟨keyToo, heldToo⟩ := other
      obtain ⟨⟨text, rfl, rfl⟩, held⟩ := first
      rw [put_cons_text, put_cons_text]
      split
      · exact .cons ⟨⟨name, rfl, rfl⟩, carries⟩ each
      · exact .cons ⟨⟨text, rfl, rfl⟩, held⟩ ih

private theorem ofPairs_entryWritesToo {pairs pairsToo : Entries}
    (each : List.Forall₂ EntryWritesToo pairs pairsToo) :
    List.Forall₂ EntryWritesToo (ofPairs pairs) (ofPairs pairsToo) := by
  have folds (earlier earlierToo : Entries)
      (start : List.Forall₂ EntryWritesToo earlier earlierToo) :
      List.Forall₂ EntryWritesToo
        (pairs.foldl (fun entries pair => put entries pair.1 pair.2) earlier)
        (pairsToo.foldl (fun entries pair => put entries pair.1 pair.2) earlierToo) := by
    induction each generalizing earlier earlierToo with
    | nil => exact start
    | @cons pair pairToo rest later first each ih =>
        obtain ⟨⟨name, text, textToo⟩, carries⟩ := first
        rw [List.foldl_cons, List.foldl_cons, text, textToo]
        exact ih _ _ (put_entryWritesToo start name carries)
  exact folds [] [] .nil

private theorem writesToo_table {pairs pairsToo : Entries}
    (each : List.Forall₂ EntryWritesToo pairs pairsToo) :
    WritesToo (.table false (ofPairs pairs)) (.table false (ofPairs pairsToo)) := by
  have tables := ofPairs_entryWritesToo each
  obtain ⟨texts, textsToo⟩ := haveNames_of_entryWritesToo tables
  intro writes
  rw [Value.writes_table_iff texts] at writes
  rw [Value.writes_table_iff textsToo]
  exact writesEach_of_entryWritesToo tables writes

end Entries

/-! ### Visits -/

namespace Fields

variable {transform : Transform}

/-- Visiting the same answer, or a text in its place, gives what can be written too. -/
structure Descends (descend descendToo : Value → Visit Value) : Prop where
  kept : ∀ value, (descend value).Carries WritesToo (descendToo value)
  replaced : ∀ value content, (descend value).Carries WritesToo (descendToo (.text content))

theorem list_carries {visits visitsToo : Visit (List Value)}
    (carries : visits.Carries (List.Forall₂ WritesToo) visitsToo) :
    (do return Value.list (← visits) : Visit Value).Carries WritesToo
      (do return Value.list (← visitsToo)) :=
  carries.bind fun _visited _others each => .pure (writesToo_list each)

theorem table_carries {visits visitsToo : Visit (List (Value × Value))}
    (carries : visits.Carries (List.Forall₂ EntryWritesToo) visitsToo) :
    (do return Value.table false (Entries.ofPairs (← visits)) : Visit Value).Carries WritesToo
      (do return Value.table false (Entries.ofPairs (← visitsToo))) :=
  carries.bind fun _pairs _others each => .pure (Entries.writesToo_table each)

variable {descend descendToo : Value → Visit Value}

mutual

theorem visit_carries (masks : transform.Masks) (descends : Descends descend descendToo)
    (value : Value) :
    (visit .identity descend value).Carries WritesToo (visit transform descendToo value) := by
  cases value with
  | table view entries =>
      unfold visit
      exact table_carries (visitEntries_carries masks descends entries)
  | list items =>
      unfold visit
      exact list_carries (visitItems_carries masks descends items)
  | tuple items =>
      unfold visit
      exact list_carries (visitItems_carries masks descends items)
  | _ => exact .pure fun writes => writes

theorem visitItem_carries (masks : transform.Masks) (descends : Descends descend descendToo)
    (item : Value) :
    (visitItem .identity descend item).Carries WritesToo (visitItem transform descendToo item) := by
  cases item with
  | table view entries =>
      unfold visitItem
      exact table_carries (visitEntries_carries masks descends entries)
  | list items =>
      unfold visitItem
      exact list_carries (visitItems_carries masks descends items)
  | tuple items =>
      unfold visitItem
      exact list_carries (visitItems_carries masks descends items)
  | set frozen items =>
      unfold visitItem
      exact list_carries (visitItems_carries masks descends items)
  | member enumeration name named =>
      unfold visitItem
      exact visit_carries masks descends named
  | _ => exact .ofExcept fun result same => ⟨result, same, fun writes => writes⟩

theorem visitItems_carries (masks : transform.Masks) (descends : Descends descend descendToo)
    (items : List Value) :
    (visitItems .identity descend items).Carries (List.Forall₂ WritesToo)
      (visitItems transform descendToo items) := by
  cases items with
  | nil => exact .pure .nil
  | cons item rest =>
      unfold visitItems
      exact (visitItem_carries masks descends item).bind fun first firstToo starts =>
        (visitItems_carries masks descends rest).bind fun others othersToo each =>
          .pure (.cons starts each)

theorem visitEntries_carries (masks : transform.Masks) (descends : Descends descend descendToo)
    (entries : List (Value × Value)) :
    (visitEntries .identity descend entries).Carries (List.Forall₂ EntryWritesToo)
      (visitEntries transform descendToo entries) := by
  cases entries with
  | nil => exact .pure .nil
  | cons entry rest =>
      obtain ⟨key, value⟩ := entry
      have named : (Visit.ofExcept key.writtenText).Carries (fun name same => same = name)
          (Visit.ofExcept key.writtenText) := .ofExcept fun name same => ⟨name, same, rfl⟩
      have coerces : (Visit.ofExcept value.plain).Carries (fun given same => same = given)
          (Visit.ofExcept value.plain) := .ofExcept fun given same => ⟨given, same, rfl⟩
      have answers (name : Text) (given : Value) : (Visit.call .identity name given).Carries
          (fun answer other => other = answer ∨ ∃ content, other = .text content)
          (Visit.call transform name given) := by
        refine .call fun answer kept => ?_
        cases kept
        rcases masks name given with keeps | ⟨content, puts⟩
        · exact ⟨given, keeps, .inl rfl⟩
        · exact ⟨.text content, puts, .inr ⟨content, rfl⟩⟩
      unfold visitEntries
      refine named.bind fun name _name alike => ?_
      subst alike
      refine coerces.bind fun given _given same => ?_
      subst same
      refine (answers _ _).bind fun answer other kept => ?_
      have carries : (descend answer).Carries WritesToo (descendToo other) := by
        rcases kept with rfl | ⟨content, rfl⟩
        · exact descends.kept _
        · exact descends.replaced answer content
      refine carries.bind fun visited visitedToo writes => ?_
      exact (visitEntries_carries masks descends rest).bind fun others othersToo each =>
        .pure (.cons ⟨⟨_, rfl, rfl⟩, writes⟩ each)

end

theorem visitWithin_replaced (limit : Nat) (value : Value) (content : Text) :
    (visitWithin .identity limit value).Carries WritesToo
      (visitWithin transform limit (.text content)) := by
  cases limit with
  | zero => exact .throw _ _
  | succ lower =>
      intro calls callsToo later result _succeeds
      exact ⟨callsToo, .text content, rfl, fun _writes => ⟨.text content, rfl⟩⟩

private theorem visitWithin_descends (masks : transform.Masks) (limit : Nat) :
    Descends (visitWithin .identity limit) (visitWithin transform limit) := by
  refine ⟨fun value => ?_, visitWithin_replaced limit⟩
  induction limit generalizing value with
  | zero => exact .throw _ _
  | succ lower ih => exact visit_carries masks ⟨ih, visitWithin_replaced lower⟩ value

end Fields

theorem Transform.Masks.letsPass {transform : Transform} (masks : transform.Masks) :
    transform.LetsPass := by
  intro tables rows normalizes
  have writes {visited others : List Value} (each : List.Forall₂ WritesToo visited others) :
      (Visit.ofExcept (Json.ofValues false visited)).Carries (fun _written _other => True)
        (Visit.ofExcept (Json.ofValues false others)) := by
    refine .ofExcept fun written writes => ?_
    obtain ⟨other, writesToo⟩ := Json.ofValues_ok_iff.mpr
      (writes_each each (Json.ofValues_ok_iff.mp ⟨written, writes⟩))
    exact ⟨other, writesToo, trivial⟩
  have carries : (Fields.normalized .identity (tables.map (Value.table false))).Carries
      (fun _rows _others => True)
      (Fields.normalized transform (tables.map (Value.table false))) := by
    unfold Fields.normalized
    refine (Fields.visitItems_carries masks (Fields.visitWithin_descends masks _) _).bind
      fun visited others each => ?_
    exact (writes each).bind fun _written _other _true => .pure trivial
  obtain ⟨others, passes, _⟩ := carries.outcome normalizes
  exact ⟨others, passes⟩

end PooledQuery
