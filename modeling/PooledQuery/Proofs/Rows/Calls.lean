/-
Calls of a transform.

A visit first meets the outer entries of a value, those that lie within no other entry.
Each is given to the transform after one step of coercion, and then the visit meets the
outer entries of the answer.  So the calls recount the outer entries one after the other,
each followed by what its answer makes the visit recount.

Two properties are read off from this.  The transform is given a value that coercion could
still change exactly where a field holds a member of an enumeration that names one.  And a
transform that keeps every field is called once for every entry, at any depth and in order,
unless a member names a set or another member.
-/
import Mathlib.Data.List.Forall2
import PooledQuery.Proofs.Rows.Parts

namespace PooledQuery

/-! ### Outer entries -/

namespace Value

mutual

def outerEntries : Value → List (Value × Value)
  | .table _ entries => entries
  | .list items => outerEntriesOfItems items
  | .tuple items => outerEntriesOfItems items
  | .set _ items => outerEntriesOfItems items
  | .member _ _ named => if named.isDirect then named.outerEntries else []
  | _ => []

def outerEntriesOfItems : List Value → List (Value × Value)
  | [] => []
  | item :: rest => item.outerEntries ++ outerEntriesOfItems rest

end

def answeredEntries (answer : Value) : List (Value × Value) :=
  if answer.isDirect then answer.outerEntries else []

/-- The outer entries of the rows in a value. -/
def rowEntries (rows : Value) : List (Value × Value) :=
  match rows.elements? with
  | some items => outerEntriesOfItems items
  | none => []

theorem rowEntries_of_elements {rows : Value} {items : List Value}
    (lists : rows.elements = .ok items) : rows.rowEntries = outerEntriesOfItems items := by
  unfold elements at lists
  unfold rowEntries
  cases among : rows.elements? with
  | none =>
      rw [among] at lists
      cases lists
  | some others =>
      rw [among] at lists
      cases lists
      rfl

end Value

namespace Fields

variable {transform : Transform} {descend : Value → Visit Value}

/-- The calls for these entries, one after the other: each entry is given to the transform,
and then the entries that its answer shows.  Calls that are not complete may end anywhere. -/
inductive Recounts (transform : Transform) : List (Value × Value) → Bool → List FieldCall → Prop
  | nil : Recounts transform [] true []
  | cut (entries : List (Value × Value)) : Recounts transform entries false []
  | refused {key value given : Value} {rest : List (Value × Value)}
      (coerces : value.plain = .ok given) :
      Recounts transform ((key, value) :: rest) false [(key.plainText, given)]
  | within {key value given answer : Value} {rest : List (Value × Value)} {made : List FieldCall}
      (coerces : value.plain = .ok given)
      (answers : transform.apply key.plainText given = .ok answer)
      (inner : Recounts transform answer.answeredEntries false made) :
      Recounts transform ((key, value) :: rest) false ((key.plainText, given) :: made)
  | further {key value given answer : Value} {rest : List (Value × Value)} {complete : Bool}
      {made later : List FieldCall} (coerces : value.plain = .ok given)
      (answers : transform.apply key.plainText given = .ok answer)
      (inner : Recounts transform answer.answeredEntries true made)
      (follows : Recounts transform rest complete later) :
      Recounts transform ((key, value) :: rest) complete
        ((key.plainText, given) :: (made ++ later))

namespace Recounts

private theorem append_of_cut {entries : List (Value × Value)} {made : List FieldCall}
    (recounts : Recounts transform entries false made) (others : List (Value × Value)) :
    Recounts transform (entries ++ others) false made := by
  generalize ended : false = complete at recounts
  induction recounts with
  | nil => cases ended
  | cut entries => exact .cut _
  | refused coerces => exact .refused coerces
  | within coerces answers inner _ih => exact .within coerces answers inner
  | further coerces answers inner _follows _ih ih =>
      subst ended
      exact .further coerces answers inner (ih rfl)

theorem append {entries others : List (Value × Value)} {made later : List FieldCall}
    {complete : Bool} (recounts : Recounts transform entries true made)
    (follows : Recounts transform others complete later) :
    Recounts transform (entries ++ others) complete (made ++ later) := by
  generalize ended : true = whole at recounts
  induction recounts with
  | nil => exact follows
  | cut entries => cases ended
  | refused coerces => cases ended
  | within coerces answers inner _ih => cases ended
  | further coerces answers inner _follows _ih ih =>
      subst ended
      simp only [List.cons_append, List.append_assoc]
      exact .further coerces answers inner (ih rfl)

private theorem loosen {entries : List (Value × Value)} {made : List FieldCall}
    (recounts : Recounts transform entries true made) :
    Recounts transform entries false made := by
  generalize ended : true = complete at recounts
  induction recounts with
  | nil => exact .cut []
  | cut entries => cases ended
  | refused coerces => cases ended
  | within coerces answers inner _ih => cases ended
  | further coerces answers inner _follows _ih ih => exact .further coerces answers inner (ih ended)

end Recounts

def Follows (transform : Transform) (descend : Value → Visit Value) : Prop :=
  ∀ answer, (descend answer).Traces fun outcome made =>
    Recounts transform answer.answeredEntries outcome.isOk made

mutual

theorem visit_recounts (follows : Follows transform descend) (value : Value) :
    (visit transform descend value).Traces fun outcome made =>
      Recounts transform value.answeredEntries outcome.isOk made := by
  cases value with
  | table view entries =>
      unfold visit
      exact (visitEntries_recounts follows entries).returning _
  | list items =>
      unfold visit
      exact (visitItems_recounts follows items).returning _
  | tuple items =>
      unfold visit
      exact (visitItems_recounts follows items).returning _
  | _ => exact Visit.Traces.pure .nil

theorem visitItem_recounts (follows : Follows transform descend) (item : Value) :
    (visitItem transform descend item).Traces fun outcome made =>
      Recounts transform item.outerEntries outcome.isOk made := by
  cases item with
  | table view entries =>
      unfold visitItem
      exact (visitEntries_recounts follows entries).returning _
  | list items =>
      unfold visitItem
      exact (visitItems_recounts follows items).returning _
  | tuple items =>
      unfold visitItem
      exact (visitItems_recounts follows items).returning _
  | set frozen items =>
      unfold visitItem
      exact (visitItems_recounts follows items).returning _
  | member enumeration name named =>
      unfold visitItem
      exact visit_recounts follows named
  | _ =>
      refine Visit.Traces.ofExcept ?_
      cases (Value.plain _) with
      | ok given => exact .nil
      | error failure => exact .cut _

theorem visitItems_recounts (follows : Follows transform descend) (items : List Value) :
    (visitItems transform descend items).Traces fun outcome made =>
      Recounts transform (Value.outerEntriesOfItems items) outcome.isOk made := by
  cases items with
  | nil => exact Visit.Traces.pure .nil
  | cons item rest =>
      unfold visitItems
      refine (visitItem_recounts follows item).bind (fun _failure _made recounts =>
        recounts.append_of_cut _) fun first made recounts => ?_
      refine ((visitItems_recounts follows rest).returning (first :: ·)).mono ?_
      exact fun _outcome _later others => recounts.append others

theorem visitEntries_recounts (follows : Follows transform descend)
    (entries : List (Value × Value)) :
    (visitEntries transform descend entries).Traces fun outcome made =>
      Recounts transform entries outcome.isOk made := by
  cases entries with
  | nil => exact Visit.Traces.pure .nil
  | cons entry rest =>
      obtain ⟨key, value⟩ := entry
      unfold visitEntries
      have named : (Visit.ofExcept key.writtenText).Traces fun outcome made =>
          outcome = key.writtenText ∧ made = [] := Visit.Traces.ofExcept ⟨rfl, rfl⟩
      refine named.bind ?_ ?_
      · rintro failure _ ⟨-, rfl⟩
        exact .cut _
      rintro name _ ⟨names, rfl⟩
      obtain rfl := Value.plainText_of_writtenText names.symm
      have coerced : (Visit.ofExcept value.plain).Traces fun outcome made =>
          outcome = value.plain ∧ made = [] := Visit.Traces.ofExcept ⟨rfl, rfl⟩
      refine coerced.bind ?_ ?_
      · rintro failure _ ⟨-, rfl⟩
        exact .cut _
      rintro given _ ⟨coerces, rfl⟩
      have called : (Visit.call transform key.plainText given).Traces fun outcome made =>
          outcome = transform.apply key.plainText given ∧ made = [(key.plainText, given)] :=
        Visit.Traces.call ⟨rfl, rfl⟩
      refine called.bind (fun _failure _made stopped => stopped.2 ▸ .refused coerces.symm) ?_
      rintro answer _ ⟨answers, rfl⟩
      refine (follows answer).bind (fun _failure _made inner =>
        .within coerces.symm answers.symm inner) fun visited made inner => ?_
      refine ((visitEntries_recounts follows rest).returning ((.text key.plainText, visited) :: ·)).mono ?_
      intro outcome later others
      change Recounts transform _ outcome.isOk ((key.plainText, given) :: (made ++ later))
      exact .further coerces.symm answers.symm inner others

end

private theorem visitWithin_follows (limit : Nat) :
    Follows transform (visitWithin transform limit) := by
  induction limit with
  | zero => exact fun _answer => Visit.Traces.throw (.cut _)
  | succ limit ih => exact visit_recounts ih

theorem normalizedRows_recounts (transform : Transform) (rows : Value) :
    (normalizedRows transform rows).Traces fun outcome made =>
      Recounts transform rows.rowEntries outcome.isOk made := by
  unfold normalizedRows Value.rowEntries Value.elements
  cases rows.elements? with
  | none => exact Visit.Traces.ofExcept (.cut [])
  | some items =>
      -- The rows are written after all calls have been made.
      change (normalized transform items).Traces _
      unfold normalized
      refine (visitItems_recounts (visitWithin_follows _) items).bind
        (fun _failure _made recounts => recounts) fun visited made recounts => ?_
      cases Json.ofValues false visited with
      | ok written =>
          refine Visit.Traces.pure ?_
          rw [List.append_nil]
          exact recounts
      | error failure =>
          refine Visit.Traces.throw ?_
          rw [List.append_nil]
          exact recounts.loosen

/-! ### Fields that are reached -/

/-- The fields that are given to the transform when these entries are: an entry itself, or
one that an answer shows. -/
inductive Reaches (transform : Transform) (name : Text) (value : Value) :
    List (Value × Value) → Prop
  | here {entries : List (Value × Value)} {key : Value} (member : (key, value) ∈ entries)
      (named : key.plainText = name) : Reaches transform name value entries
  | answered {entries : List (Value × Value)} {key outer given answer : Value}
      (member : (key, outer) ∈ entries) (coerces : outer.plain = .ok given)
      (answers : transform.apply key.plainText given = .ok answer)
      (inner : Reaches transform name value answer.answeredEntries) :
      Reaches transform name value entries

theorem Reaches.mono {name : Text} {value : Value} {entries others : List (Value × Value)}
    (reaches : Reaches transform name value entries) (subset : entries ⊆ others) :
    Reaches transform name value others := by
  cases reaches with
  | here member named => exact .here (subset member) named
  | answered member coerces answers inner => exact .answered (subset member) coerces answers inner

theorem Recounts.reaches {entries : List (Value × Value)} {complete : Bool}
    {made : List FieldCall} (recounts : Recounts transform entries complete made) :
    ∀ call ∈ made, ∃ value, Reaches transform call.1 value entries ∧
      value.plain = .ok call.2 := by
  induction recounts with
  | nil => exact fun _call none => nomatch none
  | cut entries => exact fun _call none => nomatch none
  | refused coerces =>
      intro call member
      rw [List.mem_singleton.mp member]
      exact ⟨_, .here List.mem_cons_self rfl, coerces⟩
  | within coerces answers inner ih =>
      intro call member
      rcases List.mem_cons.mp member with rfl | deeper
      · exact ⟨_, .here List.mem_cons_self rfl, coerces⟩
      · obtain ⟨value, reaches, given⟩ := ih call deeper
        exact ⟨value, .answered List.mem_cons_self coerces answers reaches, given⟩
  | further coerces answers inner follows ihInner ihLater =>
      intro call member
      rcases List.mem_cons.mp member with rfl | more
      · exact ⟨_, .here List.mem_cons_self rfl, coerces⟩
      · rcases List.mem_append.mp more with deeper | later
        · obtain ⟨value, reaches, given⟩ := ihInner call deeper
          exact ⟨value, .answered List.mem_cons_self coerces answers reaches, given⟩
        · obtain ⟨value, reaches, given⟩ := ihLater call later
          exact ⟨value, reaches.mono (List.subset_cons_self _ _), given⟩

private theorem Recounts.mem_of_reaches {entries : List (Value × Value)} {made : List FieldCall}
    (recounts : Recounts transform entries true made) {name : Text} {value : Value}
    (reaches : Reaches transform name value entries) :
    ∃ given, value.plain = .ok given ∧ (name, given) ∈ made := by
  generalize ended : true = complete at recounts
  induction recounts with
  | nil =>
      cases reaches with
      | here member _ => cases member
      | answered member _ _ _ => cases member
  | cut entries => cases ended
  | refused coerces => cases ended
  | within coerces answers inner ih => cases ended
  | @further key outer given answer rest complete made later coerces answers _ _ ihInner ihLater =>
      subst ended
      have ofRest (reached : Reaches transform name value rest) :
          ∃ other, value.plain = .ok other ∧
            (name, other) ∈ (key.plainText, given) :: (made ++ later) := by
        obtain ⟨other, gives, member⟩ := ihLater reached rfl
        exact ⟨other, gives, List.mem_cons_of_mem _ (List.mem_append_right _ member)⟩
      cases reaches with
      | here member named =>
          rcases List.mem_cons.mp member with same | among
          · cases same
            exact ⟨given, coerces, named ▸ List.mem_cons_self⟩
          · exact ofRest (.here among named)
      | answered member outerCoerces outerAnswers inner =>
          rcases List.mem_cons.mp member with same | among
          · cases same
            cases Except.ok.inj (coerces.symm.trans outerCoerces)
            cases Except.ok.inj (answers.symm.trans outerAnswers)
            obtain ⟨other, gives, deeper⟩ := ihInner inner rfl
            exact ⟨other, gives, List.mem_cons_of_mem _ (List.mem_append_left _ deeper)⟩
          · exact ofRest (.answered among outerCoerces outerAnswers inner)

end Fields

/-! ### Values that are given uncoerced -/

namespace Value

/-- Whether JSON knows a value only after a step of coercion. -/
def awaitsCoercion : Value → Bool
  | .number (.decimal _) => true
  | .bytes _ _ => true
  | .date _ => true
  | .time _ => true
  | .moment _ _ _ => true
  | .uuid _ => true
  | .member _ _ _ => true
  | .set _ _ => true
  | _ => false

private theorem exists_member_of_plain {value given : Value} (coerces : value.plain = .ok given)
    (awaits : given.awaitsCoercion = true) :
    ∃ enumeration name, value = .member enumeration name given := by
  cases value with
  | member enumeration name named =>
      cases coerces
      exact ⟨enumeration, name, rfl⟩
  | number n => cases n <;> cases coerces <;> cases awaits
  | _ => cases coerces <;> cases awaits

end Value

namespace Fields

/-- A transform is given a value that coercion could still change only where a field holds a
member that names it, and wherever a field holds a member it is given what that names. -/
theorem normalizedRows_gives_uncoerced (transform : Transform) (rows : Value) :
    (∀ call ∈ (normalizedRows transform rows).outcome.2, call.2.awaitsCoercion = true →
      ∃ enumeration member,
        Reaches transform call.1 (.member enumeration member call.2) rows.rowEntries) ∧
    ((normalizedRows transform rows).outcome.1.isOk = true →
      ∀ name enumeration member named,
        Reaches transform name (.member enumeration member named) rows.rowEntries →
          (name, named) ∈ (normalizedRows transform rows).outcome.2) := by
  have recounts := (normalizedRows_recounts transform rows).outcome
  constructor
  · intro call made awaits
    obtain ⟨value, reaches, coerces⟩ := recounts.reaches call made
    obtain ⟨enumeration, member, rfl⟩ := Value.exists_member_of_plain coerces awaits
    exact ⟨enumeration, member, reaches⟩
  · intro succeeds name enumeration member named reaches
    rw [succeeds] at recounts
    obtain ⟨given, coerces, made⟩ := recounts.mem_of_reaches reaches
    cases coerces
    exact made

/-- An invoice that is due in a season, which stands for a day. -/
def invoices : Value :=
  .list [.table false [(.text "due", .member "Season" "SPRING" (.date ⟨2024, 3, 20⟩))]]

theorem invoices_give_uncoerced :
    (("due", .date ⟨2024, 3, 20⟩) : FieldCall) ∈ (normalizedRows Transform.identity invoices).outcome.2 := by
  have reaches : Reaches Transform.identity "due"
      (.member "Season" "SPRING" (.date ⟨2024, 3, 20⟩)) invoices.rowEntries :=
    .here List.mem_cons_self rfl
  exact (normalizedRows_gives_uncoerced Transform.identity invoices).2 rfl _ _ _ _ reaches

/-- What the transform sees is not always coerced. -/
theorem invoices_not_coerced :
    ¬ ∀ call ∈ (normalizedRows Transform.identity invoices).outcome.2,
      call.2.awaitsCoercion = false := by
  intro coerced
  have calls : (normalizedRows Transform.identity invoices).outcome.2 =
      ([("due", .date ⟨2024, 3, 20⟩)] : List FieldCall) := rfl
  rw [calls] at coerced
  exact Bool.noConfusion (coerced _ List.mem_cons_self)

end Fields

/-! ### Entries that are visited -/

namespace Value

mutual

def entriesWithin : Value → List (Value × Value)
  | .table _ entries => entriesWithinEntries entries
  | .list items => entriesWithinItems items
  | .tuple items => entriesWithinItems items
  | .set _ items => entriesWithinItems items
  | .member _ _ named => named.entriesWithin
  | _ => []

def entriesWithinItems : List Value → List (Value × Value)
  | [] => []
  | item :: rest => item.entriesWithin ++ entriesWithinItems rest

def entriesWithinEntries : List (Value × Value) → List (Value × Value)
  | [] => []
  | (key, value) :: rest => (key, value) :: (value.entriesWithin ++ entriesWithinEntries rest)

end

/-- The call of a transform for an entry: its key as a text, and its value after one step of
coercion. -/
def IsCalled (entry : Value × Value) (call : FieldCall) : Prop :=
  call.1 = entry.1.plainText ∧ entry.2.plain = .ok call.2

private theorem entriesWithinEntries_append (entries others : List (Value × Value)) :
    entriesWithinEntries (entries ++ others) =
      entriesWithinEntries entries ++ entriesWithinEntries others := by
  induction entries with
  | nil => rfl
  | cons entry rest ih =>
      obtain ⟨key, value⟩ := entry
      rw [List.cons_append, entriesWithinEntries, entriesWithinEntries, ih, List.cons_append,
        List.append_assoc]

private theorem entriesWithin_of_plain {value given : Value} (coerces : value.plain = .ok given) :
    given.entriesWithin = value.entriesWithin := by
  cases value with
  | number n => cases n <;> cases coerces <;> rfl
  | _ => cases coerces <;> rfl

mutual

theorem entriesWithin_outerEntries (value : Value) (direct : value.NamesDirectly) :
    entriesWithinEntries value.outerEntries = value.entriesWithin := by
  cases value with
  | table view entries => rfl
  | list items => exact entriesWithin_outerEntriesOfItems items fun item => direct.item rfl
  | tuple items => exact entriesWithin_outerEntriesOfItems items fun item => direct.item rfl
  | set frozen items =>
      exact entriesWithin_outerEntriesOfItems items fun item => direct.item rfl
  | member enumeration name named =>
      rw [outerEntries, if_pos direct.named.2, entriesWithin]
      exact entriesWithin_outerEntries named direct.named.1
  | _ => rfl

theorem entriesWithin_outerEntriesOfItems (items : List Value)
    (direct : ∀ item ∈ items, item.NamesDirectly) :
    entriesWithinEntries (outerEntriesOfItems items) = entriesWithinItems items := by
  cases items with
  | nil => rfl
  | cons item rest =>
      rw [outerEntriesOfItems, entriesWithinEntries_append, entriesWithinItems,
        entriesWithin_outerEntries item (direct item List.mem_cons_self),
        entriesWithin_outerEntriesOfItems rest fun other member =>
          direct other (List.mem_cons_of_mem _ member)]

end

mutual

theorem NamesDirectly.outerEntries (value : Value) (direct : value.NamesDirectly) :
    ∀ entry ∈ value.outerEntries, entry.2.NamesDirectly := by
  cases value with
  | table view entries => exact fun entry member => (direct.entry member).2
  | list items => exact outerEntriesOfItems items fun item => direct.item rfl
  | tuple items => exact outerEntriesOfItems items fun item => direct.item rfl
  | set frozen items => exact outerEntriesOfItems items fun item => direct.item rfl
  | member enumeration name named =>
      rw [Value.outerEntries, if_pos direct.named.2]
      exact NamesDirectly.outerEntries named direct.named.1
  | _ => exact fun _entry none => nomatch none

theorem NamesDirectly.outerEntriesOfItems (items : List Value)
    (direct : ∀ item ∈ items, item.NamesDirectly) :
    ∀ entry ∈ Value.outerEntriesOfItems items, entry.2.NamesDirectly := by
  cases items with
  | nil => exact fun _entry none => nomatch none
  | cons item rest =>
      intro entry member
      rw [Value.outerEntriesOfItems] at member
      rcases List.mem_append.mp member with first | later
      · exact NamesDirectly.outerEntries item (direct item List.mem_cons_self) entry first
      · exact NamesDirectly.outerEntriesOfItems rest
          (fun other among => direct other (List.mem_cons_of_mem _ among)) entry later

end

end Value

namespace Fields

open Value

private theorem Recounts.visits_each {transform : Transform} (keeps : transform.Keeps)
    {entries : List (Value × Value)} {made : List FieldCall}
    (recounts : Recounts transform entries true made)
    (direct : ∀ entry ∈ entries, entry.2.NamesDirectly) :
    List.Forall₂ IsCalled (entriesWithinEntries entries) made := by
  generalize ended : true = complete at recounts
  induction recounts with
  | nil => exact .nil
  | cut entries => cases ended
  | refused coerces => cases ended
  | within coerces answers inner ih => cases ended
  | @further key value given answer rest complete made later coerces answers _ _ ihInner ihLater =>
      subst ended
      cases Except.ok.inj ((keeps _ _).symm.trans answers)
      have ready := (direct _ List.mem_cons_self).plain coerces
      have shown : given.answeredEntries = given.outerEntries := if_pos ready.2
      rw [shown, entriesWithin_outerEntries given ready.1, entriesWithin_of_plain coerces]
        at ihInner
      rw [entriesWithinEntries]
      refine .cons ⟨rfl, coerces⟩ (List.rel_append (ihInner ?_ rfl) (ihLater ?_ rfl))
      · exact NamesDirectly.outerEntries given ready.1
      · exact fun entry member => direct entry (List.mem_cons_of_mem _ member)

/-- A transform that keeps every field is called once for every entry within the rows, in
order and with the entry before those within its value. -/
theorem normalizedRows_visits_each {transform : Transform} (keeps : transform.Keeps)
    {rows : Value} (direct : rows.NamesDirectly) {items : List Value}
    (lists : rows.elements = .ok items) {result : List Json}
    (succeeds : (normalizedRows transform rows).outcome.1 = .ok result) :
    List.Forall₂ IsCalled (entriesWithinItems items) (normalizedRows transform rows).outcome.2 := by
  have recounts := (normalizedRows_recounts transform rows).outcome
  rw [rowEntries_of_elements lists, succeeds] at recounts
  have each := direct.elements lists
  rw [← entriesWithin_outerEntriesOfItems items each]
  exact recounts.visits_each keeps (NamesDirectly.outerEntriesOfItems items each)

/-- An order of a book on a shelf, which stands for a table, and of a pair in a set. -/
def orders : List Value :=
  let book : Value := .table true [(.text "printed", .date ⟨2024, 3, 20⟩)]
  let pair : Value := .tuple [.table false [(.text "sum", .int 3)], .text "pair"]
  [.table false [(.int 7, .member "Shelf" "TOP" book), (.null, .set false [pair])]]

def writtenOrders : List Json :=
  let book : Json := .object [("printed", .text "2024-03-20")]
  let pair : Json := .list [.object [("sum", .int 3)], .text "pair"]
  [.object [("7", book), ("None", .list [pair])]]

theorem orders_visited_each :
    (normalizedRows Transform.identity (.list orders)).outcome.1 = .ok writtenOrders ∧
      List.Forall₂ IsCalled (entriesWithinItems orders)
        (normalizedRows Transform.identity (.list orders)).outcome.2 := by
  have succeeds : (normalizedRows Transform.identity (.list orders)).outcome.1 =
      .ok writtenOrders := rfl
  have direct : (Value.list orders).NamesDirectly := by
    unfold NamesDirectly
    decide
  exact ⟨succeeds, normalizedRows_visits_each Transform.identity_keeps direct rfl succeeds⟩

end Fields
end PooledQuery
