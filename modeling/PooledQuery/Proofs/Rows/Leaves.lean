/-
Leaves of rows.

Normalizing with a transform that keeps every field fails only at a leaf that JSON does not
know, or because an integer has too many digits.  The visit of the fields comes to every leaf
and coerces it, unless a member of an enumeration names the leaf: then it is coerced when the
rows are written.  By then every table has one entry for each name, so a named leaf may have
been superseded by a later entry whose key has the same text.  Integers are looked at when the
rows are written, or when the text of a key shows them.
-/
import PooledQuery.Proofs.Rows.Lasting
import PooledQuery.Proofs.Rows.Settling

namespace PooledQuery

/-! ### Leaves -/

namespace Value

/-- The kinds of leaves that JSON knows, or knows after coercion. -/
def isSupported : Value → Bool
  | .null => true
  | .number _ => true
  | .text _ => true
  | .bytes _ _ => true
  | .date _ => true
  | .time _ => true
  | .moment _ _ _ => true
  | .uuid _ => true
  | _ => false

def isStray (value : Value) : Bool :=
  value.isAtom && !value.isSupported

/-- An integer with more digits than it may be written with. -/
def isOverlong : Value → Bool
  | .int n => Number.isOverlong n
  | _ => false

def stray? (value : Value) : Option Failure :=
  if value.isStray then some (.notSerializable value.shortTypeName) else none

def flaw? (value : Value) : Option Failure :=
  if value.isOverlong then some .integerTooLongToWrite else value.stray?

def keyFlaw? (key : Value) : Option Failure :=
  match key.writtenText with
  | .ok _ => none
  | .error failure => some failure

end Value

/-- A leaf as it lies within rows: whether a member of an enumeration names it, and whether it
lies in an entry that is superseded, because a later one of the same table has its name. -/
structure Leaf where
  value : Value
  named : Bool
  superseded : Bool

/-- Normalizing comes to the leaf in order to coerce it: in the visit if it is not named, and
otherwise in writing what the visit left. -/
def Leaf.counts (leaf : Leaf) : Bool :=
  !(leaf.named && leaf.superseded)

namespace Value

mutual

/-- The leaves within a value, which a member may name and which may lie in an entry that is
superseded. -/
def leavesUnder (named superseded : Bool) : Value → List Leaf
  | .table _ entries => leavesOfEntries superseded entries
  | .list items => leavesOfItems superseded items
  | .tuple items => leavesOfItems superseded items
  | .set _ items => leavesOfItems superseded items
  | .member _ _ value => value.leavesUnder true superseded
  | value => [⟨value, named, superseded⟩]

def leavesOfItems (superseded : Bool) : List Value → List Leaf
  | [] => []
  | item :: rest => item.leavesUnder false superseded ++ leavesOfItems superseded rest

def leavesOfEntries (superseded : Bool) : List (Value × Value) → List Leaf
  | [] => []
  | (key, value) :: rest =>
      value.leavesUnder false (superseded || (entryNames rest).contains key.plainText) ++
        leavesOfEntries superseded rest

end

mutual

def keysWithin : Value → List Value
  | .table _ entries => keysOfEntries entries
  | .list items => keysOfItems items
  | .tuple items => keysOfItems items
  | .set _ items => keysOfItems items
  | .member _ _ value => value.keysWithin
  | _ => []

def keysOfItems : List Value → List Value
  | [] => []
  | item :: rest => item.keysWithin ++ keysOfItems rest

def keysOfEntries : List (Value × Value) → List Value
  | [] => []
  | (key, value) :: rest => key :: (value.keysWithin ++ keysOfEntries rest)

end

def flaws (parts : List Value) : List Failure :=
  parts.filterMap flaw?

theorem flaws_append (parts others : List Value) :
    flaws (parts ++ others) = flaws parts ++ flaws others :=
  List.filterMap_append

private theorem filterMap_cons_toList {α β : Type} (f : α → Option β) (item : α)
    (rest : List α) : (item :: rest).filterMap f = (f item).toList ++ rest.filterMap f := by
  rw [List.filterMap_eq_flatMap_toList, List.flatMap_cons, ← List.filterMap_eq_flatMap_toList]

theorem flaws_cons_of_none {part : Value} (sound : part.flaw? = none) (parts : List Value) :
    flaws (part :: parts) = flaws parts :=
  List.filterMap_cons_none sound

theorem flaws_single (value : Value) : flaws [value] = value.flaw?.toList := by
  unfold flaws
  rw [filterMap_cons_toList, List.filterMap_nil, List.append_nil]

end Value

namespace Leaf

def coerced (leaves : List Leaf) : List Value :=
  (leaves.filter fun leaf => !leaf.named).map Leaf.value

/-- The leaves that are still there when the rows are written, coerced or not. -/
def lasting (leaves : List Leaf) : List Value :=
  (leaves.filter fun leaf => !leaf.superseded).map Leaf.value

private theorem coerced_append (leaves others : List Leaf) :
    coerced (leaves ++ others) = coerced leaves ++ coerced others := by
  unfold coerced
  rw [List.filter_append, List.map_append]

theorem lasting_append (leaves others : List Leaf) :
    lasting (leaves ++ others) = lasting leaves ++ lasting others := by
  unfold lasting
  rw [List.filter_append, List.map_append]

private theorem lasting_of_superseded {leaves : List Leaf}
    (superseded : ∀ leaf ∈ leaves, leaf.superseded = true) : lasting leaves = [] := by
  unfold lasting
  rw [List.filter_eq_nil_iff.mpr, List.map_nil]
  intro leaf member
  rw [superseded leaf member]
  exact Bool.false_ne_true

/-- The failures of a visit that comes to these leaves and these keys. -/
def visitFlaws (leaves : List Leaf) (keys : List Value) : List Failure :=
  (coerced leaves).filterMap Value.stray? ++ keys.filterMap Value.keyFlaw?

theorem mem_visitFlaws_append {leaves others : List Leaf} {keys more : List Value}
    (failure : Failure) :
    failure ∈ visitFlaws leaves keys ++ visitFlaws others more ↔
      failure ∈ visitFlaws (leaves ++ others) (keys ++ more) := by
  unfold visitFlaws
  rw [coerced_append, List.filterMap_append, List.filterMap_append]
  simp only [List.mem_append]
  tauto

end Leaf

namespace Value

theorem leavesUnder_of_atom {value : Value} (atom : value.isAtom = true)
    (named superseded : Bool) :
    value.leavesUnder named superseded = [⟨value, named, superseded⟩] := by
  cases value <;> first | rfl | cases atom

theorem keysWithin_of_atom {value : Value} (atom : value.isAtom = true) :
    value.keysWithin = [] := by
  cases value <;> first | rfl | cases atom

theorem leavesUnder_of_not_atom {value : Value} (atom : value.isAtom = false)
    (named other superseded : Bool) :
    value.leavesUnder named superseded = value.leavesUnder other superseded := by
  cases value <;> first | rfl | cases atom

mutual

theorem mem_leavesUnder (named superseded : Bool) (value : Value) :
    ∀ leaf ∈ value.leavesUnder named superseded,
      leaf.value.isAtom = true ∧ (superseded = true → leaf.superseded = true) := by
  cases value with
  | table view entries => exact mem_leavesOfEntries superseded entries
  | list items => exact mem_leavesOfItems superseded items
  | tuple items => exact mem_leavesOfItems superseded items
  | set frozen items => exact mem_leavesOfItems superseded items
  | member enumeration name value => exact mem_leavesUnder true superseded value
  | _ => exact List.forall_mem_singleton.mpr ⟨rfl, id⟩

theorem mem_leavesOfItems (superseded : Bool) (items : List Value) :
    ∀ leaf ∈ leavesOfItems superseded items,
      leaf.value.isAtom = true ∧ (superseded = true → leaf.superseded = true) := by
  cases items with
  | nil => exact List.forall_mem_nil _
  | cons item rest =>
      exact List.forall_mem_append.mpr
        ⟨mem_leavesUnder false superseded item, mem_leavesOfItems superseded rest⟩

theorem mem_leavesOfEntries (superseded : Bool) (entries : List (Value × Value)) :
    ∀ leaf ∈ leavesOfEntries superseded entries,
      leaf.value.isAtom = true ∧ (superseded = true → leaf.superseded = true) := by
  cases entries with
  | nil => exact List.forall_mem_nil _
  | cons entry rest =>
      obtain ⟨key, value⟩ := entry
      refine List.forall_mem_append.mpr ⟨fun leaf member => ?_, mem_leavesOfEntries superseded rest⟩
      have within := mem_leavesUnder false _ value leaf member
      exact ⟨within.1, fun outer => within.2 (by rw [outer, Bool.true_or])⟩

end

end Value

/-! ### Computations that fail at flaws -/

/-- The computation fails exactly if there are flaws, and with the failure of one of them. -/
def DecidedBy {α : Type} (flaws : List Failure) (outcome : Except Failure α) : Prop :=
  (∃ failure ∈ flaws, outcome = .error failure) ∨ (flaws = [] ∧ ∃ result, outcome = .ok result)

namespace DecidedBy

variable {α β : Type} {flaws others : List Failure} {outcome : Except Failure α}

theorem ok (result : α) : DecidedBy [] (Except.ok result) :=
  .inr ⟨rfl, result, rfl⟩

theorem error (failure : Failure) : DecidedBy [failure] (Except.error failure : Except Failure α) :=
  .inl ⟨failure, List.mem_singleton_self failure, rfl⟩

theorem congr (decided : DecidedBy flaws outcome)
    (same : ∀ failure, failure ∈ flaws ↔ failure ∈ others) : DecidedBy others outcome := by
  rcases decided with ⟨failure, member, fails⟩ | ⟨rfl, succeeds⟩
  · exact .inl ⟨failure, (same failure).mp member, fails⟩
  · have none : others = [] :=
      List.eq_nil_iff_forall_not_mem.mpr fun failure member =>
        List.not_mem_nil ((same failure).mpr member)
    exact .inr ⟨none, succeeds⟩

theorem bind {next : α → Except Failure β} (decided : DecidedBy flaws outcome)
    (follows : ∀ result, outcome = .ok result → DecidedBy others (next result)) :
    DecidedBy (flaws ++ others) (outcome >>= next) := by
  rcases decided with ⟨failure, member, rfl⟩ | ⟨rfl, result, rfl⟩
  · exact .inl ⟨failure, List.mem_append_left _ member, rfl⟩
  · exact follows result rfl

theorem returning (decided : DecidedBy flaws outcome) (wrap : α → β) :
    DecidedBy flaws (do return wrap (← outcome)) := by
  rcases decided with ⟨failure, member, rfl⟩ | ⟨none, result, rfl⟩
  · exact .inl ⟨failure, member, rfl⟩
  · exact .inr ⟨none, wrap result, rfl⟩

end DecidedBy

/-! ### The visit -/

namespace Value

private theorem plain_decidedBy {value : Value} (atom : value.isAtom = true) :
    DecidedBy value.stray?.toList value.plain := by
  cases value with
  | member _ _ _ => cases atom
  | list _ => cases atom
  | tuple _ => cases atom
  | set _ _ => cases atom
  | table _ _ => cases atom
  | duration length => exact .error _
  | record attributes => exact .error _
  | blank => exact .error _
  | number n => cases n <;> exact .ok _
  | _ => exact .ok _

private theorem visitFlaws_of_atom {value : Value} (atom : value.isAtom = true)
    (superseded : Bool) :
    Leaf.visitFlaws (value.leavesUnder false superseded) value.keysWithin =
      value.stray?.toList := by
  rw [leavesUnder_of_atom atom, keysWithin_of_atom atom]
  unfold Leaf.visitFlaws
  rw [List.filterMap_nil, List.append_nil]
  change [value].filterMap stray? = _
  rw [filterMap_cons_toList, List.filterMap_nil, List.append_nil]

private theorem writtenText_decidedBy (key : Value) :
    DecidedBy key.keyFlaw?.toList key.writtenText := by
  unfold keyFlaw?
  cases key.writtenText with
  | ok text => exact .ok text
  | error failure => exact .error failure

mutual

/-- The visit of an item fails exactly at a stray leaf that it coerces itself, and at a key
without a text. -/
theorem settled_decidedBy (superseded : Bool) (item : Value) :
    DecidedBy (Leaf.visitFlaws (item.leavesUnder false superseded) item.keysWithin)
      item.settled := by
  cases item with
  | table view entries => exact (settledEntries_decidedBy superseded entries).returning _
  | list items => exact (settledItems_decidedBy superseded items).returning _
  | tuple items => exact (settledItems_decidedBy superseded items).returning _
  | set frozen items => exact (settledItems_decidedBy superseded items).returning _
  | member enumeration name named =>
      rw [leavesUnder, keysWithin, settled]
      cases atom : named.isAtom with
      | true =>
          rw [if_pos rfl, leavesUnder_of_atom atom, keysWithin_of_atom atom]
          exact .ok named
      | false =>
          rw [if_neg Bool.false_ne_true, leavesUnder_of_not_atom atom true false]
          exact settled_decidedBy superseded named
  | _ =>
      rw [visitFlaws_of_atom rfl]
      exact plain_decidedBy rfl

theorem settledItems_decidedBy (superseded : Bool) (items : List Value) :
    DecidedBy (Leaf.visitFlaws (leavesOfItems superseded items) (keysOfItems items))
      (settledItems items) := by
  cases items with
  | nil => exact .ok []
  | cons item rest =>
      have both := (settled_decidedBy superseded item).bind fun first _succeeds =>
        (settledItems_decidedBy superseded rest).returning (first :: ·)
      exact both.congr Leaf.mem_visitFlaws_append

theorem settledEntries_decidedBy (superseded : Bool) (entries : List (Value × Value)) :
    DecidedBy (Leaf.visitFlaws (leavesOfEntries superseded entries) (keysOfEntries entries))
      (settledEntries entries) := by
  cases entries with
  | nil => exact .ok []
  | cons entry rest =>
      obtain ⟨key, value⟩ := entry
      have both (name : Text) := (settled_decidedBy (superseded ||
        (entryNames rest).contains key.plainText) value).bind fun held _succeeds =>
          (settledEntries_decidedBy superseded rest).returning ((.text name, held) :: ·)
      have whole := (writtenText_decidedBy key).bind fun name _succeeds =>
        (both name).congr Leaf.mem_visitFlaws_append
      refine whole.congr fun failure => ?_
      rw [leavesOfEntries, keysOfEntries]
      unfold Leaf.visitFlaws
      rw [filterMap_cons_toList]
      simp only [List.mem_append]
      tauto

end

end Value

/-! ### Writing what the visit left -/

namespace Json

theorem ofValue_decidedBy_atom {value : Value} (atom : value.isAtom = true) :
    DecidedBy (Value.flaws value.parts) (ofValue false value) := by
  rw [Value.parts_of_atom atom, Value.flaws_single]
  cases value with
  | member _ _ _ => cases atom
  | list _ => cases atom
  | tuple _ => cases atom
  | set _ _ => cases atom
  | table _ _ => cases atom
  | duration length => exact .error _
  | record attributes => exact .error _
  | blank => exact .error _
  | number n =>
      cases n with
      | int n =>
          rw [ofValue, Value.flaw?, Value.isOverlong]
          cases Number.isOverlong n with
          | true => exact .error _
          | false => exact .ok _
      | _ => exact .ok _
  | _ => exact .ok _

private theorem ofEntries_decidedBy {entries : Entries} (texts : entries.HaveNames)
    (each : ∀ entry ∈ entries, DecidedBy (Value.flaws entry.2.parts) (ofValue false entry.2)) :
    DecidedBy (Value.flaws (Value.partsOfEntries entries)) (ofEntries false entries) := by
  induction entries with
  | nil => exact .ok []
  | cons entry rest ih =>
      obtain ⟨⟨name, value, rfl⟩, others⟩ := texts.of_cons
      have named : (Value.text name).parts = [.text name] := rfl
      rw [Value.partsOfEntries, named, List.append_assoc, List.singleton_append,
        Value.flaws_cons_of_none rfl, Value.flaws_append]
      exact (each _ List.mem_cons_self).bind fun json _writes =>
        (ih others fun other member => each other (List.mem_cons_of_mem _ member)).returning
          ((name, json) :: ·)

end Json

namespace Value

private theorem mem_flaws_partsOfEntries {entries : Entries} (texts : entries.HaveNames)
    {failure : Failure} :
    failure ∈ flaws (partsOfEntries entries) ↔ ∃ entry ∈ entries, failure ∈ flaws entry.2.parts := by
  induction entries with
  | nil => exact ⟨nofun, fun ⟨_entry, present, _within⟩ => nomatch present⟩
  | cons entry rest ih =>
      obtain ⟨⟨name, value, rfl⟩, others⟩ := texts.of_cons
      have named : (Value.text name).parts = [.text name] := rfl
      rw [partsOfEntries, named, List.append_assoc, List.singleton_append,
        flaws_cons_of_none rfl, flaws_append, List.mem_append, ih others, List.exists_mem_cons_iff]

/-- Writing what the visit left fails exactly at a flaw in it, and the flaws in it are those of
the leaves that last. -/
structure WritesLasting {α : Type} (parts : List Value) (outcome : Except Failure α)
    (leaves : List Leaf) : Prop where
  decided : DecidedBy (flaws parts) outcome
  same : ∀ failure, failure ∈ flaws parts ↔ failure ∈ flaws (Leaf.lasting leaves)

/-- What is left of entries: each value can be written, unless it has a flaw, and the flaws in
the entries that last are those of the leaves that no later entry supersedes. -/
structure Remains (entries : List (Value × Value)) (pairs : Entries) : Prop where
  texts : pairs.HaveNames
  names : entryNames pairs = entryNames entries
  each : ∀ pair ∈ pairs, DecidedBy (flaws pair.2.parts) (Json.ofValue false pair.2)
  same : ∀ failure, (∃ pair ∈ pairs.lasting, failure ∈ flaws pair.2.parts) ↔
    failure ∈ flaws (Leaf.lasting (leavesOfEntries false entries))

namespace Remains

theorem nil : Remains [] [] where
  texts := List.forall_mem_nil _
  names := rfl
  each := List.forall_mem_nil _
  same _failure := ⟨fun ⟨_pair, present, _within⟩ => (List.not_mem_nil present).elim,
    fun present => (List.not_mem_nil present).elim⟩

theorem cons {key value held : Value} {rest : List (Value × Value)} {pairs : Entries}
    (first : WritesLasting held.parts (Json.ofValue false held) (value.leavesUnder false false))
    (later : Remains rest pairs) :
    Remains ((key, value) :: rest) ((.text key.plainText, held) :: pairs) where
  texts := List.forall_mem_cons.mpr ⟨⟨_, rfl⟩, later.texts⟩
  names := congrArg (key.plainText :: ·) later.names
  each := List.forall_mem_cons.mpr ⟨first.decided, later.each⟩
  same failure := by
    have name : (Value.text key.plainText).plainText = key.plainText := rfl
    rw [Entries.lasting, name, later.names, leavesOfEntries, Leaf.lasting_append, flaws_append,
      List.mem_append, ← later.same failure, Bool.false_or]
    by_cases superseded : key.plainText ∈ entryNames rest
    · have gone : Leaf.lasting (value.leavesUnder false true) = [] :=
        Leaf.lasting_of_superseded fun leaf member =>
          (mem_leavesUnder false true value leaf member).2 rfl
      rw [if_pos superseded, List.contains_iff_mem.mpr superseded, gone]
      exact (or_iff_right List.not_mem_nil).symm
    · have lasts : (entryNames rest).contains key.plainText = false :=
        Bool.eq_false_iff.mpr fun contained => superseded (List.contains_iff_mem.mp contained)
      rw [if_neg superseded, lasts, ← first.same failure]
      exact List.exists_mem_cons_iff _ _ _

theorem table {entries : List (Value × Value)} {pairs : Entries} (remains : Remains entries pairs) :
    WritesLasting (Value.table false (Entries.ofPairs pairs)).parts
      (Json.ofValue false (.table false (Entries.ofPairs pairs)))
      (leavesOfEntries false entries) := by
  have same (entry : Value × Value) : entry ∈ Entries.ofPairs pairs ↔ entry ∈ pairs.lasting :=
    Entries.mem_ofPairs_iff remains.texts entry
  have among : ∀ entry ∈ Entries.ofPairs pairs, entry ∈ pairs :=
    Entries.mem_ofPairs_of_texts remains.texts
  have texts : (Entries.ofPairs pairs).HaveNames := fun entry present =>
    remains.texts entry (among entry present)
  have parts : flaws (Value.table false (Entries.ofPairs pairs)).parts =
      flaws (partsOfEntries (Entries.ofPairs pairs)) := flaws_cons_of_none rfl _
  constructor
  · have within := Json.ofEntries_decidedBy texts fun entry present =>
      remains.each entry (among entry present)
    exact parts ▸ within.returning Json.object
  · intro failure
    rw [parts, mem_flaws_partsOfEntries texts, ← remains.same failure]
    exact exists_congr fun entry => and_congr_left fun _within => same entry

end Remains

theorem list_writesLasting {items helds : List Value}
    (each : WritesLasting (partsOfItems helds) (Json.ofValues false helds)
      (leavesOfItems false items)) :
    WritesLasting (Value.list helds).parts (Json.ofValue false (.list helds))
      (leavesOfItems false items) := by
  have parts : flaws (Value.list helds).parts = flaws (partsOfItems helds) :=
    flaws_cons_of_none rfl _
  exact ⟨parts ▸ each.decided.returning Json.list, fun failure => parts ▸ each.same failure⟩

private theorem flaw?_of_plain {value held : Value} (coerces : value.plain = .ok held)
    (atom : value.isAtom = true) : held.flaw? = value.flaw? := by
  cases value with
  | member _ _ _ => cases atom
  | number n => cases n <;> cases coerces <;> rfl
  | _ => cases coerces <;> rfl

private theorem plain_writesLasting {value held : Value} (atom : value.isAtom = true)
    (coerces : value.plain = .ok held) :
    WritesLasting held.parts (Json.ofValue false held) (value.leavesUnder false false) := by
  have kept := isAtom_of_plain atom coerces
  refine ⟨Json.ofValue_decidedBy_atom kept, fun failure => ?_⟩
  rw [parts_of_atom kept, leavesUnder_of_atom atom, flaws_single, flaw?_of_plain coerces atom,
    ← flaws_single]
  rfl

mutual

theorem settled_writesLasting {item held : Value} (settles : item.settled = .ok held) :
    WritesLasting held.parts (Json.ofValue false held) (item.leavesUnder false false) := by
  cases item with
  | table view entries =>
      obtain ⟨pairs, within, rfl⟩ := Failure.bind_pure_ok settles
      exact (settledEntries_remain within).table
  | list items =>
      obtain ⟨helds, within, rfl⟩ := Failure.bind_pure_ok settles
      exact list_writesLasting (settledItems_writesLasting within)
  | tuple items =>
      obtain ⟨helds, within, rfl⟩ := Failure.bind_pure_ok settles
      exact list_writesLasting (settledItems_writesLasting within)
  | set frozen items =>
      obtain ⟨helds, within, rfl⟩ := Failure.bind_pure_ok settles
      exact list_writesLasting (settledItems_writesLasting within)
  | member enumeration name named =>
      rw [settled] at settles
      rw [leavesUnder]
      cases atom : named.isAtom with
      | true =>
          rw [if_pos atom] at settles
          cases settles
          rw [leavesUnder_of_atom atom]
          refine ⟨Json.ofValue_decidedBy_atom atom, fun failure => ?_⟩
          rw [parts_of_atom atom]
          rfl
      | false =>
          rw [if_neg (Bool.eq_false_iff.mp atom)] at settles
          rw [leavesUnder_of_not_atom atom true false]
          exact settled_writesLasting settles
  | _ => exact plain_writesLasting rfl settles

theorem settledItems_writesLasting {items helds : List Value}
    (settles : settledItems items = .ok helds) :
    WritesLasting (partsOfItems helds) (Json.ofValues false helds)
      (leavesOfItems false items) := by
  cases items with
  | nil =>
      cases settles
      exact ⟨.ok [], fun _failure => Iff.rfl⟩
  | cons item rest =>
      obtain ⟨first, starts, follows⟩ := Failure.bind_ok settles
      obtain ⟨others, ends, rfl⟩ := Failure.bind_pure_ok follows
      have here := settled_writesLasting starts
      have later := settledItems_writesLasting ends
      rw [partsOfItems]
      constructor
      · rw [flaws_append]
        exact here.decided.bind fun json _writes => later.decided.returning (json :: ·)
      · intro failure
        rw [leavesOfItems, Leaf.lasting_append, flaws_append, flaws_append, List.mem_append,
          List.mem_append, here.same failure, later.same failure]

theorem settledEntries_remain {entries : List (Value × Value)} {pairs : Entries}
    (settles : settledEntries entries = .ok pairs) : Remains entries pairs := by
  cases entries with
  | nil =>
      cases settles
      exact .nil
  | cons entry rest =>
      obtain ⟨key, value⟩ := entry
      obtain ⟨name, named, valued⟩ := Failure.bind_ok settles
      obtain ⟨held, starts, follows⟩ := Failure.bind_ok valued
      obtain ⟨others, ends, rfl⟩ := Failure.bind_pure_ok follows
      rw [← plainText_of_writtenText named]
      exact .cons (settled_writesLasting starts) (settledEntries_remain ends)

end

end Value

/-! ### Normalized rows -/

namespace Value

theorem stray?_eq_some_iff {value : Value} (atom : value.isAtom = true) {failure : Failure} :
    value.stray? = some failure ↔
      value.isSupported = false ∧ failure = .notSerializable value.shortTypeName := by
  rw [stray?, isStray, atom, Bool.true_and]
  cases value.isSupported with
  | true => exact ⟨nofun, fun both => nomatch both.1⟩
  | false => exact ⟨fun same => ⟨rfl, (Option.some.inj same).symm⟩, fun both => both.2 ▸ rfl⟩

theorem flaw?_eq_some_iff {value : Value} {failure : Failure} :
    value.flaw? = some failure ↔ value.stray? = some failure ∨
      value.isOverlong = true ∧ failure = .integerTooLongToWrite := by
  rw [flaw?]
  cases overlong : value.isOverlong with
  | false => exact ⟨.inl, fun either => either.elim id fun both => nomatch both.1⟩
  | true =>
      have known : value.stray? = none := by
        cases value <;> first | rfl | cases overlong
      rw [known]
      exact ⟨fun same => .inr ⟨rfl, (Option.some.inj same).symm⟩,
        fun either => either.elim nofun fun both => both.2 ▸ rfl⟩

private theorem keyFlaw?_eq_some_iff {key : Value} {failure : Failure} :
    key.keyFlaw? = some failure ↔ key.writtenText = .error failure := by
  rw [keyFlaw?]
  cases key.writtenText with
  | ok text => exact ⟨nofun, nofun⟩
  | error other => exact ⟨fun same => Option.some.inj same ▸ rfl, fun same => Except.error.inj same ▸ rfl⟩

end Value

theorem Leaf.mem_flaws_iff {leaves : List Leaf} {flaw : Value → Option Failure}
    {among : Leaf → Bool} {failure : Failure} :
    failure ∈ ((leaves.filter among).map Leaf.value).filterMap flaw ↔
      ∃ leaf ∈ leaves, among leaf = true ∧ flaw leaf.value = some failure := by
  rw [List.mem_filterMap]
  constructor
  · rintro ⟨value, member, fails⟩
    obtain ⟨leaf, present, rfl⟩ := List.mem_map.mp member
    obtain ⟨inside, holds⟩ := List.mem_filter.mp present
    exact ⟨leaf, inside, holds, fails⟩
  · rintro ⟨leaf, inside, holds, fails⟩
    exact ⟨leaf.value, List.mem_map_of_mem (List.mem_filter.mpr ⟨inside, holds⟩), fails⟩

namespace Fields

/-- No integer that has to be written has too many digits: none that the text of a key shows,
and no leaf of an entry that lasts. -/
structure Legible (items : List Value) : Prop where
  keys : ∀ key ∈ Value.keysOfItems items, ∃ text, key.writtenText = .ok text
  leaves : ∀ leaf ∈ Value.leavesOfItems false items,
    leaf.superseded = false → leaf.value.isOverlong = false

def flawsOfRows (items : List Value) : List Failure :=
  Leaf.visitFlaws (Value.leavesOfItems false items) (Value.keysOfItems items) ++
    Value.flaws (Leaf.lasting (Value.leavesOfItems false items))

private theorem settledRows_decidedBy (items : List Value) :
    DecidedBy (flawsOfRows items) (settledRows items) := by
  refine (Value.settledItems_decidedBy false items).bind fun held settles => ?_
  obtain ⟨decided, same⟩ := Value.settledItems_writesLasting settles
  exact (decided.congr same).returning Json.readBackItems

theorem mem_flawsOfRows {items : List Value} {failure : Failure} :
    failure ∈ flawsOfRows items ↔
      (∃ leaf ∈ Value.leavesOfItems false items, !leaf.named ∧ leaf.value.stray? = some failure) ∨
      (∃ key ∈ Value.keysOfItems items, key.writtenText = .error failure) ∨
      ∃ leaf ∈ Value.leavesOfItems false items,
        !leaf.superseded ∧ leaf.value.flaw? = some failure := by
  unfold flawsOfRows Leaf.visitFlaws Leaf.coerced Leaf.lasting Value.flaws
  rw [List.mem_append, List.mem_append, Leaf.mem_flaws_iff, Leaf.mem_flaws_iff,
    List.mem_filterMap, or_assoc]
  simp only [Value.keyFlaw?_eq_some_iff]

/-- A flaw is a leaf of a kind that is not supported, or an integer of too many digits. -/
theorem flaw_cases {items : List Value} {failure : Failure} (member : failure ∈ flawsOfRows items) :
    (∃ leaf ∈ Value.leavesOfItems false items, leaf.counts = true ∧
      leaf.value.isSupported = false ∧ failure = .notSerializable leaf.value.shortTypeName) ∨
    (failure = .integerTooLongToWrite ∧ ¬ Legible items) := by
  have atom (leaf : Leaf) (present : leaf ∈ Value.leavesOfItems false items) :=
    (Value.mem_leavesOfItems false items leaf present).1
  rcases mem_flawsOfRows.mp member with ⟨leaf, present, unnamed, stray⟩ |
    ⟨key, present, fails⟩ | ⟨leaf, present, lasts, flaw⟩
  · refine .inl ⟨leaf, present, ?_, (Value.stray?_eq_some_iff (atom leaf present)).mp stray⟩
    rw [Leaf.counts, Bool.not_and, unnamed, Bool.true_or]
  · refine .inr ⟨Value.failure_of_writtenText fails, fun legible => ?_⟩
    obtain ⟨text, written⟩ := legible.keys key present
    cases fails.symm.trans written
  · rcases Value.flaw?_eq_some_iff.mp flaw with stray | ⟨overlong, rfl⟩
    · refine .inl ⟨leaf, present, ?_, (Value.stray?_eq_some_iff (atom leaf present)).mp stray⟩
      rw [Leaf.counts, Bool.not_and, lasts, Bool.or_true]
    · refine .inr ⟨rfl, fun legible => ?_⟩
      have short := legible.leaves leaf present ((Bool.not_eq_true' _).mp lasts)
      exact Bool.noConfusion (short.symm.trans overlong)

private theorem flaw_of_leaf {items : List Value} {leaf : Leaf}
    (present : leaf ∈ Value.leavesOfItems false items) (counts : leaf.counts = true)
    (unsupported : leaf.value.isSupported = false) :
    .notSerializable leaf.value.shortTypeName ∈ flawsOfRows items := by
  have stray : leaf.value.stray? = some (.notSerializable leaf.value.shortTypeName) :=
    (Value.stray?_eq_some_iff (Value.mem_leavesOfItems false items leaf present).1).mpr
      ⟨unsupported, rfl⟩
  rw [Leaf.counts, Bool.not_and, Bool.or_eq_true] at counts
  rcases counts with unnamed | lasts
  · exact mem_flawsOfRows.mpr (.inl ⟨leaf, present, unnamed, stray⟩)
  · exact mem_flawsOfRows.mpr
      (.inr (.inr ⟨leaf, present, lasts, Value.flaw?_eq_some_iff.mpr (.inl stray)⟩))

private theorem legible_of_flawless {items : List Value} (flawless : flawsOfRows items = []) :
    Legible items := by
  have none (failure : Failure) : failure ∉ flawsOfRows items := flawless ▸ List.not_mem_nil
  constructor
  · intro key present
    cases written : key.writtenText with
    | ok text => exact ⟨text, rfl⟩
    | error failure =>
        exact (none failure (mem_flawsOfRows.mpr (.inr (.inl ⟨key, present, written⟩)))).elim
  · intro leaf present lasts
    refine Bool.eq_false_iff.mpr fun overlong => none .integerTooLongToWrite ?_
    have flaw := Value.flaw?_eq_some_iff.mpr (.inr ⟨overlong, rfl⟩)
    exact mem_flawsOfRows.mpr (.inr (.inr ⟨leaf, present, (Bool.not_eq_true' _).mpr lasts, flaw⟩))

variable {transform : Transform}

private theorem normalizedRows_alone (keeps : transform.Keeps) {rows : Value}
    (direct : rows.NamesDirectly) {items : List Value} (lists : rows.elements = .ok items)
    {item : Value} (member : item ∈ items) :
    (normalizedRows transform (.list [item])).outcome.1 = settledRows [item] := by
  have alone : (Value.list [item]).NamesDirectly := by
    refine List.forall_mem_cons.mpr ⟨rfl, ?_⟩
    rw [Value.partsOfItems, Value.partsOfItems, List.append_nil]
    exact direct.elements lists item member
  exact normalizedRows_settles keeps alone rfl

/-- Normalizing with a transform that keeps every field fails if it comes to a leaf of a kind
that is not supported, and the failure names the type of such a leaf, or if an integer has more
digits than it may be written with.  It fails in no other way: otherwise there is one row for
each item, in order and the same as if there were no others. -/
theorem normalizedRows_fails_iff (keeps : transform.Keeps) {rows : Value}
    (direct : rows.NamesDirectly) {items : List Value} (lists : rows.elements = .ok items) :
    (Legible items →
      ((∃ type, (normalizedRows transform rows).outcome.1 = .error (.notSerializable type)) ↔
        ∃ leaf ∈ Value.leavesOfItems false items,
          leaf.counts = true ∧ leaf.value.isSupported = false)) ∧
    (¬ Legible items → ∃ failure, (normalizedRows transform rows).outcome.1 = .error failure) ∧
    (∀ failure, (normalizedRows transform rows).outcome.1 = .error failure →
      (∃ leaf ∈ Value.leavesOfItems false items, leaf.counts = true ∧
        leaf.value.isSupported = false ∧ failure = .notSerializable leaf.value.shortTypeName) ∨
      (failure = .integerTooLongToWrite ∧ ¬ Legible items)) ∧
    (Legible items → (∀ leaf ∈ Value.leavesOfItems false items,
        leaf.counts = true → leaf.value.isSupported = true) →
      ∃ result, (normalizedRows transform rows).outcome.1 = .ok result ∧
        List.Forall₂ (fun item row =>
          (normalizedRows transform (.list [item])).outcome.1 = .ok [row]) items result) := by
  rw [normalizedRows_settles keeps direct lists]
  rcases settledRows_decidedBy items with ⟨failure, member, fails⟩ | ⟨flawless, result, succeeds⟩
  · have cause := flaw_cases member
    rw [fails]
    refine ⟨fun legible => ?_, fun _illegible => ⟨failure, rfl⟩, ?_, fun legible supported => ?_⟩
    · obtain ⟨leaf, present, counts, unsupported, rfl⟩ :=
        cause.resolve_right fun both => both.2 legible
      exact ⟨fun _fails => ⟨leaf, present, counts, unsupported⟩, fun _found => ⟨_, rfl⟩⟩
    · rintro other ⟨⟩
      exact cause
    · obtain ⟨leaf, present, counts, unsupported, rfl⟩ :=
        cause.resolve_right fun both => both.2 legible
      exact Bool.noConfusion (unsupported.symm.trans (supported leaf present counts))
  · rw [succeeds]
    refine ⟨fun _legible => ⟨?_, ?_⟩, fun illegible => ?_, ?_, fun _legible _supported => ?_⟩
    · rintro ⟨type, fails⟩
      cases fails
    · rintro ⟨leaf, present, counts, unsupported⟩
      exact (List.not_mem_nil (flawless ▸ flaw_of_leaf present counts unsupported)).elim
    · exact (illegible (legible_of_flawless flawless)).elim
    · intro failure fails
      cases fails
    · have each := (List.forall₂_and_left items result).mpr
        ⟨fun _item member => member, settledRows_each succeeds⟩
      exact ⟨result, rfl, each.imp fun item row both =>
        (normalizedRows_alone keeps direct lists both.1).trans both.2⟩

/-- A parcel without a name for its sender, with a member that names what it is waiting for. -/
def parcels : List Value :=
  [.table true [(.null, .set false [.text "ada"]),
    (.text "waits", .member "Wait" "LONG" (.tuple [.text "storm", .duration ⟨1, 0, 0⟩]))]]

theorem parcels_fail :
    ∃ type, (normalizedRows Transform.identity (.list parcels)).outcome.1 =
      .error (.notSerializable type) := by
  have direct : (Value.list parcels).NamesDirectly := by
    unfold Value.NamesDirectly
    decide
  have delay : (⟨.duration ⟨1, 0, 0⟩, false, false⟩ : Leaf) ∈ Value.leavesOfItems false parcels :=
    .tail _ (.tail _ List.mem_cons_self)
  have legible : Legible parcels := by
    constructor
    · intro key present
      simp only [parcels, Value.keysOfItems, Value.keysWithin, Value.keysOfEntries,
        List.append_nil, List.nil_append, List.mem_cons, List.not_mem_nil, or_false] at present
      rcases present with rfl | rfl
      · exact ⟨_, rfl⟩
      · exact ⟨_, rfl⟩
    · decide
  exact ((normalizedRows_fails_iff Transform.identity_keeps direct rfl).1 legible).mpr
    ⟨_, delay, rfl, rfl⟩

/-- Crates whose first entry is superseded by the second one, which has the same name. -/
def crates : List Value :=
  [.table false [(.int 1, .member "Box" "FULL" .blank), (.text "1", .text "ok")]]

/-- A crate with an integer of too many digits for a key. -/
def hugeCrate : Value :=
  .table false [(.int Number.unwritable, .text "ok")]

/-- A leaf that is not supported does not always make normalizing fail, and a key does although
every leaf is supported. -/
theorem crates_do_not_fail :
    ¬ ((∃ type, (normalizedRows Transform.identity (.list crates)).outcome.1 =
        .error (.notSerializable type)) ↔
      ∃ leaf ∈ Value.leavesOfItems false crates, leaf.value.isSupported = false) ∧
    (normalizedRows Transform.identity (.list [hugeCrate])).outcome.1 =
      .error .integerTooLongToWrite := by
  constructor
  · intro same
    have succeeds : (normalizedRows Transform.identity (.list crates)).outcome.1 =
        .ok [.object [("1", .text "ok")]] := rfl
    obtain ⟨type, fails⟩ := same.mpr ⟨⟨.blank, true, true⟩, List.mem_cons_self, rfl⟩
    cases succeeds.symm.trans fails
  · have long : Number.isOverlong Number.unwritable = true := Number.isOverlong_unwritable
    unfold hugeCrate
    generalize (Number.unwritable : Int) = number at long
    have direct : (Value.list [.table false [(.int number, .text "ok")]]).NamesDirectly := by
      simp [Value.NamesDirectly, Value.parts, Value.partsOfItems, Value.partsOfEntries,
        Value.namesDirect]
    rw [normalizedRows_settles Transform.identity_keeps direct rfl]
    simp only [settledRows, Value.settledItems, Value.settled, Value.settledEntries,
      Value.writtenText_int, Number.integerText, long]
    rfl

end Fields
end PooledQuery
