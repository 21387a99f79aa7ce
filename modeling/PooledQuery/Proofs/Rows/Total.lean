/-
The total of a counted result.

The row of a counting statement goes through the transform as every row does.  So the total
is not what the driver counted, but what the transform answers for the field `total`, after
it was written as JSON and read back.
-/
import PooledQuery.Paging
import PooledQuery.Proofs.Rows.Lasting
import PooledQuery.Proofs.Text.Pairs

namespace PooledQuery

/-! ### Names -/

section Named

variable {κ ι α β : Type} {nameOf : κ → Text} {nameToo : ι → Text} {name : Text}

def lastNamed (nameOf : κ → Text) (name : Text) : List (κ × α) → Option α
  | [] => none
  | (key, value) :: rest =>
      (lastNamed nameOf name rest).or (if nameOf key = name then some value else none)

theorem lastNamed_of_none {pairs : List (κ × α)} (none : ∀ pair ∈ pairs, nameOf pair.1 ≠ name) :
    lastNamed nameOf name pairs = Option.none := by
  induction pairs with
  | nil => rfl
  | cons pair rest ih =>
      obtain ⟨first, others⟩ := List.forall_mem_cons.mp none
      rw [lastNamed, ih others, if_neg first, Option.none_or]

/-- The pairs give the name at the same places, and where they do their values are related. -/
def NamedAlike (nameOf : κ → Text) (nameToo : ι → Text) (name : Text) (relates : α → β → Prop)
    (pair : κ × α) (other : ι × β) : Prop :=
  (nameOf pair.1 = name ↔ nameToo other.1 = name) ∧
    (nameOf pair.1 = name → relates pair.2 other.2)

theorem lastNamed_alike {relates : α → β → Prop} {pairs : List (κ × α)} {others : List (ι × β)}
    (each : List.Forall₂ (NamedAlike nameOf nameToo name relates) pairs others) :
    Option.Rel relates (lastNamed nameOf name pairs) (lastNamed nameToo name others) := by
  induction each with
  | nil => exact .none
  | @cons pair other rest later first each ih =>
      obtain ⟨alike, related⟩ := first
      rw [lastNamed, lastNamed]
      generalize lastNamed nameOf name rest = found at ih ⊢
      generalize lastNamed nameToo name later = foundToo at ih ⊢
      cases ih with
      | some last => exact .some last
      | none =>
          rw [Option.none_or, Option.none_or]
          by_cases named : nameOf pair.1 = name
          · rw [if_pos named, if_pos (alike.mp named)]
            exact .some (related named)
          · rw [if_neg named, if_neg (named ∘ alike.mpr)]
            exact .none

end Named

namespace Entries

private theorem lastNamed_put {entries : Entries} (texts : HaveNames entries)
    (distinct : AreDistinct entries) (key name : Text) (value : Value) :
    lastNamed Value.plainText name (put entries (.text key) value) =
      if key = name then some value else lastNamed Value.plainText name entries := by
  induction entries with
  | nil => exact Option.none_or
  | cons entry rest ih =>
      obtain ⟨⟨other, held, rfl⟩, others⟩ := texts.of_cons
      obtain ⟨apart, within⟩ := List.pairwise_cons.mp distinct
      have first (content : Text) : (Value.text content).plainText = content := rfl
      rw [put_cons_text]
      by_cases same : other = key
      · rw [if_pos same, lastNamed, lastNamed, first, first, same]
        by_cases named : key = name
        · have none : lastNamed Value.plainText name rest = Option.none :=
            lastNamed_of_none fun later member equal =>
              apart later member (same.trans (named.trans equal.symm))
          rw [if_pos named, if_pos named, none, Option.none_or]
        · rw [if_neg named, if_neg named, if_neg named]
      · rw [if_neg same, lastNamed, lastNamed, first, ih others within]
        by_cases named : key = name
        · rw [if_pos named, if_pos named, Option.some_or]
        · rw [if_neg named, if_neg named]

private theorem lastNamed_foldl_put {pairs : Entries} (texts : HaveNames pairs) (earlier : Entries)
    (named : HaveNames earlier) (distinct : AreDistinct earlier) (name : Text) :
    lastNamed Value.plainText name
        (pairs.foldl (fun entries pair => put entries pair.1 pair.2) earlier) =
      (lastNamed Value.plainText name pairs).or (lastNamed Value.plainText name earlier) := by
  induction pairs generalizing earlier with
  | nil => exact Option.none_or.symm
  | cons pair rest ih =>
      obtain ⟨⟨key, value, rfl⟩, others⟩ := texts.of_cons
      rw [List.foldl_cons, ih others _ (haveNames_put named key value)
        (distinct_put named distinct key value), lastNamed_put named distinct, lastNamed,
        Option.or_assoc]
      have first : (Value.text key).plainText = key := rfl
      rw [first]
      by_cases same : key = name
      · rw [if_pos same, if_pos same, Option.some_or]
      · rw [if_neg same, if_neg same, Option.none_or]

theorem lastNamed_ofPairs {pairs : Entries} (texts : HaveNames pairs) (name : Text) :
    lastNamed Value.plainText name (ofPairs pairs) = lastNamed Value.plainText name pairs := by
  have folded := lastNamed_foldl_put texts [] (fun _entry none => nomatch none)
    List.Pairwise.nil name
  rwa [lastNamed, Option.or_none] at folded

end Entries

namespace Json

private theorem field?_put (fields : List (Text × Json)) (key name : Text) (value : Json) :
    (object (put fields key value)).field? name =
      if key = name then some value else (object fields).field? name := by
  induction fields with
  | nil =>
      rw [put]
      unfold field?
      dsimp only
      rw [List.find?_cons]
      by_cases same : key = name
      · rw [beq_iff_eq.mpr same, if_pos same]
        rfl
      · rw [beq_eq_false_iff_ne.mpr same, if_neg same]
  | cons field rest ih =>
      obtain ⟨other, held⟩ := field
      unfold field? at ih ⊢
      dsimp only at ih ⊢
      rw [put]
      by_cases same : other = key
      · rw [if_pos same, List.find?_cons, List.find?_cons, same]
        by_cases named : key = name
        · rw [beq_iff_eq.mpr named, if_pos named]
          rfl
        · rw [beq_eq_false_iff_ne.mpr named, if_neg named]
      · rw [if_neg same, List.find?_cons, List.find?_cons]
        by_cases first : other = name
        · have different : ¬ key = name := fun named => same (first.trans named.symm)
          rw [beq_iff_eq.mpr first, if_neg different]
        · rw [beq_eq_false_iff_ne.mpr first]
          exact ih

private theorem field?_foldl_put (pairs earlier : List (Text × Json)) (name : Text) :
    (object (pairs.foldl (fun fields pair => put fields pair.1 pair.2) earlier)).field? name =
      (lastNamed id name pairs).or ((object earlier).field? name) := by
  induction pairs generalizing earlier with
  | nil => exact Option.none_or.symm
  | cons pair rest ih =>
      rw [List.foldl_cons, ih, field?_put, lastNamed, Option.or_assoc, id]
      by_cases same : pair.1 = name
      · rw [if_pos same, if_pos same, Option.some_or]
      · rw [if_neg same, if_neg same, Option.none_or]

private theorem field?_fieldsOfPairs (pairs : List (Text × Json)) (name : Text) :
    (object (fieldsOfPairs pairs)).field? name = lastNamed id name pairs :=
  (field?_foldl_put pairs [] name).trans Option.or_none

private theorem ofEntries_alike {entries : Entries} (texts : entries.HaveNames)
    {fields : List (Text × Json)} (writes : ofEntries false entries = .ok fields) (name : Text) :
    List.Forall₂
      (NamedAlike Value.plainText id name fun value json => ofValue false value = .ok json)
      entries fields := by
  induction entries generalizing fields with
  | nil =>
      cases writes
      exact .nil
  | cons entry rest ih =>
      obtain ⟨⟨key, value, rfl⟩, others⟩ := texts.of_cons
      obtain ⟨written, names, follows⟩ := Failure.bind_ok writes
      obtain ⟨json, comes, more⟩ := Failure.bind_ok follows
      obtain ⟨later, ends, rfl⟩ := Failure.bind_pure_ok more
      cases names
      exact .cons ⟨Iff.rfl, fun _named => comes⟩ (ih others ends)

private theorem readBackFields_alike {name : Text}
    (plain : ∀ content : Text, content.pairsJoined = name ↔
    content = name) (fields : List (Text × Json)) :
    List.Forall₂ (NamedAlike id id name fun json read => read = json.readBack) fields
      (readBackFields fields) := by
  induction fields with
  | nil => exact .nil
  | cons field rest ih => exact .cons ⟨(plain field.1).symm, fun _named => rfl⟩ ih

end Json

/-! ### Integers -/

/-- The integer as which a value is read after it was written as JSON and read back. -/
def Value.readBackInteger (value : Value) : Except Failure Int := do
  let json ← Json.ofValue false value
  json.readBack.toValue.toInteger

def Transform.readsTotal (transform : Transform) (value : Value) : Except Failure Int := do
  let given ← value.plain
  let answer ← transform.apply "total" given
  answer.readBackInteger

theorem Value.readBackInteger_list {items : List Value} {n : Int} :
    (Value.list items).readBackInteger ≠ .ok n := by
  intro reads
  obtain ⟨json, writes, reads⟩ := Failure.bind_ok reads
  obtain ⟨written, _each, rfl⟩ := Failure.bind_pure_ok writes
  cases reads

private theorem Value.readBackInteger_tuple {items : List Value} {n : Int} :
    (Value.tuple items).readBackInteger ≠ .ok n :=
  Value.readBackInteger_list

theorem Value.readBackInteger_table {view : Bool} {entries : List (Value × Value)} {n : Int} :
    (Value.table view entries).readBackInteger ≠ .ok n := by
  intro reads
  obtain ⟨json, writes, reads⟩ := Failure.bind_ok reads
  cases view with
  | true => cases writes
  | false =>
      obtain ⟨written, _each, rfl⟩ := Failure.bind_pure_ok writes
      cases reads

namespace Fields

variable (transform : Transform)

private theorem visitWithin_readBackInteger (limit : Nat) (answer : Value) :
    (visitWithin transform limit answer).Ensures fun visited =>
      ∀ n, visited.readBackInteger = .ok n ↔ answer.readBackInteger = .ok n := by
  have unread {visited : Value} (unreads : ∀ n, visited.readBackInteger ≠ .ok n)
      (unreadsToo : ∀ n, answer.readBackInteger ≠ .ok n) (n : Int) :
      visited.readBackInteger = .ok n ↔ answer.readBackInteger = .ok n :=
    iff_of_false (unreads n) (unreadsToo n)
  cases limit with
  | zero => exact Visit.Ensures.throw _
  | succ lower =>
      cases answer with
      | table view entries =>
          exact (Visit.Ensures.anything _).bind fun visited _any => Visit.Ensures.pure
            (unread (fun _n => Value.readBackInteger_table) fun _n => Value.readBackInteger_table)
      | list items =>
          exact (Visit.Ensures.anything _).bind fun visited _any => Visit.Ensures.pure
            (unread (fun _n => Value.readBackInteger_list) fun _n => Value.readBackInteger_list)
      | tuple items =>
          exact (Visit.Ensures.anything _).bind fun visited _any => Visit.Ensures.pure
            (unread (fun _n => Value.readBackInteger_list) fun _n => Value.readBackInteger_tuple)
      | _ => exact Visit.Ensures.pure fun _n => Iff.rfl

/-- What is visited of an entry is read as the integer that the transform makes of its value. -/
def ReadAlike (transform : Transform) (value visited : Value) : Prop :=
  ∀ n, visited.readBackInteger = .ok n ↔ transform.readsTotal value = .ok n

/-- A table in which every entry has been visited, as far as the total is concerned. -/
def CountsFor (transform : Transform) (entries : Entries) (table : Value) : Prop :=
  ∃ pairs : Entries, table = .table false (Entries.ofPairs pairs) ∧ pairs.HaveNames ∧
    List.Forall₂ (NamedAlike Value.plainText Value.plainText "total" (ReadAlike transform))
      entries pairs

private theorem visitEntries_alike (limit : Nat) (entries : List (Value × Value)) :
    (visitEntries transform (visitWithin transform limit) entries).Ensures fun pairs =>
      Entries.HaveNames pairs ∧ List.Forall₂
        (NamedAlike Value.plainText Value.plainText "total" (ReadAlike transform))
          entries pairs := by
  induction entries with
  | nil => exact Visit.Ensures.pure ⟨fun _pair none => (nomatch none), .nil⟩
  | cons entry rest ih =>
      obtain ⟨key, value⟩ := entry
      unfold visitEntries
      refine (Visit.Ensures.ofExcept fun name names => names).bind fun name names => ?_
      obtain rfl := Value.plainText_of_writtenText names
      refine (Visit.Ensures.ofExcept fun given plain => plain).bind fun given plain => ?_
      refine (Visit.Ensures.call fun answer answers => answers).bind fun answer answers => ?_
      refine (visitWithin_readBackInteger transform limit answer).bind fun visited reads => ?_
      refine ih.bind fun others each => Visit.Ensures.pure ⟨?_, .cons ⟨Iff.rfl, ?_⟩ each.2⟩
      · exact List.forall_mem_cons.mpr ⟨⟨_, rfl⟩, each.1⟩
      · intro named n
        unfold Transform.readsTotal
        rw [plain, Failure.ok_bind, ← named, answers, Failure.ok_bind]
        exact reads n

private theorem visitItems_counts (limit : Nat) (entries : Entries) (rest : List Value) :
    (visitItems transform (visitWithin transform limit) (.table false entries :: rest)).Ensures
      fun visited => ∃ table others, visited = table :: others ∧
        CountsFor transform entries table := by
  unfold visitItems visitItem
  have first : (do
      return Value.table false (Entries.ofPairs
        (← visitEntries transform (visitWithin transform limit) entries)) :
      Visit Value).Ensures (CountsFor transform entries) :=
    (visitEntries_alike transform limit entries).bind fun pairs each =>
      Visit.Ensures.pure ⟨pairs, rfl, each⟩
  exact first.bind fun table counts => (Visit.Ensures.anything _).bind fun others _any =>
    Visit.Ensures.pure ⟨table, others, rfl, counts⟩

/-- The driver's tables have this total under the transform: zero if there are none, or the
integer that the transform makes of the field `total` of the first one. -/
def Counts (transform : Transform) : List Entries → Int → Prop
  | [], n => n = 0
  | entries :: _, n => ∃ value, lastNamed Value.plainText "total" entries = some value ∧
      transform.readsTotal value = .ok n

variable {transform}

private theorem CountsFor.field?_total {entries : Entries} {table : Value} {json : Json}
    (counts : CountsFor transform entries table) (writes : Json.ofValue false table = .ok json) :
    Option.Rel (fun value count => ∀ n, count.toValue.toInteger = .ok n ↔
        transform.readsTotal value = .ok n)
      (lastNamed Value.plainText "total" entries) (json.readBack.field? "total") := by
  obtain ⟨pairs, rfl, texts, each⟩ := counts
  obtain ⟨fields, written, rfl⟩ := Failure.bind_pure_ok writes
  have named : (Entries.ofPairs pairs).HaveNames :=
    fun entry member => texts entry (Entries.mem_ofPairs_of_texts texts entry member)
  have visits := lastNamed_alike each
  have writes := lastNamed_alike (Json.ofEntries_alike named written "total")
  have reads := lastNamed_alike (Json.readBackFields_alike Text.pairsJoined_eq_total fields)
  rw [Entries.lastNamed_ofPairs texts] at writes
  rw [Json.readBack, Json.field?_fieldsOfPairs]
  generalize lastNamed Value.plainText "total" entries = given at visits ⊢
  generalize lastNamed Value.plainText "total" pairs = visited at visits writes
  generalize lastNamed id "total" fields = wrote at writes reads
  generalize lastNamed id "total" (Json.readBackFields fields) = read at reads ⊢
  cases visits with
  | none =>
      cases writes
      cases reads
      exact .none
  | some alike =>
      cases writes with
      | some comes =>
          cases reads with
          | some same =>
              refine .some fun n => ?_
              rw [same, ← alike n]
              unfold Value.readBackInteger
              rw [comes, Failure.ok_bind]

private theorem total_cons_iff {entries : Entries} {row : Json}
    (reads : Option.Rel (fun value count => ∀ n, count.toValue.toInteger = .ok n ↔
        transform.readsTotal value = .ok n)
      (lastNamed Value.plainText "total" entries) (row.field? "total"))
    (tables : List Entries) (rows : List Json) (n : Int) :
    Paging.total (.rows (row :: rows)) = .ok n ↔ Counts transform (entries :: tables) n := by
  unfold Paging.total Counts
  dsimp only [Outcome.toRows]
  generalize lastNamed Value.plainText "total" entries = given at reads ⊢
  generalize row.field? "total" = read at reads ⊢
  cases reads with
  | none =>
      refine iff_of_false (fun total => nomatch total) ?_
      rintro ⟨value, none, _⟩
      cases none
  | some alike =>
      refine (alike n).trans ⟨fun counted => ⟨_, rfl, counted⟩, ?_⟩
      rintro ⟨value, same, counted⟩
      rwa [Option.some.inj same]

theorem total_normalized_iff (tables : List Entries) {rows : List Json}
    (normalizes : (normalized transform (tables.map (Value.table false))).outcome.1 = .ok rows)
    (n : Int) : Paging.total (.rows rows) = .ok n ↔ Counts transform tables n := by
  cases tables with
  | nil =>
      cases normalizes
      exact ⟨fun total => (Except.ok.inj total).symm, fun zero => congrArg Except.ok zero.symm⟩
  | cons entries rest =>
      have ensures : (normalized transform ((entries :: rest).map (Value.table false))).Ensures
          fun rows => ∀ n, Paging.total (.rows rows) = .ok n ↔
            Counts transform (entries :: rest) n := by
        unfold normalized
        dsimp only [List.map_cons]
        refine (visitItems_counts transform _ entries _).bind fun visited first => ?_
        obtain ⟨table, others, rfl, counts⟩ := first
        refine (Visit.Ensures.ofExcept fun written writes => writes).bind fun written writes => ?_
        obtain ⟨json, starts, follows⟩ := Failure.bind_ok writes
        obtain ⟨later, _ends, rfl⟩ := Failure.bind_pure_ok follows
        exact Visit.Ensures.pure (total_cons_iff (counts.field?_total starts) rest _)
      exact ensures.outcome normalizes n

end Fields

namespace Transform

variable (transform : Transform)

/-- Whatever is read as a total when every field is kept is read as the same total under the
transform. -/
def KeepsTotal : Prop :=
  ∀ value n, identity.readsTotal value = .ok n → transform.readsTotal value = .ok n

/-- Rows that can be normalized when every field is kept can be so under the transform. -/
def LetsPass : Prop :=
  ∀ (tables : List Entries) (rows : List Json),
    (Fields.normalized identity (tables.map (Value.table false))).outcome.1 = .ok rows →
      ∃ others, (Fields.normalized transform (tables.map (Value.table false))).outcome.1 =
        .ok others

variable {transform}

theorem KeepsTotal.counts (keeps : transform.KeepsTotal) {tables : List Entries} {n : Int}
    (counted : Fields.Counts identity tables n) : Fields.Counts transform tables n := by
  cases tables with
  | nil => exact counted
  | cons entries rest =>
      obtain ⟨value, found, reads⟩ := counted
      exact ⟨value, found, keeps value n reads⟩

end Transform
end PooledQuery
