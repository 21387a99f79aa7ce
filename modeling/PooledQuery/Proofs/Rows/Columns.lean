/-
Fields under the names of columns.

The table that is built from names and fields has an entry for each name, at the place where
the name occurs first, with the last of the fields under it.  So the fields can be recovered
from the table exactly if no name is repeated.
-/
import Mathlib.Data.List.Perm.Subperm
import PooledQuery.Proofs.Rows.Total

namespace PooledQuery

private theorem eraseDups_concat (names : List Text) (name : Text) :
    (names ++ [name]).eraseDups =
      if name ∈ names then names.eraseDups else names.eraseDups ++ [name] := by
  rw [List.eraseDups_append, List.removeAll, List.filter_singleton]
  by_cases known : name ∈ names
  · rw [if_pos known, List.elem_eq_true_of_mem known]
    exact List.append_nil _
  · rw [if_neg known, List.elem_eq_mem, decide_eq_false known]
    rfl

/-- A list without repetitions is as long as one with the same items exactly if that one has
no repetitions either. -/
theorem length_eq_iff_nodup {once items : List Text} (nodup : once.Nodup)
    (same : ∀ name, name ∈ once ↔ name ∈ items) : once.length = items.length ↔ items.Nodup := by
  constructor
  · intro length
    have within : once.Subperm items :=
      List.subperm_of_subset nodup fun name member => (same name).mp member
    exact (within.perm_of_length_le length.ge).nodup_iff.mp nodup
  · intro distinct
    exact ((List.perm_ext_iff_of_nodup nodup distinct).mpr same).length_eq

namespace Entries

variable {entries pairs : Entries}

theorem entryNames_cons (name : Text) (value : Value) (rest : Entries) :
    Value.entryNames ((.text name, value) :: rest) = name :: Value.entryNames rest := rfl

theorem entryNames_concat (earlier : Entries) (name : Text) (value : Value) :
    Value.entryNames (earlier ++ [(.text name, value)]) = Value.entryNames earlier ++ [name] :=
  List.map_append

theorem ofPairs_concat (pairs : Entries) (pair : Value × Value) :
    ofPairs (pairs ++ [pair]) = put (ofPairs pairs) pair.1 pair.2 := by
  unfold ofPairs
  rw [List.foldl_append]
  rfl

theorem put_of_absent (texts : HaveNames entries) {name : Text}
    (absent : name ∉ Value.entryNames entries) (value : Value) :
    put entries (.text name) value = entries ++ [(.text name, value)] := by
  induction entries with
  | nil => rfl
  | cons entry rest ih =>
      obtain ⟨⟨other, held, rfl⟩, others⟩ := texts.of_cons
      rw [entryNames_cons] at absent
      obtain ⟨different, later⟩ := List.ne_and_not_mem_of_not_mem_cons absent
      rw [put_cons_text, if_neg (Ne.symm different), ih others later, List.cons_append]

private theorem entryNames_put (texts : HaveNames entries) (name : Text) (value : Value) :
    Value.entryNames (put entries (.text name) value) =
      if name ∈ Value.entryNames entries then Value.entryNames entries
      else Value.entryNames entries ++ [name] := by
  by_cases present : name ∈ Value.entryNames entries
  · rw [if_pos present]
    induction entries with
    | nil => cases present
    | cons entry rest ih =>
        obtain ⟨⟨other, held, rfl⟩, others⟩ := texts.of_cons
        rw [put_cons_text]
        by_cases same : other = name
        · rw [if_pos same, entryNames_cons, entryNames_cons, same]
        · have later : name ∈ Value.entryNames rest :=
            (List.mem_cons.mp present).resolve_left fun first => same first.symm
          rw [if_neg same, entryNames_cons, entryNames_cons, ih others later]
  · rw [if_neg present, put_of_absent texts present, entryNames_concat]

theorem haveNames_append : HaveNames (entries ++ pairs) ↔ HaveNames entries ∧ HaveNames pairs :=
  List.forall_mem_append

theorem haveNames_ofPairs (texts : HaveNames pairs) : HaveNames (ofPairs pairs) :=
  fun entry member => texts entry (mem_ofPairs_of_texts texts entry member)

private theorem distinct_ofPairs (texts : HaveNames pairs) : AreDistinct (ofPairs pairs) := by
  induction pairs using List.reverseRecOn with
  | nil => exact List.Pairwise.nil
  | append_singleton pairs pair ih =>
      obtain ⟨earlier, last⟩ := haveNames_append.mp texts
      obtain ⟨⟨name, value, rfl⟩, _none⟩ := last.of_cons
      rw [ofPairs_concat]
      exact distinct_put (haveNames_ofPairs earlier) (ih earlier) name value

private theorem entryNames_ofPairs (texts : HaveNames pairs) :
    Value.entryNames (ofPairs pairs) = (Value.entryNames pairs).eraseDups := by
  induction pairs using List.reverseRecOn with
  | nil => rfl
  | append_singleton pairs pair ih =>
      obtain ⟨earlier, last⟩ := haveNames_append.mp texts
      obtain ⟨⟨name, value, rfl⟩, _none⟩ := last.of_cons
      rw [ofPairs_concat, entryNames_put (haveNames_ofPairs earlier), ih earlier,
        entryNames_concat, eraseDups_concat]
      simp only [List.mem_eraseDups]

private theorem ofPairs_of_distinct (texts : HaveNames pairs)
    (distinct : (Value.entryNames pairs).Nodup) :
    ofPairs pairs = pairs := by
  induction pairs using List.reverseRecOn with
  | nil => rfl
  | append_singleton pairs pair ih =>
      obtain ⟨earlier, last⟩ := haveNames_append.mp texts
      obtain ⟨⟨name, value, rfl⟩, _none⟩ := last.of_cons
      rw [entryNames_concat, List.nodup_append] at distinct
      obtain ⟨within, _single, apart⟩ := distinct
      have absent : name ∉ Value.entryNames pairs :=
        fun present => apart name present name List.mem_cons_self rfl
      rw [ofPairs_concat, ih earlier within, put_of_absent earlier absent]

private theorem eq_lastNamed (texts : HaveNames entries) (distinct : AreDistinct entries) :
    entries.map (fun entry => (entry.1, some entry.2)) =
      (Value.entryNames entries).map fun name =>
        (Value.text name, lastNamed Value.plainText name entries) := by
  induction entries with
  | nil => rfl
  | cons entry rest ih =>
      obtain ⟨⟨name, value, rfl⟩, others⟩ := texts.of_cons
      obtain ⟨apart, within⟩ := List.pairwise_cons.mp distinct
      have first (content : Text) : (Value.text content).plainText = content := rfl
      have once : lastNamed Value.plainText name rest = none :=
        lastNamed_of_none fun later member => Ne.symm (apart later member)
      rw [entryNames_cons, List.map_cons, List.map_cons, ih others within, lastNamed, once, first,
        if_pos rfl, Option.none_or]
      congr 1
      refine List.map_congr_left fun other present => ?_
      obtain ⟨later, member, named⟩ := List.mem_map.mp present
      have different : name ≠ other := fun same => apart later member (same.trans named.symm)
      rw [lastNamed, first, if_neg different, Option.or_none]

/-! ### Names and fields -/

variable {names : List Text} {fields : List Value}

/-- What fields become under the names of columns. -/
structure Tabulates (names : List Text) (fields : List Value) (entries : Entries) : Prop where
  -- There is an entry for each name, at the place where it occurs first, with the last of the
  -- fields under it.
  exactly : entries.map (fun entry => (entry.1, some entry.2)) =
    names.eraseDups.map fun name => (Value.text name, lastNamed id name (names.zip fields))
  -- There are as many entries as columns exactly if no name is repeated.
  length : entries.length = names.length ↔ names.Nodup
  -- The values of the entries are the fields, in order, exactly if no name is repeated.
  values : entries.map (·.2) = fields ↔ names.Nodup

private theorem lastNamed_text (pairs : List (Text × Value)) (name : Text) :
    lastNamed Value.plainText name (pairs.map (Prod.map Value.text id)) = lastNamed id name pairs := by
  induction pairs with
  | nil => rfl
  | cons pair rest ih =>
      rw [List.map_cons, Prod.map, lastNamed, ih]
      rfl

theorem ofPairs_tabulates (fits : fields.length = names.length) :
    Tabulates names fields (ofPairs ((names.map Value.text).zip fields)) := by
  generalize formed : (names.map Value.text).zip fields = pairs
  have paired : pairs = (names.zip fields).map (Prod.map Value.text id) := by
    rw [← formed, List.zip_map_left]
  have texts : HaveNames pairs := by
    intro pair member
    rw [paired] at member
    obtain ⟨plain, _member, rfl⟩ := List.mem_map.mp member
    exact ⟨plain.1, rfl⟩
  have named : Value.entryNames pairs = names := by
    rw [paired, Value.entryNames, List.map_map]
    exact List.map_fst_zip fits.ge
  have keys : Value.entryNames (ofPairs pairs) = names.eraseDups := by
    rw [entryNames_ofPairs texts, named]
  have distinct := distinct_ofPairs texts
  have length : (ofPairs pairs).length = names.length ↔ names.Nodup := by
    have counted : (Value.entryNames (ofPairs pairs)).length = (ofPairs pairs).length :=
      List.length_map _
    rw [← counted, keys]
    refine length_eq_iff_nodup ?_ fun name => List.mem_eraseDups
    rw [← keys]
    exact distinct.map _ fun _first _second different => different
  refine ⟨?_, length, fun same => ?_, fun nodup => ?_⟩
  · rw [eq_lastNamed (haveNames_ofPairs texts) distinct, keys]
    refine List.map_congr_left fun name _present => ?_
    rw [lastNamed_ofPairs texts, paired, lastNamed_text]
  · rw [← length, ← fits, ← same, List.length_map]
  · rw [ofPairs_of_distinct texts (named.symm ▸ nodup), paired, List.map_map]
    exact List.map_snd_zip fits.le

end Entries
end PooledQuery
