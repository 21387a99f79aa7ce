/-
Entries that last.

When a table is built from pairs, a pair takes the place of an earlier one of the same key.
If the keys are texts, the entries in the end are the pairs that none of the later ones
supersedes.
-/
import PooledQuery.Proofs.Rows.Parts

namespace PooledQuery

/-- The names that entries get when they are put into a table. -/
def Value.entryNames (entries : List (Value × Value)) : List Text :=
  entries.map fun entry => entry.1.plainText

namespace Entries

/-- The entries that no later one supersedes. -/
def lasting : Entries → Entries
  | [] => []
  | entry :: rest =>
      if entry.1.plainText ∈ Value.entryNames rest then lasting rest else entry :: lasting rest

def HaveNames (entries : Entries) : Prop :=
  ∀ entry ∈ entries, ∃ name, entry.1 = .text name

def AreDistinct (entries : Entries) : Prop :=
  entries.Pairwise fun first second => first.1.plainText ≠ second.1.plainText

theorem HaveNames.of_cons {entry : Value × Value} {rest : Entries}
    (texts : HaveNames (entry :: rest)) :
    (∃ name value, entry = (.text name, value)) ∧ HaveNames rest := by
  obtain ⟨first, others⟩ := List.forall_mem_cons.mp texts
  obtain ⟨name, text⟩ := first
  exact ⟨⟨name, entry.2, Prod.ext text rfl⟩, others⟩

theorem haveNames_put {entries : Entries} (texts : HaveNames entries) (name : Text) (value : Value) :
    HaveNames (put entries (.text name) value) := by
  intro entry member
  rcases mem_put_of_texts texts ⟨name, rfl⟩ member with rfl | old
  · exact ⟨name, rfl⟩
  · exact texts entry old

theorem put_cons_text (other name : Text) (held value : Value) (rest : Entries) :
    put ((.text other, held) :: rest) (.text name) value =
      if other = name then (.text name, value) :: rest
      else (.text other, held) :: put rest (.text name) value := by
  have test : Value.sameKey (.text other) (.text name) = (other == name) := rfl
  rw [put, test]
  by_cases same : other = name
  · rw [if_pos same, if_pos (beq_iff_eq.mpr same), same]
  · rw [if_neg same, if_neg (fun equal => same (beq_iff_eq.mp equal))]

theorem distinct_put {entries : Entries} (texts : HaveNames entries)
    (distinct : AreDistinct entries) (name : Text) (value : Value) :
    AreDistinct (put entries (.text name) value) := by
  induction entries with
  | nil => exact List.pairwise_singleton _ _
  | cons entry rest ih =>
      obtain ⟨⟨other, held, rfl⟩, others⟩ := texts.of_cons
      obtain ⟨apart, within⟩ := List.pairwise_cons.mp distinct
      rw [put_cons_text]
      split
      · rename_i same
        subst same
        exact List.pairwise_cons.mpr ⟨apart, within⟩
      · rename_i different
        refine List.pairwise_cons.mpr ⟨fun later member => ?_, ih others within⟩
        rcases mem_put_of_texts others ⟨name, rfl⟩ member with rfl | old
        · exact different
        · exact apart later old

private theorem mem_put_iff {entries : Entries} (texts : HaveNames entries)
    (distinct : AreDistinct entries) (name : Text) (value : Value) (entry : Value × Value) :
    entry ∈ put entries (.text name) value ↔
      entry = (.text name, value) ∨ (entry ∈ entries ∧ entry.1.plainText ≠ name) := by
  induction entries with
  | nil => simp only [put, List.mem_singleton, List.not_mem_nil, false_and, or_false]
  | cons first rest ih =>
      obtain ⟨⟨other, held, rfl⟩, others⟩ := texts.of_cons
      obtain ⟨apart, within⟩ := List.pairwise_cons.mp distinct
      rw [put_cons_text]
      split
      · rename_i same
        subst same
        constructor
        · intro member
          rcases List.mem_cons.mp member with new | old
          · exact .inl new
          · exact .inr ⟨List.mem_cons_of_mem _ old, Ne.symm (apart entry old)⟩
        · rintro (new | ⟨old, different⟩)
          · exact new ▸ List.mem_cons_self
          · rcases List.mem_cons.mp old with rfl | later
            · exact absurd rfl different
            · exact List.mem_cons_of_mem _ later
      · rename_i different
        rw [List.mem_cons, List.mem_cons, ih others within]
        constructor
        · rintro (rfl | new | ⟨old, apart⟩)
          · exact .inr ⟨.inl rfl, different⟩
          · exact .inl new
          · exact .inr ⟨.inr old, apart⟩
        · rintro (new | ⟨first | old, apart⟩)
          · exact .inr (.inl new)
          · exact .inl first
          · exact .inr (.inr ⟨old, apart⟩)

private theorem mem_foldl_put_iff {pairs : Entries} (texts : HaveNames pairs) (earlier : Entries)
    (named : HaveNames earlier) (distinct : AreDistinct earlier) (entry : Value × Value) :
    entry ∈ pairs.foldl (fun entries pair => put entries pair.1 pair.2) earlier ↔
      entry ∈ lasting pairs ∨
        (entry ∈ earlier ∧ entry.1.plainText ∉ Value.entryNames pairs) := by
  -- By induction on the pairs: the first one lasts if none of the later ones has its name.
  induction pairs generalizing earlier with
  | nil =>
      rw [List.foldl_nil, lasting, Value.entryNames, List.map_nil]
      exact ⟨fun member => .inr ⟨member, List.not_mem_nil⟩, fun cases => cases.elim nofun And.left⟩
  | cons pair rest ih =>
      obtain ⟨⟨name, value, rfl⟩, others⟩ := texts.of_cons
      rw [List.foldl_cons, ih others _ (haveNames_put named name value)
        (distinct_put named distinct name value), mem_put_iff named distinct]
      have names : Value.entryNames ((.text name, value) :: rest) = name :: Value.entryNames rest := rfl
      have first : (Value.text name).plainText = name := rfl
      rw [names, List.mem_cons, not_or, lasting, first]
      split
      · rename_i superseded
        have given : entry = (.text name, value) → entry.1.plainText ∈ Value.entryNames rest := by
          rintro rfl
          exact superseded
        grind
      · rename_i lasts
        have given : entry = (.text name, value) → entry.1.plainText ∉ Value.entryNames rest := by
          rintro rfl
          exact lasts
        rw [List.mem_cons]
        grind

/-- A table that is built from pairs has the entries that last. -/
theorem mem_ofPairs_iff {pairs : Entries} (texts : HaveNames pairs) (entry : Value × Value) :
    entry ∈ ofPairs pairs ↔ entry ∈ lasting pairs := by
  have folded := mem_foldl_put_iff texts [] (fun _entry none => nomatch none) List.Pairwise.nil entry
  have none : ¬ (entry ∈ ([] : Entries) ∧ entry.1.plainText ∉ Value.entryNames pairs) :=
    fun both => nomatch both.1
  rwa [or_iff_left none] at folded

end Entries
end PooledQuery
