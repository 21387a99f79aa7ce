/-
The first entries of a log.

Entries that are added one after the other leave behind the first entry of every key, in
the order in which they came.  Their keys differ, so a key finds one entry at most.
-/
import PooledQuery.SlowLog

namespace PooledQuery.SlowLog

/-- The entries that are the first of their keys. -/
def firstOfEachKey : List SlowEntry → SlowLog
  | [] => []
  | entry :: rest => entry :: (firstOfEachKey rest).filter fun later => later.key != entry.key

def Distinct (log : SlowLog) : Prop :=
  log.Pairwise fun former latter => former.key ≠ latter.key

variable {log entries : List SlowEntry} {entry : SlowEntry} {key : Text}

theorem has_eq_true_iff : has log key = true ↔ ∃ entry ∈ log, entry.key = key := by
  unfold has get?
  rw [List.find?_isSome]
  simp only [beq_iff_eq]

private theorem has_cons : has (entry :: log) key = (entry.key == key || has log key) := by
  unfold has get?
  rw [List.find?_cons]
  cases entry.key == key <;> rfl

private theorem has_filter {other : Text} (different : key ≠ other) :
    has (log.filter fun later => later.key != other) key = has log key := by
  rw [Bool.eq_iff_iff, has_eq_true_iff, has_eq_true_iff]
  constructor
  · rintro ⟨entry, member, same⟩
    exact ⟨entry, (List.mem_filter.mp member).1, same⟩
  · rintro ⟨entry, member, rfl⟩
    exact ⟨entry, List.mem_filter.mpr ⟨member, bne_iff_ne.mpr different⟩, rfl⟩

theorem mem_of_mem_firstOfEachKey (member : entry ∈ firstOfEachKey entries) : entry ∈ entries := by
  induction entries with
  | nil => cases member
  | cons head rest ih =>
      rcases List.mem_cons.mp member with rfl | later
      · exact List.mem_cons_self
      · exact List.mem_cons_of_mem head (ih (List.mem_filter.mp later).1)

theorem firstOfEachKey_distinct (entries : List SlowEntry) : Distinct (firstOfEachKey entries) := by
  induction entries with
  | nil => exact List.Pairwise.nil
  | cons head rest ih =>
      refine List.Pairwise.cons (fun later member => ?_) (List.Pairwise.filter _ ih)
      exact (bne_iff_ne.mp (List.mem_filter.mp member).2).symm

/-- An entry stays if no entry before it has its key. -/
theorem mem_firstOfEachKey_iff :
    entry ∈ firstOfEachKey entries ↔ ∃ before after, entries = before ++ entry :: after ∧
      ∀ earlier ∈ before, earlier.key ≠ entry.key := by
  induction entries with
  | nil =>
      constructor
      · intro member
        cases member
      · rintro ⟨before, after, split, _⟩
        exact absurd split.symm (List.append_ne_nil_of_right_ne_nil before (List.cons_ne_nil _ _))
  | cons head rest ih =>
      unfold firstOfEachKey
      rw [List.mem_cons, List.mem_filter, ih, bne_iff_ne]
      constructor
      · rintro (rfl | ⟨⟨before, after, rfl, first⟩, different⟩)
        · exact ⟨[], rest, rfl, fun _earlier member => nomatch member⟩
        · refine ⟨head :: before, after, rfl, fun earlier member => ?_⟩
          rcases List.mem_cons.mp member with rfl | later
          · exact different.symm
          · exact first earlier later
      · rintro ⟨before, after, split, first⟩
        cases before with
        | nil => exact .inl (List.cons.inj split).1.symm
        | cons earliest before =>
            obtain ⟨rfl, rfl⟩ := List.cons.inj split
            refine .inr ⟨⟨before, after, rfl, fun earlier member => ?_⟩, ?_⟩
            · exact first earlier (List.mem_cons_of_mem head member)
            · exact (first head List.mem_cons_self).symm

/-- Adding an entry at the end is what the log does. -/
theorem firstOfEachKey_concat (entries : List SlowEntry) (entry : SlowEntry) :
    firstOfEachKey (entries ++ [entry]) = (add (firstOfEachKey entries) entry).2 := by
  induction entries with
  | nil => rfl
  | cons head rest ih =>
      change head :: (firstOfEachKey (rest ++ [entry])).filter _ =
        (add (head :: (firstOfEachKey rest).filter _) entry).2
      rw [ih]
      unfold add
      rw [has_cons]
      by_cases same : head.key = entry.key
      · -- The first entry has the key already, and what comes after it is left out.
        rw [beq_iff_eq.mpr same, Bool.true_or, if_pos rfl]
        have leftOut : [entry].filter (fun later => later.key != head.key) = [] := by
          rw [same]
          exact List.filter_cons_of_neg (by rw [bne_self_eq_false]; exact Bool.false_ne_true)
        cases has (firstOfEachKey rest) entry.key with
        | true => rfl
        | false =>
            rw [if_neg Bool.false_ne_true, List.filter_append, leftOut, List.append_nil]
      · rw [beq_eq_false_iff_ne.mpr same, Bool.false_or, has_filter (Ne.symm same)]
        have kept : [entry].filter (fun later => later.key != head.key) = [entry] := by
          exact List.filter_cons_of_pos (bne_iff_ne.mpr (Ne.symm same))
        cases has (firstOfEachKey rest) entry.key with
        | true => rfl
        | false =>
            rw [if_neg Bool.false_ne_true, if_neg Bool.false_ne_true, List.filter_append, kept]
            rfl

theorem get?_eq_some_iff (distinct : Distinct log) :
    get? log key = some entry ↔ entry ∈ log ∧ entry.key = key := by
  unfold get?
  constructor
  · intro found
    have same := List.find?_some found
    exact ⟨List.mem_of_find?_eq_some found, beq_iff_eq.mp same⟩
  · rintro ⟨member, rfl⟩
    induction log with
    | nil => cases member
    | cons head rest ih =>
        obtain ⟨apart, distinct⟩ := List.pairwise_cons.mp distinct
        rw [List.find?_cons]
        rcases List.mem_cons.mp member with rfl | later
        · rw [beq_self_eq_true]
        · rw [beq_eq_false_iff_ne.mpr (apart entry later)]
          exact ih distinct later

end PooledQuery.SlowLog
