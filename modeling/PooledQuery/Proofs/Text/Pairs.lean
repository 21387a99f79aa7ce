/-
Surrogate pairs in texts.

A text that is written with escapes and read back has lost its surrogate pairs.  Joining
them leaves none, and a text without any is left as it is.
-/
import Mathlib.Data.List.Chain
import PooledQuery.Text.CodePoint

namespace PooledQuery.Text

/-- The two code points are no surrogate pair. -/
def Apart (first second : CodePoint) : Prop :=
  leadingHalf? first = none ∨ trailingHalf? second = none

/-- No two neighbours in the text are a surrogate pair. -/
def LacksPairs (content : Text) : Prop :=
  content.IsChain Apart

instance (first second : CodePoint) : Decidable (Apart first second) :=
  inferInstanceAs (Decidable (_ ∨ _))

instance (content : Text) : Decidable content.LacksPairs :=
  inferInstanceAs (Decidable (content.IsChain Apart))

private theorem apart_char_left (c : Char) (second : CodePoint) : Apart (.char c) second :=
  .inl rfl

private theorem apart_char_right (first : CodePoint) (c : Char) : Apart first (.char c) :=
  .inr rfl

private theorem head?_pairsJoined (point : CodePoint) (rest : Text) :
    (pairsJoined (point :: rest)).head? = some point ∨
      ∃ c, (pairsJoined (point :: rest)).head? = some (.char c) := by
  cases rest with
  | nil => exact .inl rfl
  | cons second later =>
      rw [pairsJoined]
      split
      · exact .inr ⟨_, rfl⟩
      · exact .inl rfl

private theorem apart_head?_pairsJoined {first second : CodePoint} (apart : Apart first second)
    (rest : Text) : ∀ next ∈ (pairsJoined (second :: rest)).head?, Apart first next := by
  intro next starts
  rcases head?_pairsJoined second rest with same | ⟨c, character⟩
  · rw [same] at starts
    exact Option.some.inj starts ▸ apart
  · rw [character] at starts
    exact Option.some.inj starts ▸ apart_char_right first c

private theorem lacksPairs_pairsJoined (content : Text) : (pairsJoined content).LacksPairs := by
  fun_induction pairsJoined content with
  | case1 => exact .nil
  | case2 point => exact .singleton point
  | case3 first second rest high low trails leads ih =>
      exact List.isChain_cons.mpr ⟨fun next _starts => apart_char_left _ next, ih⟩
  | case4 first second rest other ih =>
      have apart : Apart first second := by
        cases leads : leadingHalf? first with
        | none => exact .inl leads
        | some high =>
            cases trails : trailingHalf? second with
            | none => exact .inr trails
            | some low => exact absurd trails (other high low leads)
      exact List.isChain_cons.mpr ⟨apart_head?_pairsJoined apart rest, ih⟩

theorem pairsJoined_of_lacksPairs {content : Text} (lacks : content.LacksPairs) :
    pairsJoined content = content := by
  fun_induction pairsJoined content with
  | case1 => rfl
  | case2 point => rfl
  | case3 first second rest high low trails leads ih =>
      rcases (List.isChain_cons_cons.mp lacks).1 with unled | untrailed
      · rw [leads] at unled
        cases unled
      · rw [trails] at untrailed
        cases untrailed
  | case4 first second rest other ih =>
      rw [ih (List.isChain_cons_cons.mp lacks).2]

theorem pairsJoined_pairsJoined (content : Text) :
    pairsJoined (pairsJoined content) = pairsJoined content :=
  pairsJoined_of_lacksPairs (lacksPairs_pairsJoined content)

private theorem leadingHalf?_lt {point : CodePoint} {high : Nat}
    (leads : leadingHalf? point = some high) :
    high < 0x400 := by
  cases point with
  | char c => cases leads
  | surrogate offset =>
      dsimp only [leadingHalf?] at leads
      split at leads
      · cases leads
        assumption
      · cases leads

private theorem trailingHalf?_lt {point : CodePoint} {low : Nat}
    (trails : trailingHalf? point = some low) :
    low < 0x400 := by
  cases point with
  | char c => cases trails
  | surrogate offset =>
      dsimp only [trailingHalf?] at trails
      split at trails
      · have bound := offset.isLt
        have value := Option.some.inj trails
        omega
      · cases trails

private theorem value_of_pair {high low : Nat} (leads : high < 0x400) (trails : low < 0x400) :
    0x10000 ≤ (CodePoint.char (Char.ofNat (0x10000 + 0x400 * high + low))).value := by
  have valid : (0x10000 + 0x400 * high + low).isValidChar := .inr (by omega)
  have number : (Char.ofNat (0x10000 + 0x400 * high + low)).toNat =
      0x10000 + 0x400 * high + low := by
    unfold Char.ofNat
    rw [dif_pos valid]
    rfl
  change _ ≤ (Char.ofNat (0x10000 + 0x400 * high + low)).toNat
  omega

private theorem pairsJoined_eq_iff {name : Text} (short : ∀ point ∈ name, point.value < 0x10000)
    (lacks : name.LacksPairs) (content : Text) : content.pairsJoined = name ↔ content = name := by
  refine ⟨fun joins => ?_, fun same => same ▸ pairsJoined_of_lacksPairs (same ▸ lacks)⟩
  clear lacks
  fun_induction pairsJoined content generalizing name with
  | case1 => exact joins
  | case2 point => exact joins
  | case3 first second rest high low trails leads ih =>
      have long := value_of_pair (leadingHalf?_lt leads) (trailingHalf?_lt trails)
      have bound := short _ (joins ▸ List.mem_cons_self)
      exact absurd bound (Nat.not_lt.mpr long)
  | case4 first second rest other ih =>
      subst joins
      exact congrArg (List.cons first)
        (ih (fun point member => short point (List.mem_cons_of_mem _ member)) rfl)

theorem pairsJoined_eq_total (content : Text) :
    content.pairsJoined = "total" ↔ content = "total" :=
  pairsJoined_eq_iff (by decide) (by decide) content

end PooledQuery.Text
