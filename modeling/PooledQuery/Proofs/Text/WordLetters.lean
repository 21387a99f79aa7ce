/-
Word characters in either case.

Caseless equals are word characters alike, with one exception: the iota that is written below
another letter is a mark and no word character, but it is a caseless equal of the letter iota.
-/
import PooledQuery.Text.Classes

namespace PooledQuery

namespace CodePoint

def lowIota : CodePoint :=
  .char '\u0345'

private def isWordValue (n : Nat) : Bool :=
  if n < 128 then (Char.ofNat n).isAlphanum || n == 95 else Text.inRanges Text.letterRanges n

private theorem isWord_eq (point : CodePoint) : point.isWord = isWordValue point.value := by
  cases point with
  | surrogate offset =>
      have outside : ∀ range ∈ Text.letterRanges, range.2 < 0xD800 ∨ 0xE000 ≤ range.1 := by
        decide +kernel
      have beyond : ¬ 0xD800 + offset.val < 128 := by omega
      change false = isWordValue (0xD800 + offset.val)
      rw [isWordValue, if_neg beyond, Text.inRanges, eq_comm, List.any_eq_false]
      intro range member
      have apart := outside range member
      simp only [Bool.and_eq_true, decide_eq_true_eq]
      omega
  | char c =>
      have sign : (char c == char '_') = (c.toNat == 95) := by
        rw [Bool.eq_iff_iff, beq_iff_eq, beq_iff_eq, char.injEq]
        exact ⟨fun same => same ▸ rfl, fun same => Char.toNat_inj.mp same⟩
      change (char c == char '_' || isAlphanumeric (char c)) = isWordValue c.toNat
      rw [sign, isAlphanumeric, isWordValue]
      by_cases ascii : c.toNat < 128
      · rw [if_pos ascii, if_pos ascii, Char.ofNat_toNat, Bool.or_comm]
      · have other : (c.toNat == 95) = false := by
          rw [beq_eq_false_iff_ne]
          omega
        rw [if_neg ascii, if_neg ascii, other, Bool.false_or]

/-! ### Lower case -/

/-- Whether one range of letters holds all numbers from the first to the last. -/
private def isCovered (first last : Nat) : Bool :=
  Nat.ble 128 first &&
    Text.letterRanges.any fun range => Nat.ble range.1 first && Nat.ble last range.2

private theorem isWordValue_of_covered {first last n : Nat} (covered : isCovered first last = true)
    (above : first ≤ n) (below : n ≤ last) : isWordValue n = true := by
  simp only [isCovered, Bool.and_eq_true, Nat.ble_eq, List.any_eq_true] at covered
  obtain ⟨beyond, range, listed, low, high⟩ := covered
  rw [isWordValue, if_neg (by omega), Text.inRanges, List.any_eq_true]
  refine ⟨range, listed, ?_⟩
  simp only [Bool.and_eq_true, decide_eq_true_eq]
  omega

/-- Whether no range of letters meets the numbers from the first to the last. -/
private def isMissed (first last : Nat) : Bool :=
  Nat.ble 128 first &&
    Text.letterRanges.all fun range => Nat.blt last range.1 || Nat.blt range.2 first

private theorem isWordValue_of_missed {first last n : Nat} (missed : isMissed first last = true)
    (above : first ≤ n) (below : n ≤ last) : isWordValue n = false := by
  simp only [isMissed, Bool.and_eq_true, Bool.or_eq_true, Nat.ble_eq, Nat.blt_eq,
    List.all_eq_true] at missed
  obtain ⟨beyond, apart⟩ := missed
  rw [isWordValue, if_neg (by omega), Text.inRanges, List.any_eq_false]
  intro range listed
  have outside := apart range listed
  simp only [Bool.and_eq_true, decide_eq_true_eq]
  omega

/-- Whether a run of the lower-case mapping leads from word characters to such, and from others
to others.  Most runs lie within one range of letters, and so do their images. -/
private def keepsWords (run : Text.CaseRun) : Bool :=
  let moved (n : Nat) : Nat := ((n : Int) + run.shift).toNat
  isCovered run.first run.last && isCovered (moved run.first) (moved run.last) ||
    isMissed run.first run.last && isMissed (moved run.first) (moved run.last) ||
    (List.range' run.first (run.last + 1 - run.first)).all fun n =>
      (n - run.first) % run.stride != 0 || isWordValue (moved n) == isWordValue n

private theorem lowerRuns_keepsWords : ∀ run ∈ Text.lowerRuns, keepsWords run = true := by
  decide +kernel

private theorem lowerRuns_apart :
    ∀ run ∈ Text.lowerRuns, run.last + run.shift < 0x345 ∨ 0x345 < run.first + run.shift := by
  decide +kernel

private theorem isWordValue_shifted (n : Nat) :
    isWordValue (Text.shifted Text.lowerRuns n) = isWordValue n := by
  unfold Text.shifted
  split
  · rename_i run found
    have keeps := lowerRuns_keepsWords run (List.mem_of_find?_eq_some found)
    have range := List.find?_some found
    simp only [Bool.and_eq_true, decide_eq_true_eq, beq_iff_eq] at range
    obtain ⟨⟨above, below⟩, inStride⟩ := range
    simp only [keepsWords, Bool.or_eq_true, Bool.and_eq_true] at keeps
    rcases keeps with (⟨here, moved⟩ | ⟨here, moved⟩) | each
    · rw [isWordValue_of_covered here above below,
        isWordValue_of_covered moved (by omega) (by omega)]
    · rw [isWordValue_of_missed here above below,
        isWordValue_of_missed moved (by omega) (by omega)]
    · have listed : n ∈ List.range' run.first (run.last + 1 - run.first) := by
        rw [List.mem_range'_1]
        omega
      have kept := List.all_eq_true.mp each n listed
      simpa [inStride] using kept
  · rfl

private theorem lowerValue_ascii : ∀ n < 128,
    isWordValue (Char.ofNat n).toLower.toNat = isWordValue n ∧ (Char.ofNat n).toLower.toNat ≠ 0x345 := by
  decide +kernel

private theorem isWordValue_lowerValue (point : CodePoint) :
    isWordValue point.lowerValue = isWordValue point.value := by
  cases point with
  | surrogate offset => rfl
  | char c =>
      by_cases ascii : c.toNat < 128
      · have kept := (lowerValue_ascii c.toNat ascii).1
        rw [Char.ofNat_toNat] at kept
        simpa only [lowerValue, if_pos ascii, value] using kept
      · simpa only [lowerValue, if_neg ascii, value] using isWordValue_shifted c.toNat

private theorem eq_lowIota {point : CodePoint} (lower : point.lowerValue = 0x345) :
    point = lowIota := by
  cases point with
  | surrogate offset =>
      simp only [lowerValue] at lower
      omega
  | char c =>
      have same : c.toNat = 0x345 → char c = lowIota := by
        intro number
        rw [← Char.ofNat_toNat c, number]
        rfl
      by_cases ascii : c.toNat < 128
      · have other := (lowerValue_ascii c.toNat ascii).2
        rw [Char.ofNat_toNat] at other
        simp only [lowerValue, if_pos ascii] at lower
        exact absurd lower other
      · simp only [lowerValue, if_neg ascii, Text.shifted] at lower
        split at lower
        · rename_i run found
          have apart := lowerRuns_apart run (List.mem_of_find?_eq_some found)
          have range := List.find?_some found
          simp only [Bool.and_eq_true, decide_eq_true_eq] at range
          omega
        · exact same lower

/-! ### Caseless equals -/

private theorem caseVariants_keepWords : ∀ entry ∈ Text.caseVariants,
    isWordValue entry.1 = (isWordValue entry.2 || entry.2 == 0x345) := by
  decide +kernel

/-- But for the low iota, the key tells whether a code point is a word character. -/
private theorem isWord_eq_of_caseKey {point : CodePoint} (other : point ≠ lowIota) :
    point.isWord = (isWordValue point.caseKey || point.caseKey == 0x345) := by
  rw [isWord_eq, ← isWordValue_lowerValue]
  unfold caseKey
  dsimp only
  split
  · rename_i entry found
    have kept := caseVariants_keepWords entry (List.mem_of_find?_eq_some found)
    have same : entry.1 = point.lowerValue := by simpa using List.find?_some found
    rw [← same, kept]
  · have different : (point.lowerValue == 0x345) = false := by
      rw [beq_eq_false_iff_ne]
      exact fun lower => other (eq_lowIota lower)
    rw [different, Bool.or_false]

theorem isWord_of_sameLetter {left right : CodePoint} (same : left.sameLetter right = true)
    (word : left.isWord = true) : right.isWord = true ∨ right = lowIota := by
  by_cases low : right = lowIota
  · exact .inr low
  · have other : left ≠ lowIota := by
      rintro rfl
      exact absurd word (by decide +kernel)
    have keys : left.caseKey = right.caseKey := by simpa [sameLetter] using same
    rw [isWord_eq_of_caseKey other, keys, ← isWord_eq_of_caseKey low] at word
    exact .inl word

example : (char 'ι').isWord = true ∧ (char 'ι').sameLetter lowIota = true ∧
    lowIota.isWord = false := by
  decide +kernel

end CodePoint
end PooledQuery
