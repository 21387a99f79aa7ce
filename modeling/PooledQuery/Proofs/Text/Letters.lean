/-
Letters of keywords.

A keyword consists of ASCII letters and underscores.  Their caseless equals beyond ASCII are
the dotted and the dotless i, the long s and the Kelvin sign, so that everything that spells
a keyword consists of word characters: it has no white space, no punctuation and no quote.
-/
import PooledQuery.Text.Words

namespace PooledQuery

namespace CodePoint

/-- Whether a code point is an ASCII letter or an underscore, up to letter case. -/
def isKeywordLetter (point : CodePoint) : Bool :=
  (97 ≤ point.caseKey && point.caseKey ≤ 122) || point.caseKey == 95

/-- The code points that count as white space. -/
def blankValues : List Nat :=
  [9, 10, 11, 12, 13, 28, 29, 30, 31, 32, 0x85, 0xA0, 0x1680, 0x2000, 0x2001, 0x2002, 0x2003,
    0x2004, 0x2005, 0x2006, 0x2007, 0x2008, 0x2009, 0x200A, 0x2028, 0x2029, 0x202F, 0x205F, 0x3000]

private theorem mem_blankValues {point : CodePoint} (blank : point.isBlank = true) :
    point.value ∈ blankValues := by
  simp [isBlank] at blank
  simp only [blankValues, List.mem_cons, List.not_mem_nil, or_false]
  omega

private theorem isWord_blankValues :
    ∀ value ∈ blankValues, (char (Char.ofNat value)).isWord = false := by
  decide +kernel

theorem isBlank_of_isWord {point : CodePoint} (word : point.isWord = true) :
    point.isBlank = false := by
  cases blank : point.isBlank with
  | false => rfl
  | true =>
      have listed := mem_blankValues blank
      cases point with
      | surrogate offset => simp [isWord, isAlphanumeric] at word
      | char c =>
          have plain := isWord_blankValues c.toNat listed
          rw [Char.ofNat_toNat, word] at plain
          cases plain

theorem isWord_of_isBlank {point : CodePoint} (blank : point.isBlank = true) :
    point.isWord = false := by
  cases word : point.isWord with
  | false => rfl
  | true =>
      rw [isBlank_of_isWord word] at blank
      cases blank

/-! ### Caseless equals of ASCII letters -/

private theorem lowerRuns_images :
    ∀ run ∈ Text.lowerRuns,
      run.first = run.last ∧ (run.first = 0x130 ∨ run.first = 0x212A) ∨
        128 ≤ run.first + run.shift ∧
          (run.last + run.shift < 0x131 ∨ 0x131 < run.first + run.shift) ∧
          (run.last + run.shift < 0x17F ∨ 0x17F < run.first + run.shift) := by
  decide +kernel

private theorem caseVariants_images :
    ∀ entry ∈ Text.caseVariants, entry.1 = 0x131 ∨ entry.1 = 0x17F ∨ 128 ≤ entry.2 := by
  decide +kernel

/-- A lower-case form in ASCII belongs to an ASCII character, or to one of two others. -/
private theorem lowerValue_cases (c : Char) (beyond : 128 ≤ c.toNat) :
    c.toNat = 0x130 ∨ c.toNat = 0x212A ∨ c.toNat = 0x131 ∨ c.toNat = 0x17F ∨
      128 ≤ (char c).lowerValue ∧ (char c).lowerValue ≠ 0x131 ∧ (char c).lowerValue ≠ 0x17F := by
  have lower : (char c).lowerValue = Text.shifted Text.lowerRuns c.toNat := by
    simp [lowerValue, Nat.not_lt.mpr beyond]
  rw [lower]
  unfold Text.shifted
  split
  · rename_i run found
    have images := lowerRuns_images run (List.mem_of_find?_eq_some found)
    have range := List.find?_some found
    simp only [Bool.and_eq_true, decide_eq_true_eq] at range
    omega
  · omega

private theorem caseKey_beyond {point : CodePoint} (beyond : 128 ≤ point.lowerValue)
    (dotless : point.lowerValue ≠ 0x131) (long : point.lowerValue ≠ 0x17F) :
    128 ≤ point.caseKey := by
  unfold caseKey
  dsimp only
  split
  · rename_i entry found
    have images := caseVariants_images entry (List.mem_of_find?_eq_some found)
    have same := List.find?_some found
    simp only [beq_iff_eq] at same
    omega
  · exact beyond

/-- The numbers of the code points whose keys may be in ASCII: ASCII itself and four others. -/
private def asciiKeyed : List Nat :=
  List.range 128 ++ [0x130, 0x212A, 0x131, 0x17F]

private theorem exists_mem_asciiKeyed {point : CodePoint} (small : point.caseKey < 128) :
    ∃ c : Char, point = char c ∧ c.toNat ∈ asciiKeyed := by
  cases point with
  | surrogate offset =>
      have beyond : 128 ≤ (surrogate offset).caseKey := by
        apply caseKey_beyond <;> simp only [lowerValue] <;> omega
      omega
  | char c =>
      refine ⟨c, rfl, ?_⟩
      unfold asciiKeyed
      by_cases ascii : c.toNat < 128
      · simp [ascii]
      · rcases lowerValue_cases c (Nat.le_of_not_lt ascii) with
          dotted | kelvin | dotless | long | ⟨beyond, notDotless, notLong⟩
        · simp [dotted]
        · simp [kelvin]
        · simp [dotless]
        · simp [long]
        · have := caseKey_beyond beyond notDotless notLong
          omega

private theorem of_asciiKeyed :
    ∀ n ∈ asciiKeyed,
      ((char (Char.ofNat n)).isKeywordLetter = true → (char (Char.ofNat n)).isWord = true) ∧
        ((char (Char.ofNat n)).caseKey = 97 → (char (Char.ofNat n)).upper = [char 'A']) ∧
        ((char (Char.ofNat n)).caseKey = 115 → (char (Char.ofNat n)).upper = [char 'S']) := by
  decide +kernel

private theorem isWord_of_isKeywordLetter {point : CodePoint}
    (letter : point.isKeywordLetter = true) :
    point.isWord = true := by
  have small : point.caseKey < 128 := by
    simp [isKeywordLetter] at letter
    omega
  obtain ⟨c, rfl, listed⟩ := exists_mem_asciiKeyed small
  have known := (of_asciiKeyed c.toNat listed).1
  rw [Char.ofNat_toNat] at known
  exact known letter

theorem sameLetter_isWord {letter point : CodePoint} (keyword : letter.isKeywordLetter = true)
    (same : letter.sameLetter point = true) : point.isWord = true := by
  apply isWord_of_isKeywordLetter
  simp only [sameLetter, beq_iff_eq] at same
  unfold isKeywordLetter at keyword ⊢
  rwa [← same]

def isAsciiWord : CodePoint → Bool
  | .char c => c.toNat < 128 && (char c).isWord
  | .surrogate _ => false

theorem isWord_of_isAsciiWord {point : CodePoint} (ascii : point.isAsciiWord = true) :
    point.isWord = true := by
  cases point with
  | char c => exact (Bool.and_eq_true_iff.mp ascii).2
  | surrogate offset => cases ascii

/-! ### Upper case -/

private theorem upper_ascii :
    ∀ n < 128, (char (Char.ofNat n)).upper = [char (Char.ofNat n).toUpper] ∧
      (char (Char.ofNat n).toUpper).sameLetter (char (Char.ofNat n)) = true := by
  decide +kernel

private theorem exists_upper {point : CodePoint} (ascii : point.isAsciiWord = true) :
    ∃ letter, point.upper = [letter] ∧ letter.sameLetter point = true := by
  cases point with
  | surrogate offset => cases ascii
  | char c =>
      have small : c.toNat < 128 := by
        simp only [isAsciiWord, Bool.and_eq_true, decide_eq_true_eq] at ascii
        exact ascii.1
      have known := upper_ascii c.toNat small
      rw [Char.ofNat_toNat] at known
      exact ⟨_, known⟩

theorem upper_of_caseKey (point : CodePoint) :
    (point.caseKey = 97 → point.upper = [char 'A']) ∧
      (point.caseKey = 115 → point.upper = [char 'S']) := by
  by_cases small : point.caseKey < 128
  · obtain ⟨c, rfl, listed⟩ := exists_mem_asciiKeyed small
    have known := (of_asciiKeyed c.toNat listed).2
    rwa [Char.ofNat_toNat] at known
  · exact ⟨fun same => by omega, fun same => by omega⟩

end CodePoint

namespace Text

theorem sameLetters_upper {text : Text} (ascii : ∀ point ∈ text, point.isAsciiWord = true) :
    sameLetters (upper text) text = true := by
  induction text with
  | nil => rfl
  | cons point rest ih =>
      obtain ⟨first, others⟩ := List.forall_mem_cons.mp ascii
      obtain ⟨letter, single, same⟩ := CodePoint.exists_upper first
      have later := ih others
      unfold upper at later ⊢
      rw [List.flatMap_cons, single]
      simp [sameLetters, same, later]

theorem upper_of_sameLetters {word spelled : Text}
    (letters : ∀ letter ∈ word, letter = .char 'A' ∨ letter = .char 'S')
    (same : sameLetters word spelled = true) : upper spelled = word := by
  induction word generalizing spelled with
  | nil =>
      cases spelled with
      | nil => rfl
      | cons point rest => cases same
  | cons letter others ih =>
      cases spelled with
      | nil => cases same
      | cons point rest =>
          simp only [sameLetters, Bool.and_eq_true] at same
          obtain ⟨first, later⟩ := List.forall_mem_cons.mp letters
          have keys := same.1
          simp only [CodePoint.sameLetter, beq_iff_eq] at keys
          have single : point.upper = [letter] := by
            rcases first with rfl | rfl
            · exact (CodePoint.upper_of_caseKey point).1 keys.symm
            · exact (CodePoint.upper_of_caseKey point).2 keys.symm
          have following := ih later same.2
          unfold upper at following ⊢
          rw [List.flatMap_cons, single, following]
          rfl

end Text
end PooledQuery
