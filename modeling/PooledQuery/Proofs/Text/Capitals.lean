/-
Texts in capitals.

Writing the letters a to z as capitals changes neither which letter a code point is up to case,
nor whether it is white space, a word character or a certain sign.  So a text in capitals is
trimmed and split into words where the text itself is.
-/
import PooledQuery.Text.Words

namespace PooledQuery

namespace CodePoint

/-- The letters a to z as capitals, all else unchanged. -/
def capital : CodePoint → CodePoint
  | .char c => .char c.toUpper
  | .surrogate offset => .surrogate offset

theorem capital_of_not_small {c : Char} (notSmall : ¬(97 ≤ c.toNat ∧ c.toNat ≤ 122)) :
    (char c).capital = char c := by
  have unchanged : c.toUpper = c := by
    unfold Char.toUpper
    split
    · rename_i small
      exact absurd small notSmall
    · rfl
  rw [capital, unchanged]

/-- Whatever is the same for the letters a to z and their capitals is the same for every code
point and its capital. -/
theorem capital_invariant {α : Type} [DecidableEq α] (view : CodePoint → α)
    (letters : ∀ n ∈ List.range' 97 26,
      view (char (Char.ofNat n)).capital = view (char (Char.ofNat n)))
    (point : CodePoint) : view point.capital = view point := by
  cases point with
  | surrogate offset => rfl
  | char c =>
      by_cases small : 97 ≤ c.toNat ∧ c.toNat ≤ 122
      · have listed : c.toNat ∈ List.range' 97 26 := by
          rw [List.mem_range'_1]
          omega
        have same := letters c.toNat listed
        rwa [Char.ofNat_toNat] at same
      · rw [capital_of_not_small small]

private theorem small_letters :
    ∀ n ∈ List.range' 97 26,
      (char (Char.ofNat n)).capital.isBlank = (char (Char.ofNat n)).isBlank ∧
        (char (Char.ofNat n)).capital.isWord = (char (Char.ofNat n)).isWord ∧
        (char (Char.ofNat n)).capital.caseKey = (char (Char.ofNat n)).caseKey ∧
        (char (Char.ofNat n)).capital.upper = (char (Char.ofNat n)).upper := by
  decide +kernel

variable (point : CodePoint)

@[simp] theorem isBlank_capital : point.capital.isBlank = point.isBlank :=
  capital_invariant isBlank (fun n listed => (small_letters n listed).1) point

@[simp] theorem isWord_capital : point.capital.isWord = point.isWord :=
  capital_invariant isWord (fun n listed => (small_letters n listed).2.1) point

@[simp] theorem caseKey_capital : point.capital.caseKey = point.caseKey :=
  capital_invariant caseKey (fun n listed => (small_letters n listed).2.2.1) point

@[simp] theorem upper_capital : point.capital.upper = point.upper :=
  capital_invariant upper (fun n listed => (small_letters n listed).2.2.2) point

@[simp] theorem sameLetter_capital (letter : CodePoint) :
    letter.sameLetter point.capital = letter.sameLetter point := by
  rw [sameLetter, sameLetter, caseKey_capital]

theorem capital_of_not_alpha {c : Char} (noLetter : c.isAlpha = false) :
    (char c).capital = char c := by
  apply capital_of_not_small
  intro small
  have lower : c.isLower = true :=
    Bool.and_eq_true_iff.mpr ⟨decide_eq_true (UInt32.le_iff_toNat_le.mpr small.1),
      decide_eq_true (UInt32.le_iff_toNat_le.mpr small.2)⟩
  have letter : c.isAlpha = true := Bool.or_eq_true_iff.mpr (Or.inr lower)
  rw [letter] at noLetter
  cases noLetter

theorem capital_eq_char_iff {sign : Char} (noLetter : sign.isAlpha = false) :
    point.capital = char sign ↔ point = char sign := by
  constructor
  · intro same
    have alike := capital_invariant (fun other => other.char?.any Char.isAlpha) (by decide) point
    rw [same] at alike
    have plain : point.char?.any Char.isAlpha = false := alike.symm.trans noLetter
    cases point with
    | surrogate offset => exact same
    | char c => rwa [capital_of_not_alpha plain] at same
  · rintro rfl
    exact capital_of_not_alpha noLetter

end CodePoint

namespace Text

def capitals (text : Text) : Text :=
  text.map CodePoint.capital

@[simp] theorem capitals_nil : capitals [] = [] := rfl

@[simp] theorem capitals_cons (point : CodePoint) (rest : Text) :
    capitals (point :: rest) = point.capital :: capitals rest := rfl

@[simp] theorem capitals_append (first second : Text) :
    capitals (first ++ second) = capitals first ++ capitals second :=
  List.map_append

@[simp] theorem length_capitals (text : Text) : (capitals text).length = text.length :=
  List.length_map _

@[simp] theorem head?_capitals (text : Text) :
    (capitals text).head? = text.head?.map CodePoint.capital :=
  List.head?_map

@[simp] theorem getLast?_capitals (text : Text) :
    (capitals text).getLast? = text.getLast?.map CodePoint.capital :=
  List.getLast?_map

@[simp] theorem isEmpty_capitals (text : Text) : (capitals text).isEmpty = text.isEmpty := by
  cases text <;> rfl

@[simp] theorem upper_capitals (text : Text) : upper (capitals text) = upper text := by
  induction text with
  | nil => rfl
  | cons point rest ih =>
      unfold upper at ih ⊢
      rw [capitals_cons, List.flatMap_cons, List.flatMap_cons, CodePoint.upper_capital, ih]

/-! ### White space -/

section Dropping

variable {drops : CodePoint → Bool} (alike : ∀ point, drops point.capital = drops point)

include alike

theorem dropWhile_capitals (text : Text) :
    (capitals text).dropWhile drops = capitals (text.dropWhile drops) := by
  have same : drops ∘ CodePoint.capital = drops := funext alike
  rw [capitals, List.dropWhile_map, same]
  rfl

theorem takeWhile_capitals (text : Text) :
    (capitals text).takeWhile drops = capitals (text.takeWhile drops) := by
  have same : drops ∘ CodePoint.capital = drops := funext alike
  rw [capitals, List.takeWhile_map, same]
  rfl

private theorem pieces_capitals (text : Text) :
    pieces drops (capitals text) = (pieces drops text).map capitals := by
  induction text with
  | nil => rfl
  | cons point rest ih =>
      rw [capitals_cons, pieces, pieces, alike, ih]
      cases drops point with
      | true => rfl
      | false => cases pieces drops rest <;> rfl

end Dropping

theorem reverse_capitals (text : Text) : (capitals text).reverse = capitals text.reverse :=
  List.map_reverse.symm

theorem trimStart_capitals (text : Text) : trimStart (capitals text) = capitals (trimStart text) :=
  dropWhile_capitals CodePoint.isBlank_capital text

private theorem trimEnd_capitals (text : Text) :
    trimEnd (capitals text) = capitals (trimEnd text) := by
  rw [trimEnd, reverse_capitals, dropWhile_capitals CodePoint.isBlank_capital, reverse_capitals]
  rfl

theorem trim_capitals (text : Text) : trim (capitals text) = capitals (trim text) := by
  rw [trim, trimStart_capitals, trimEnd_capitals]
  rfl

theorem words_capitals (text : Text) : words (capitals text) = (words text).map capitals := by
  have visible : (fun piece : Text => !piece.isEmpty) ∘ capitals = fun piece => !piece.isEmpty := by
    funext piece
    simp
  rw [words, pieces_capitals CodePoint.isBlank_capital, List.filter_map, visible]
  rfl

private theorem joined_capitals {separator : Text} (plain : capitals separator = separator)
    (parts : List Text) : joined separator (parts.map capitals) = capitals (joined separator parts) := by
  induction parts with
  | nil => rfl
  | cons part others ih =>
      cases others with
      | nil => simp [joined]
      | cons next more =>
          unfold joined at ih ⊢
          rw [List.map_cons, List.map_cons, List.intercalate_cons_cons, ← List.map_cons, ih,
            List.intercalate_cons_cons, capitals_append, capitals_append, plain]

theorem singleSpaced_capitals (text : Text) :
    singleSpaced (capitals text) = capitals (singleSpaced text) := by
  rw [singleSpaced, words_capitals, joined_capitals rfl]
  rfl

end Text
end PooledQuery
