/-
Keywords in statement texts.

A keyword is recognized as a whole word, in any letter case, so only the code point before it and
the one after it matter.
-/
import PooledQuery.Outline.Keyword
import PooledQuery.Proofs.Text.Letters
import PooledQuery.Proofs.Text.Spacing

namespace PooledQuery

namespace Text

/-- A word of ASCII letters and underscores. -/
def IsKeyword (word : Text) : Prop :=
  word ≠ [] ∧ ∀ letter ∈ word, letter.isKeywordLetter = true

instance (word : Text) : Decidable (IsKeyword word) :=
  inferInstanceAs (Decidable (_ ∧ ∀ letter ∈ word, letter.isKeywordLetter = true))

theorem isKeyword_with : IsKeyword "WITH" := by decide
theorem isKeyword_select : IsKeyword "SELECT" := by decide
theorem isKeyword_distinct : IsKeyword "DISTINCT" := by decide
theorem isKeyword_all : IsKeyword "ALL" := by decide
theorem isKeyword_as : IsKeyword "AS" := by decide
theorem isKeyword_from : IsKeyword "FROM" := by decide

theorem afterWord?_eq_some_iff {word text rest : Text} :
    afterWord? word text = some rest ↔
      ∃ spelled, sameLetters word spelled = true ∧ text = spelled ++ rest := by
  induction word generalizing text with
  | nil =>
      constructor
      · intro found
        exact ⟨[], rfl, Option.some.inj found⟩
      · rintro ⟨spelled, same, rfl⟩
        cases spelled with
        | nil => rfl
        | cons point others => cases same
  | cons letter others ih =>
      constructor
      · intro found
        cases text with
        | nil => cases found
        | cons point following =>
            simp only [afterWord?] at found
            split at found
            · rename_i same
              obtain ⟨spelled, alike, rfl⟩ := ih.mp found
              exact ⟨point :: spelled, by simp [sameLetters, same, alike], rfl⟩
            · cases found
      · rintro ⟨spelled, same, rfl⟩
        cases spelled with
        | nil => cases same
        | cons point following =>
            simp only [sameLetters, Bool.and_eq_true] at same
            simp only [List.cons_append, afterWord?, same.1, if_true]
            exact ih.mpr ⟨following, same.2, rfl⟩

variable {word spelled : Text}

theorem length_of_sameLetters (same : sameLetters word spelled = true) :
    word.length = spelled.length := by
  induction word generalizing spelled with
  | nil =>
      cases spelled with
      | nil => rfl
      | cons point rest => cases same
  | cons letter others ih =>
      cases spelled with
      | nil => cases same
      | cons point rest =>
          simp only [sameLetters, Bool.and_eq_true] at same
          simp [ih same.2]

theorem IsKeyword.spelled_ne_nil (keyword : IsKeyword word)
    (same : sameLetters word spelled = true) : spelled ≠ [] := by
  rintro rfl
  exact keyword.1 (List.length_eq_zero_iff.mp (length_of_sameLetters same))

theorem isWord_of_sameLetters (letters : ∀ letter ∈ word, letter.isKeywordLetter = true)
    (same : sameLetters word spelled = true) : ∀ point ∈ spelled, point.isWord = true := by
  induction word generalizing spelled with
  | nil =>
      cases spelled with
      | nil => simp
      | cons point rest => cases same
  | cons letter others ih =>
      cases spelled with
      | nil => cases same
      | cons point rest =>
          simp only [sameLetters, Bool.and_eq_true] at same
          obtain ⟨first, later⟩ := List.forall_mem_cons.mp letters
          exact List.forall_mem_cons.mpr
            ⟨CodePoint.sameLetter_isWord first same.1, ih later same.2⟩

theorem isUnbroken_of_isWord {text : Text} (words : ∀ point ∈ text, point.isWord = true) :
    IsUnbroken text :=
  fun point member => CodePoint.isBlank_of_isWord (words point member)

end Text

namespace Keyword

@[simp] theorem endsWord_none : endsWord none = false := rfl

@[simp] theorem endsWord_some (point : CodePoint) : endsWord (some point) = point.isWord := rfl

theorem endsWord_head?_append_of_ne_nil {first : Text} (nonempty : first ≠ []) (second : Text) :
    endsWord (first ++ second).head? = endsWord first.head? := by
  cases first with
  | nil => exact absurd rfl nonempty
  | cons point rest => rfl

theorem endsWord_head?_of_blank {text : Text} (blank : text.IsBlank) :
    endsWord text.head? = false := by
  cases text with
  | nil => rfl
  | cons point rest => exact CodePoint.isWord_of_isBlank blank.of_cons.1

theorem endsWord_getLast?_of_blank {text : Text} (blank : text.IsBlank) :
    endsWord text.getLast? = false := by
  cases last : text.getLast? with
  | none => rfl
  | some point => exact CodePoint.isWord_of_isBlank (blank point (List.mem_of_getLast? last))

theorem endsWord_head?_of_isPrefix (part : first <+: second)
    (plain : endsWord second.head? = false) : endsWord first.head? = false := by
  cases first with
  | nil => rfl
  | cons point rest =>
      obtain ⟨others, rfl⟩ := part
      exact plain

variable {keyword : Text} {before : Option CodePoint} {nesting : Nesting}
  {text following rest : Text}

theorem phrase_eq_some_iff {words : List Text} :
    phrase words before text = some rest ↔
      endsWord before = false ∧ afterPhrase? words text = some rest ∧
        endsWord rest.head? = false := by
  unfold phrase
  cases endsWord before with
  | true => simp
  | false =>
      cases found : afterPhrase? words text with
      | none => simp
      | some after =>
          by_cases ends : endsWord after.head? = true
          · simp only [ends, Bool.false_eq_true, if_false, if_true, true_and]
            constructor
            · intro impossible
              cases impossible
            · rintro ⟨same, ends'⟩
              rw [Option.some.inj same, ends'] at ends
              cases ends
          · simp only [ends, Bool.false_eq_true, if_false, true_and]
            constructor
            · intro same
              rw [← Option.some.inj same]
              exact ⟨rfl, by simpa using ends⟩
            · exact fun both => both.1

theorem word_eq_some_iff :
    word keyword before text = some rest ↔
      endsWord before = false ∧
        (∃ spelled, Text.sameLetters keyword spelled = true ∧ text = spelled ++ rest) ∧
        endsWord rest.head? = false := by
  rw [← Text.afterWord?_eq_some_iff]
  exact phrase_eq_some_iff

theorem word_congr_before {other : Option CodePoint} (same : endsWord other = endsWord before) :
    word keyword other text = word keyword before text := by
  unfold word phrase
  rw [same]

theorem firstFrom_congr_before {other : Option CodePoint}
    (same : endsWord other = endsWord before) :
    firstFrom (word keyword) other nesting text = firstFrom (word keyword) before nesting text := by
  cases text with
  | nil => rfl
  | cons point rest => rw [firstFrom, firstFrom, word_congr_before same]

theorem isWord_of_word {point : CodePoint} (isKeyword : Text.IsKeyword keyword)
    (found : word keyword before (point :: text) = some rest) : point.isWord = true := by
  obtain ⟨_begins, ⟨spelled, same, whole⟩, _ends⟩ := word_eq_some_iff.mp found
  have nonempty := isKeyword.spelled_ne_nil same
  obtain ⟨first, others, rfl⟩ := List.exists_cons_of_ne_nil nonempty
  cases whole
  exact Text.isWord_of_sameLetters isKeyword.2 same point List.mem_cons_self

theorem word_of_not_isWord {point : CodePoint} (isKeyword : Text.IsKeyword keyword)
    (plain : point.isWord = false) : word keyword before (point :: text) = none := by
  cases found : word keyword before (point :: text) with
  | none => rfl
  | some rest =>
      rw [isWord_of_word isKeyword found] at plain
      cases plain

/-! ### Changed texts

A recognizer recognizes in a changed text what it does in the text itself, if every part of it
does. -/

variable {change : Text → Text} {other : Option CodePoint}

theorem afterPhrase?_map {words : List Text}
    (spelled : ∀ word ∈ words, ∀ text,
      Text.afterWord? word (change text) = (Text.afterWord? word text).map change)
    (spaced : ∀ text, afterBlanks? (change text) = (afterBlanks? text).map change) (text : Text) :
    afterPhrase? words (change text) = (afterPhrase? words text).map change := by
  induction words generalizing text with
  | nil => rfl
  | cons keyword others ih =>
      obtain ⟨first, later⟩ := List.forall_mem_cons.mp spelled
      cases others with
      | nil => exact first text
      | cons next more =>
          simp only [afterPhrase?, first, Option.bind_eq_bind]
          cases Text.afterWord? keyword text with
          | none => rfl
          | some rest =>
              simp only [Option.map_some, Option.bind_some, spaced]
              cases afterBlanks? rest with
              | none => rfl
              | some following => exact ih later following

theorem phrase_map {words : List Text} (same : endsWord other = endsWord before)
    (alike : afterPhrase? words (change text) = (afterPhrase? words text).map change)
    (heads : ∀ rest, endsWord (change rest).head? = endsWord rest.head?) :
    phrase words other (change text) = (phrase words before text).map change := by
  unfold phrase
  rw [same, alike]
  cases endsWord before with
  | true => rfl
  | false =>
      cases afterPhrase? words text with
      | none => rfl
      | some rest =>
          simp only [Option.map_some, heads, Bool.false_eq_true, if_false]
          split <;> rfl

theorem firstOf_map {choices : List Recognizer}
    (each : ∀ recognize ∈ choices,
      recognize other (change text) = (recognize before text).map change) :
    firstOf choices other (change text) = (firstOf choices before text).map change := by
  induction choices with
  | nil => rfl
  | cons recognize others ih =>
      obtain ⟨first, later⟩ := List.forall_mem_cons.mp each
      have following := ih later
      simp only [firstOf, List.findSome?_cons, first] at following ⊢
      cases recognize before text with
      | none => exact following
      | some rest => rfl

/-- A single character, whatever is before it. -/
def mark (sign : Char) : Recognizer := fun _before text =>
  match text with
  | [] => none
  | point :: rest => if point = .char sign then some rest else none

end Keyword
end PooledQuery
