/-
How statements are written, and how they are put on one line.

Keywords are written in any letter case, with any white space between them.  A statement on
one line is its squeezed text without white space and semicolons at the end, so that whatever
stands before a code point of another kind is kept.
-/
import PooledQuery.Outline.Select
import PooledQuery.Proofs.Outline.Skipping

namespace PooledQuery

/-- White space between words. -/
structure Gap where
  text : Text
  nonempty : text ≠ []
  blank : text.IsBlank

/-- White space where there may be none. -/
structure Margin where
  text : Text
  blank : text.IsBlank

/-- A keyword in any letter case. -/
structure Spelling (keyword : Text) where
  text : Text
  isKeyword : keyword.IsKeyword
  same : Text.sameLetters keyword text = true

namespace Gap

def space : Gap := ⟨" ", by decide, by decide⟩

variable (gap : Gap)

theorem separated (text : Text) : Keyword.Separated text gap.text :=
  Keyword.separated_of_blank gap.blank

theorem endsWord_head? (rest : Text) : Keyword.endsWord (gap.text ++ rest).head? = false := by
  rw [Keyword.endsWord_head?_append_of_ne_nil gap.nonempty]
  exact Keyword.endsWord_head?_of_blank gap.blank

theorem endsWord_getLast? (front : Text) :
    Keyword.endsWord (front ++ gap.text).getLast? = false := by
  rw [List.getLast?_append, List.getLast?_eq_some_getLast gap.nonempty]
  exact CodePoint.isWord_of_isBlank (gap.blank _ (List.getLast_mem gap.nonempty))

end Gap

namespace Margin

def empty : Margin := ⟨[], by decide⟩

end Margin

namespace Spelling

variable {keyword : Text} (spelling : Spelling keyword)

theorem isWord : ∀ point ∈ spelling.text, point.isWord = true :=
  Text.isWord_of_sameLetters spelling.isKeyword.2 spelling.same

theorem isUnbroken : spelling.text.IsUnbroken :=
  Text.isUnbroken_of_isWord spelling.isWord

theorem ne_nil : spelling.text ≠ [] :=
  spelling.isKeyword.spelled_ne_nil spelling.same

theorem skips {other : Text} (longer : other.length ≠ keyword.length) :
    Keyword.Skips (Keyword.word other) spelling.text := by
  apply Keyword.skips_of_identifier spelling.isWord
  cases same : Text.sameLetters other spelling.text with
  | false => rfl
  | true =>
      have := Text.length_of_sameLetters same
      have := Text.length_of_sameLetters spelling.same
      omega

end Spelling

namespace Text

private theorem isBlank_of_trimStart {point : CodePoint} {rest : Text}
    (trimmed : trimStart (point :: rest) = point :: rest) : point.isBlank = false := by
  cases blank : point.isBlank with
  | false => rfl
  | true =>
      have shorter := List.length_dropWhile_le CodePoint.isBlank rest
      simp only [trimStart, List.dropWhile_cons, blank, if_true] at trimmed
      rw [trimmed, List.length_cons] at shorter
      omega

theorem trimStart_of_isPrefix {first second : Text} (part : first <+: second)
    (trimmed : trimStart second = second) : trimStart first = first := by
  cases first with
  | nil => rfl
  | cons point rest =>
      obtain ⟨others, rfl⟩ := part
      exact trimStart_cons_of_unblank (isBlank_of_trimStart trimmed) rest

/-- The text without white space at its end, then without semicolons, then without white
space again. -/
def withoutEnding (text : Text) : Text :=
  trimEnd (cutEnd (· == .char ';') (trimEnd text))

theorem withoutEnding_isPrefix (text : Text) : withoutEnding text <+: text :=
  (cutEnd_isPrefix _).trans ((cutEnd_isPrefix _).trans (cutEnd_isPrefix text))

theorem withoutEnding_append_kept {point : CodePoint} (unblank : point.isBlank = false)
    (other : point ≠ .char ';') (first second : Text) :
    withoutEnding (first ++ point :: second) = first ++ point :: withoutEnding second := by
  have kept : (point == CodePoint.char ';') = false := by simpa using other
  have cut : ∀ rest, cutEnd (· == CodePoint.char ';') (first ++ point :: rest) =
      first ++ point :: cutEnd (· == CodePoint.char ';') rest :=
    @cutEnd_append_kept (· == .char ';') point kept first
  simp only [withoutEnding, trimEnd_eq_cutEnd]
  rw [cutEnd_append_kept unblank, cut, cutEnd_append_kept unblank]

theorem withoutEnding_of_blank {margin : Text} (blank : IsBlank margin) :
    withoutEnding margin = [] := by
  have cut : trimEnd margin = [] := cutEnd_eq_nil blank
  rw [withoutEnding, cut]
  rfl

theorem withoutEnding_append_of_ne_nil {text : Text} (nonempty : withoutEnding text ≠ [])
    (front : Text) : withoutEnding (front ++ text) = front ++ withoutEnding text := by
  have kept : ∀ {drops : CodePoint → Bool} {text : Text}, cutEnd drops text ≠ [] →
      ∀ front, cutEnd drops (front ++ text) = front ++ cutEnd drops text := by
    intro drops text nonempty front
    rw [cutEnd_append, if_neg nonempty]
  simp only [withoutEnding, trimEnd_eq_cutEnd] at nonempty ⊢
  have inner : cutEnd (· == CodePoint.char ';') (cutEnd CodePoint.isBlank text) ≠ [] := by
    intro nothing
    rw [nothing] at nonempty
    exact nonempty rfl
  have innermost : cutEnd CodePoint.isBlank text ≠ [] := by
    intro nothing
    rw [nothing] at inner
    exact inner rfl
  rw [kept innermost, kept inner, kept nonempty]

/-- A text that ends with neither white space nor a semicolon. -/
def EndsPlain (text : Text) : Prop :=
  ∃ front last, text = front ++ [last] ∧ last.isBlank = false ∧ last ≠ .char ';'

namespace EndsPlain

variable {text : Text}

theorem ne_nil (ends : EndsPlain text) : text ≠ [] := by
  obtain ⟨front, last, rfl, _unblank, _other⟩ := ends
  simp

theorem append (ends : EndsPlain text) (first : Text) : EndsPlain (first ++ text) := by
  obtain ⟨front, last, rfl, kept⟩ := ends
  exact ⟨first ++ front, last, by simp, kept⟩

theorem withoutEnding_append (ends : EndsPlain text) (rest : Text) :
    withoutEnding (text ++ rest) = text ++ withoutEnding rest := by
  obtain ⟨front, last, rfl, unblank, other⟩ := ends
  simpa using withoutEnding_append_kept unblank other front rest

theorem trimEnd_append (ends : EndsPlain text) (rest : Text) :
    trimEnd (text ++ rest) = text ++ trimEnd rest := by
  obtain ⟨front, last, rfl, unblank, _other⟩ := ends
  simpa [trimEnd_eq_cutEnd] using cutEnd_append_kept unblank front rest

end EndsPlain

/-- A text whose last code point is a word character. -/
def EndsInWord (text : Text) : Prop :=
  ∃ front last, text = front ++ [last] ∧ last.isWord = true

namespace EndsInWord

variable {text : Text}

theorem of_isWord (nonempty : text ≠ []) (words : ∀ point ∈ text, point.isWord = true) :
    EndsInWord text := by
  obtain ⟨front, last, whole⟩ := (List.eq_nil_or_concat text).resolve_left nonempty
  rw [List.concat_eq_append] at whole
  exact ⟨front, last, whole, words last (by simp [whole])⟩

theorem append (ends : EndsInWord text) (first : Text) : EndsInWord (first ++ text) := by
  obtain ⟨front, last, rfl, word⟩ := ends
  exact ⟨first ++ front, last, by simp, word⟩

theorem endsPlain (ends : EndsInWord text) : EndsPlain text := by
  obtain ⟨front, last, whole, word⟩ := ends
  refine ⟨front, last, whole, CodePoint.isBlank_of_isWord word, ?_⟩
  rintro rfl
  cases word

end EndsInWord

theorem squeezedFrom_gap (gap : Gap) (text : Text) :
    squeezedFrom false (gap.text ++ text) = Gap.space.text ++ squeezedFrom true text := by
  have ends : endsBlank false gap.text = true := by
    rw [endsBlank, List.getLast?_eq_some_getLast gap.nonempty]
    exact gap.blank _ (List.getLast_mem gap.nonempty)
  rw [squeezedFrom_append, ends, squeezedFrom_of_blank gap.blank]
  simp [gap.nonempty]
  rfl

end Text

namespace SelectOutline

theorem normalized_eq (statement : Text) :
    normalized statement = Text.withoutEnding (Text.squeezedFrom true statement) := by
  unfold normalized Text.withoutEnding Text.trim
  rw [Text.singleSpaced_eq]
  change Text.trimEnd (Text.trimStart (Text.cutEnd _ _)) = _
  have part : Text.cutEnd (· == .char ';') (Text.trimEnd (Text.squeezedFrom true statement)) <+:
      Text.squeezedFrom true statement :=
    (Text.cutEnd_isPrefix _).trans (Text.cutEnd_isPrefix _)
  rw [Text.trimStart_of_isPrefix part (Text.trimStart_squeezedFrom_true statement)]

theorem normalized_append_word {front word rest : Text} (nonempty : word ≠ [])
    (words : ∀ point ∈ word, point.isWord = true) :
    normalized (front ++ (word ++ rest)) =
      Text.squeezedFrom true front ++
        (word ++ Text.withoutEnding (Text.squeezedFrom false rest)) := by
  have ends := (Text.EndsInWord.of_isWord nonempty words).append (Text.squeezedFrom true front)
  rw [normalized_eq, Text.squeezedFrom_append,
    Text.squeezedFrom_append_of_unbroken nonempty (Text.isUnbroken_of_isWord words),
    ← List.append_assoc, ends.endsPlain.withoutEnding_append, List.append_assoc]

/-! ### Leading words -/

open Keyword

theorem afterBlanks?_append (gap : Gap) (text : Text) :
    afterBlanks? (gap.text ++ text) = some (Text.trimStart text) := by
  obtain ⟨point, rest, opened⟩ := List.exists_cons_of_ne_nil gap.nonempty
  have isBlank := gap.blank
  rw [opened] at isBlank
  obtain ⟨blank, others⟩ := isBlank.of_cons
  simp [opened, afterBlanks?, blank, Text.trimStart_append_of_blank others]

theorem exists_of_afterBlanks? {text rest : Text} (found : afterBlanks? text = some rest) :
    ∃ gap : Gap, text = gap.text ++ rest := by
  cases text with
  | nil => cases found
  | cons point others =>
      simp only [afterBlanks?] at found
      split at found
      · rename_i blank
        cases found
        obtain ⟨margin, isBlank, whole⟩ := Text.exists_trimStart others
        have gap : Text.IsBlank (point :: margin) := List.forall_mem_cons.mpr ⟨blank, isBlank⟩
        refine ⟨⟨point :: margin, List.cons_ne_nil _ _, gap⟩, ?_⟩
        rw [List.cons_append, ← whole]
      · cases found

theorem afterLeadingWord?_append {keyword : Text} (leading : Spelling keyword) (gap : Gap)
    (text : Text) :
    afterLeadingWord? keyword (leading.text ++ (gap.text ++ text)) = some (Text.trimStart text) := by
  have found : Text.afterWord? keyword (leading.text ++ (gap.text ++ text)) =
      some (gap.text ++ text) :=
    Text.afterWord?_eq_some_iff.mpr ⟨leading.text, leading.same, rfl⟩
  unfold afterLeadingWord?
  rw [found]
  exact afterBlanks?_append gap text

theorem exists_of_afterLeadingWord? {keyword text rest : Text} (isKeyword : keyword.IsKeyword)
    (found : afterLeadingWord? keyword text = some rest) :
    ∃ (leading : Spelling keyword) (gap : Gap), text = leading.text ++ (gap.text ++ rest) := by
  unfold afterLeadingWord? at found
  obtain ⟨following, leads, follows⟩ := Option.bind_eq_some_iff.mp found
  obtain ⟨spelled, same, rfl⟩ := Text.afterWord?_eq_some_iff.mp leads
  obtain ⟨gap, rfl⟩ := exists_of_afterBlanks? follows
  exact ⟨⟨spelled, isKeyword, same⟩, gap, rfl⟩

/-- Texts after which a search for FROM begins anew. -/
structure PrecedesFrom (front : Text) : Prop where
  skips : Skips (word "FROM") front
  ends : endsWord front.getLast? = false

namespace PrecedesFrom

theorem nil : PrecedesFrom [] where
  skips := ⟨by decide, trivial⟩
  ends := rfl

theorem append {first second : Text} (former : PrecedesFrom first)
    (latter : PrecedesFrom second) : PrecedesFrom (first ++ second) where
  skips := former.skips.append Text.isKeyword_from latter.skips (Or.inl former.ends)
  ends := by
    by_cases nothing : second = []
    · rw [nothing, List.append_nil]
      exact former.ends
    · rw [List.getLast?_append, List.getLast?_eq_some_getLast nothing]
      have ends := latter.ends
      rwa [List.getLast?_eq_some_getLast nothing] at ends

theorem of_leading {keyword : Text} (other : ("FROM" : Text).length ≠ keyword.length)
    (leading : Spelling keyword) (gap : Gap) : PrecedesFrom (leading.text ++ gap.text) where
  skips := (leading.skips other).append Text.isKeyword_from
    (skips_of_isBlank Text.isKeyword_from gap.blank) (gap.separated _)
  ends := gap.endsWord_getLast? _

end PrecedesFrom

/-- What is read before the first column holds no FROM and ends outside of words. -/
theorem exists_withoutSelect (text : Text) :
    ∃ front, text = front ++ withoutSelect text ∧ PrecedesFrom front := by
  have leads {keyword following rest : Text} (isKeyword : keyword.IsKeyword)
      (other : ("FROM" : Text).length ≠ keyword.length)
      (found : afterLeadingWord? keyword following = some rest) :
      ∃ front, following = front ++ rest ∧ PrecedesFrom front := by
    obtain ⟨leading, gap, rfl⟩ := exists_of_afterLeadingWord? isKeyword found
    exact ⟨leading.text ++ gap.text, by simp, .of_leading other leading gap⟩
  unfold withoutSelect
  cases select : afterLeadingWord? "SELECT" text with
  | none => exact ⟨[], rfl, .nil⟩
  | some rest =>
      obtain ⟨front, rfl, precedes⟩ := leads Text.isKeyword_select (by decide) select
      cases distinct : afterLeadingWord? "DISTINCT" rest with
      | some following =>
          obtain ⟨more, rfl, precedes'⟩ := leads Text.isKeyword_distinct (by decide) distinct
          exact ⟨front ++ more, by simp [distinct], precedes.append precedes'⟩
      | none =>
          cases every : afterLeadingWord? "ALL" rest with
          | some following =>
              obtain ⟨more, rfl, precedes'⟩ := leads Text.isKeyword_all (by decide) every
              exact ⟨front ++ more, by simp [distinct, every], precedes.append precedes'⟩
          | none => exact ⟨front, by simp [distinct, every], precedes⟩

end SelectOutline

/-! ### Table clauses -/

namespace Source

open Keyword

/-- The part of a source clause that names the tables, up to the first join or later clause. -/
def tableClause (source : Text) : Text :=
  match first? clauseEnd source with
  | some found => found.before
  | none => source

/-- The alias or the name of the first item of a list of tables. -/
def itemName (item : Text) : Text :=
  Text.unquoted ((withoutAliasKeyword (nameAndRest item).2).headD (nameAndRest item).1)

/-- The alias or the name of the first table of a list. -/
def firstTable (tables : Text) : Text :=
  match Text.commaItems tables with
  | [] => []
  | item :: _ =>
      let (name, rest) := nameAndRest item
      Text.unquoted ((withoutAliasKeyword rest).headD name)

theorem table_eq (source : Text) : table source = firstTable (tableClause source) := rfl

theorem nameAndRest_cons {point : CodePoint} (named : point ≠ .char '(') (rest : Text) :
    nameAndRest (point :: rest) =
      match Text.words (point :: rest) with
      | [] => ([], [])
      | name :: rest => (name, rest) := by
  unfold nameAndRest
  split
  · rename_i same
    exact absurd (List.cons.inj same).1 named
  · rfl

end Source
end PooledQuery
