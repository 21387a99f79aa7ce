/-
Balanced texts without a keyword.

A text that a search skips is balanced and has nothing for which the search would stop outside
parentheses and quotes.  Such texts can be put together and squeezed, and a search that meets
one goes on after it.
-/
import PooledQuery.Proofs.Outline.Passing

namespace PooledQuery

namespace Text

/-- Whether a word, in any letter case, does not occur as a word outside parentheses and
quotes. -/
def LacksWord (text word : Text) : Prop :=
  ∀ before spelled after, text = before ++ spelled ++ after → sameLetters word spelled = true →
    Nesting.top.after before = .top →
      Keyword.endsWord before.getLast? = true ∨ Keyword.endsWord after.head? = true

/-- Whether there is no comma outside parentheses and quotes. -/
def LacksComma (text : Text) : Prop :=
  ∀ before after, text = before ++ .char ',' :: after → Nesting.top.after before ≠ .top

end Text

namespace Keyword

variable {keyword text : Text}

theorem passes_of_lacksWord (isKeyword : Text.IsKeyword keyword)
    (lacks : text.LacksWord keyword) : Passes (word keyword) [] none .top text := by
  suffices passes : ∀ front back, text = front ++ back →
      Passes (word keyword) [] front.getLast? (Nesting.top.after front) back from
    passes [] text rfl
  intro front back whole
  induction back generalizing front with
  | nil => trivial
  | cons point rest ih =>
      refine ⟨?_, ?_⟩
      · intro atTop
        cases found : word keyword front.getLast? (point :: rest ++ []) with
        | none => rfl
        | some after =>
            have inert := CodePoint.isInert_of_isWord (isWord_of_word isKeyword found)
            obtain ⟨begins, ⟨spelled, same, split⟩, ends⟩ := word_eq_some_iff.mp found
            rw [List.append_nil] at split
            have longer := lacks front spelled after (by rw [whole, split, List.append_assoc])
              same ((Nesting.isTop_iff_of_inert inert _).mp atTop)
            rw [begins, ends] at longer
            simp at longer
      · have later := ih (front ++ [point]) (by simp [whole])
        simpa using later

theorem lacksWord_of_passes (isKeyword : Text.IsKeyword keyword)
    (passes : Passes (word keyword) [] none .top text) : text.LacksWord keyword := by
  rintro before spelled after rfl same atTop
  rw [List.append_assoc] at passes
  have from_here := passes.of_append
  rw [atTop] at from_here
  obtain ⟨point, others, rfl⟩ := List.exists_cons_of_ne_nil (isKeyword.spelled_ne_nil same)
  have inert := CodePoint.isInert_of_isWord
    (Text.isWord_of_sameLetters isKeyword.2 same point List.mem_cons_self)
  have unrecognized := from_here.1 ((Nesting.isTop_iff_of_inert inert _).mpr rfl)
  rw [List.append_nil, lastOr, Option.or_none] at unrecognized
  by_cases begins : endsWord before.getLast? = true
  · exact Or.inl begins
  · by_cases ends : endsWord after.head? = true
    · exact Or.inr ends
    · have found : word keyword before.getLast? (point :: others ++ after) = some after :=
        word_eq_some_iff.mpr ⟨by simpa using begins, ⟨_, same, rfl⟩, by simpa using ends⟩
      exact absurd unrecognized (by rw [List.cons_append] at found; simp [found])

theorem lacksWord_of_first?_eq_none (isKeyword : Text.IsKeyword keyword)
    (nothing : first? (word keyword) text = none) : text.LacksWord keyword :=
  lacksWord_of_passes isKeyword (passes_of_firstFrom_eq_none nothing)

/-- An identifier lacks every keyword but itself. -/
theorem lacksWord_of_identifier (isKeyword : Text.IsKeyword keyword)
    (words : ∀ point ∈ text, point.isWord = true)
    (other : Text.sameLetters keyword text = false) : text.LacksWord keyword :=
  lacksWord_of_passes isKeyword (passes_of_identifier words other)

theorem lacksWord_trim (lacks : text.LacksWord keyword) : (Text.trim text).LacksWord keyword := by
  obtain ⟨before, after, blankBefore, blankAfter, whole, _flush⟩ := Text.exists_trim text
  intro front spelled back split same atTop
  have stays : Nesting.top.after before = .top :=
    Nesting.after_inert (fun point member => CodePoint.isInert_of_isBlank (blankBefore point member)) 0
  have found := lacks (before ++ front) spelled (back ++ after)
    (by rw [whole, split]; simp) same (by rw [Nesting.after_append, stays, atTop])
  rcases found with begins | ends
  · left
    by_cases nothing : front = []
    · rw [nothing, List.append_nil, endsWord_getLast?_of_blank blankBefore] at begins
      cases begins
    · rwa [List.getLast?_append, List.getLast?_eq_some_getLast nothing, Option.some_or,
        ← List.getLast?_eq_some_getLast nothing] at begins
  · right
    by_cases nothing : back = []
    · rw [nothing, List.nil_append, endsWord_head?_of_blank blankAfter] at ends
      cases ends
    · rwa [endsWord_head?_append_of_ne_nil nothing] at ends

theorem passes_of_lacksComma (lacks : Text.LacksComma text) :
    Passes (mark ',') [] none .top text := by
  suffices passes : ∀ front back, text = front ++ back →
      Passes (mark ',') [] front.getLast? (Nesting.top.after front) back from
    passes [] text rfl
  intro front back whole
  induction back generalizing front with
  | nil => trivial
  | cons point rest ih =>
      refine ⟨?_, ?_⟩
      · intro atTop
        by_cases comma : point = .char ','
        · subst comma
          have inert : (CodePoint.char ',').isInert = true := by decide
          exact absurd ((Nesting.isTop_iff_of_inert inert _).mp atTop) (lacks front rest whole)
        · simp [mark, comma]
      · have later := ih (front ++ [point]) (by simp [whole])
        simpa using later

theorem lacksComma_of_passes (passes : Passes (mark ',') [] none .top text) :
    Text.LacksComma text := by
  rintro before after rfl atTop
  have from_here := passes.of_append
  rw [atTop] at from_here
  have unmarked := from_here.1 (by decide)
  simp [mark] at unmarked

theorem lacksComma_iff : Text.LacksComma text ↔ first? (mark ',') text = none := by
  constructor
  · exact fun lacks => (passes_of_lacksComma lacks).first?_eq_none
  · exact fun nothing => lacksComma_of_passes (passes_of_firstFrom_eq_none nothing)

instance (text : Text) : Decidable text.LacksComma :=
  decidable_of_iff _ lacksComma_iff.symm

/-! ### Balanced texts that are passed over -/

/-- A balanced text in which a recognizer recognizes nothing outside parentheses and quotes. -/
structure Skips (recognize : Recognizer) (text : Text) : Prop where
  balanced : text.IsBalanced
  passes : Passes recognize [] none .top text

variable {first second : Text} {sign : Char}

theorem Skips.append (isKeyword : Text.IsKeyword keyword) (former : Skips (word keyword) first)
    (latter : Skips (word keyword) second) (separated : Separated first second) :
    Skips (word keyword) (first ++ second) where
  balanced := former.balanced.append latter.balanced
  passes := by
    apply Passes.append
    · rw [List.append_nil]
      exact former.passes.extend isKeyword separated
    · rw [former.balanced.after_top]
      exact latter.passes.of_none

theorem Skips.append_mark (former : Skips (mark sign) first) (latter : Skips (mark sign) second) :
    Skips (mark sign) (first ++ second) where
  balanced := former.balanced.append latter.balanced
  passes := by
    apply Passes.append
    · exact former.passes.extend_mark
    · rw [former.balanced.after_top]
      exact latter.passes.of_none_mark

theorem Skips.squeezedFrom (ignores : IgnoresSpacing recognize) (skips : Skips recognize text)
    (afterBlank : Bool) : Skips recognize (Text.squeezedFrom afterBlank text) where
  balanced := skips.balanced.squeezedFrom afterBlank
  passes := skips.passes.squeezedFrom ignores rfl Quoting.isSound_outside fun _passed => ⟨rfl, rfl⟩

theorem skips_of_isBlank (isKeyword : Text.IsKeyword keyword) (blank : text.IsBlank) :
    Skips (word keyword) text where
  balanced := blank.isBalanced
  passes := passes_of_not_isWord isKeyword fun point member =>
    CodePoint.isWord_of_isBlank (blank point member)

theorem skips_of_identifier (words : ∀ point ∈ text, point.isWord = true)
    (other : Text.sameLetters keyword text = false) : Skips (word keyword) text where
  balanced := Text.isBalanced_of_isWord words
  passes := passes_of_identifier words other

theorem skips_of_lacksWord (isKeyword : Text.IsKeyword keyword) (balanced : text.IsBalanced)
    (lacks : text.LacksWord keyword) : Skips (word keyword) text where
  balanced := balanced
  passes := passes_of_lacksWord isKeyword lacks

theorem skips_enclosed (isKeyword : Text.IsKeyword keyword)
    (balanced : text.IsBalanced) : Skips (word keyword) text.enclosed where
  balanced := balanced.enclosed
  passes := by
    have within : (Nesting.top.raised 1).after text = Nesting.top.raised 1 :=
      Nesting.after_raised balanced 1
    refine ⟨fun _atTop => word_of_not_isWord isKeyword (by decide), ?_⟩
    change Passes _ _ _ (Nesting.top.raised 1) _
    apply Passes.append (passes_raised balanced Nat.one_pos)
    exact passes_of_not_isWord isKeyword (by decide)

theorem Skips.word_eq_none (isKeyword : Text.IsKeyword keyword) (skips : Skips (word keyword) text)
    (separated : Separated text following) (nonempty : text ≠ [])
    (words : ∀ point ∈ text, point.isWord = true) :
    word keyword before (text ++ following) = none := by
  have passes : Passes (word keyword) following before .top text :=
    (skips.passes.extend isKeyword separated).of_none
  obtain ⟨point, rest, rfl⟩ := List.exists_cons_of_ne_nil nonempty
  have inert := CodePoint.isInert_of_isWord (words point List.mem_cons_self)
  exact passes.1 ((Nesting.isTop_iff_of_inert inert _).mpr rfl)

theorem Skips.first?_append_map (isKeyword : Text.IsKeyword keyword)
    (skips : Skips (word keyword) text) (begins : endsWord text.getLast? = false) :
    first? (word keyword) (text ++ following) =
      (first? (word keyword) following).map fun found =>
        { found with before := text ++ found.before } := by
  have passes := skips.passes.extend isKeyword (Or.inl begins : Separated text following)
  have fresh : endsWord (lastOr none text) = endsWord none := by
    rw [lastOr, Option.or_none]
    exact begins
  unfold first?
  rw [passes.firstFrom_append, skips.balanced.after_top, firstFrom_congr_before fresh]

theorem Passes.first?_append {point : CodePoint} {others : Text}
    (passes : Passes recognize (point :: others) none .top text) (balanced : text.IsBalanced)
    (inert : point.isInert = true)
    (found : recognize text.getLast? (point :: others) = some rest) :
    first? recognize (text ++ point :: others) = some ⟨text, point :: others, rest⟩ := by
  have top : Nesting.top.isTop point = true := (Nesting.isTop_iff_of_inert inert _).mpr rfl
  rw [first?, passes.firstFrom_append, balanced.after_top, lastOr, Option.or_none,
    firstFrom_cons_of_some top found]
  simp

theorem Skips.first?_append {spelled : Text} (isKeyword : Text.IsKeyword keyword)
    (skips : Skips (word keyword) text) (begins : endsWord text.getLast? = false)
    (same : Text.sameLetters keyword spelled = true) (ends : endsWord rest.head? = false) :
    first? (word keyword) (text ++ (spelled ++ rest)) = some ⟨text, spelled ++ rest, rest⟩ := by
  have passes := skips.passes.extend isKeyword (Or.inl begins : Separated text (spelled ++ rest))
  have found : word keyword text.getLast? (spelled ++ rest) = some rest :=
    word_eq_some_iff.mpr ⟨begins, ⟨spelled, same, rfl⟩, ends⟩
  obtain ⟨point, others, rfl⟩ := List.exists_cons_of_ne_nil (isKeyword.spelled_ne_nil same)
  have inert := CodePoint.isInert_of_isWord
    (Text.isWord_of_sameLetters isKeyword.2 same point List.mem_cons_self)
  exact passes.first?_append skips.balanced inert found

end Keyword
end PooledQuery
