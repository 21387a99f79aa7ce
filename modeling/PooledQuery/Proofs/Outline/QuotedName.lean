/-
Quoted names.

A name may stand between backticks or double quotes, as long as it has neither a backslash nor the
quote around it.  Nothing of a quoted name lies outside of quotes, so every search passes over it.
On one line it is the name on one line between the same quotes, and one word only if the name has
no white space.
-/
import PooledQuery.Proofs.Outline.Calls
import PooledQuery.Proofs.Text.Words

namespace PooledQuery

open Keyword

/-- A name in backticks or double quotes. -/
structure QuotedName where
  quote : Char
  delimits : quote ∈ [Text.backtick, Text.doubleQuote]
  content : Text
  noEscape : .char '\\' ∉ content
  noQuote : .char quote ∉ content

namespace QuotedName

variable (name : QuotedName)

def text : Text :=
  name.content.quotedBy name.quote

theorem text_eq : name.text = .char name.quote :: (name.content ++ [.char name.quote]) := rfl

theorem quote_cases : name.quote = Text.backtick ∨ name.quote = Text.doubleQuote := by
  simpa using name.delimits

theorem quote_ne {sign : Char} (other : sign ∉ [Text.backtick, Text.doubleQuote]) :
    name.quote ≠ sign := by
  rintro rfl
  exact other name.delimits

theorem char_ne {sign : Char} (other : sign ∉ [Text.backtick, Text.doubleQuote]) :
    CodePoint.char name.quote ≠ .char sign :=
  fun same => name.quote_ne other (CodePoint.char.inj same)

theorem unblank : (CodePoint.char name.quote).isBlank = false := by
  rcases name.quote_cases with same | same <;> rw [same] <;> decide

theorem opens : Quoting.quote? (.char name.quote) = some name.quote := by
  rcases name.quote_cases with same | same <;> rw [same] <;> decide

theorem ne_nil : name.text ≠ [] :=
  List.cons_ne_nil _ _

theorem getLast?_text : name.text.getLast? = some (.char name.quote) := by
  rw [text_eq, ← List.cons_append, List.getLast?_concat]

theorem isFlush : name.text.IsFlush :=
  Text.isFlush_between name.unblank name.unblank name.content

theorem unquoted_text : Text.unquoted name.text = name.content := by
  apply Text.unquoted_between
  rcases name.quote_cases with same | same <;> rw [same] <;> decide

/-! ### Passing over quoted names -/

theorem step_opening : Nesting.top.step (.char name.quote) = ⟨0, .inside name.quote false⟩ := by
  rcases name.quote_cases with same | same <;> rw [same] <;> rfl

theorem step_inside {point : CodePoint} (noEscape : point ≠ .char '\\') :
    (⟨0, .inside name.quote false⟩ : Nesting).step point =
      if point = .char name.quote then .top else ⟨0, .inside name.quote false⟩ := by
  change (⟨0, (Quoting.inside name.quote false).step point⟩ : Nesting) = _
  split
  · rename_i closes
    subst closes
    have plain : name.quote ≠ '\\' := by simpa using noEscape
    simp [Quoting.step, plain, Nesting.top]
  · rename_i within
    simp [Quoting.step, noEscape, within]

private theorem balanced_inside {content : Text} (noEscape : .char '\\' ∉ content)
    (noQuote : .char name.quote ∉ content) :
    (⟨0, .inside name.quote false⟩ : Nesting).balancedFrom (content ++ [.char name.quote]) =
      true := by
  induction content with
  | nil =>
      refine Nesting.balancedFrom_cons_iff.mpr ⟨by simp [Nesting.top], ?_⟩
      rw [name.step_inside (name.char_ne (by decide)), if_pos rfl]
      rfl
  | cons point rest ih =>
      rw [List.mem_cons, not_or] at noEscape noQuote
      refine Nesting.balancedFrom_cons_iff.mpr ⟨by simp [Nesting.top], ?_⟩
      rw [name.step_inside (Ne.symm noEscape.1), if_neg (Ne.symm noQuote.1)]
      exact ih noEscape.2 noQuote.2

theorem balanced : name.text.IsBalanced := by
  refine Nesting.balancedFrom_cons_iff.mpr ⟨?_, ?_⟩
  · rintro ⟨_atTop, closing⟩
    have opens := name.opens
    rw [closing] at opens
    cases opens
  · rw [name.step_opening]
    exact name.balanced_inside name.noEscape name.noQuote

variable {recognize : Recognizer} {following : Text} {before : Option CodePoint}

private theorem passes_inside {content : Text} (noEscape : .char '\\' ∉ content)
    (noQuote : .char name.quote ∉ content) :
    Passes recognize following before ⟨0, .inside name.quote false⟩
      (content ++ [.char name.quote]) := by
  have quoted (point : CodePoint) :
      (⟨0, .inside name.quote false⟩ : Nesting).isTop point = false := rfl
  induction content generalizing before with
  | nil => exact ⟨by simp [quoted], trivial⟩
  | cons point rest ih =>
      rw [List.mem_cons, not_or] at noEscape noQuote
      refine ⟨by simp [quoted], ?_⟩
      rw [name.step_inside (Ne.symm noEscape.1), if_neg (Ne.symm noQuote.1)]
      exact ih noEscape.2 noQuote.2

theorem passes : Passes recognize following before .top name.text := by
  refine ⟨?_, ?_⟩
  · intro atTop
    have quoted : Nesting.top.isTop (.char name.quote) = false := by
      simp [Nesting.isTop, Nesting.level, Nesting.top, name.opens]
    rw [quoted] at atTop
    cases atTop
  · rw [name.step_opening]
    exact name.passes_inside name.noEscape name.noQuote

theorem skips (recognize : Recognizer) : Skips recognize name.text :=
  ⟨name.balanced, name.passes⟩

/-! ### Quoted names on one line -/

/-- The name on one line, in the same quotes. -/
def squeezed : QuotedName where
  quote := name.quote
  delimits := name.delimits
  content := Text.squeezedFrom false name.content
  noEscape := by
    intro member
    rcases Text.mem_of_mem_squeezedFrom member with within | space
    · exact name.noEscape within
    · cases space
  noQuote := by
    intro member
    rcases Text.mem_of_mem_squeezedFrom member with within | space
    · exact name.noQuote within
    · have unblank := name.unblank
      rw [space] at unblank
      cases unblank

theorem squeezedFrom_append (afterBlank : Bool) (rest : Text) :
    Text.squeezedFrom afterBlank (name.text ++ rest) =
      name.squeezed.text ++ Text.squeezedFrom false rest := by
  rw [text_eq, text_eq, List.cons_append, Text.squeezedFrom_cons_unblank name.unblank,
    List.append_assoc, Text.squeezedFrom_append, List.singleton_append,
    Text.squeezedFrom_cons_unblank name.unblank]
  simp [squeezed]

theorem squeezedFrom_text (afterBlank : Bool) :
    Text.squeezedFrom afterBlank name.text = name.squeezed.text := by
  have alone := name.squeezedFrom_append afterBlank []
  rwa [List.append_nil, Text.squeezedFrom_nil, List.append_nil] at alone

theorem isUnbroken_text_iff : name.text.IsUnbroken ↔ name.content.IsUnbroken := by
  constructor
  · exact fun unbroken point member => unbroken point (by simp [text_eq, member])
  · intro unbroken point member
    rw [text_eq, List.mem_cons, List.mem_append, List.mem_singleton] at member
    rcases member with rfl | within | rfl
    · exact name.unblank
    · exact unbroken point within
    · exact name.unblank

private theorem isUnbroken_squeezed_iff : name.squeezed.text.IsUnbroken ↔ name.content.IsUnbroken :=
  name.squeezed.isUnbroken_text_iff.trans Text.isUnbroken_squeezedFrom_iff

theorem squeezed_of_unbroken (unbroken : name.content.IsUnbroken) :
    name.squeezed.text = name.text := by
  simp [text, squeezed, Text.squeezedFrom_of_unbroken unbroken]

theorem words_of_unbroken (unbroken : name.content.IsUnbroken) :
    Text.words name.squeezed.text = [name.text] := by
  rw [name.squeezed_of_unbroken unbroken]
  exact Text.words_of_unbroken name.ne_nil (name.isUnbroken_text_iff.mpr unbroken)

theorem words_of_broken (broken : ¬name.content.IsUnbroken) :
    ∃ first others last, Text.words name.squeezed.text = first :: (others ++ [last]) ∧
      last.getLast? = some (.char name.quote) := by
  obtain ⟨first, others, last, words, ends⟩ := Text.exists_last_word name.squeezed.isFlush
    (fun unbroken => broken (name.isUnbroken_squeezed_iff.mp unbroken))
  exact ⟨first, others, last, words, ends.trans name.squeezed.getLast?_text⟩

end QuotedName
end PooledQuery
