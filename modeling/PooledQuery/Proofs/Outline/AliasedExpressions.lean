/-
Expressions with the alias keyword.

An expression may nest parentheses and quotes in any way, as long as it has no comma, no FROM and
no AS outside of them.  The alias keyword and an alias follow it.  On one line the item is the
expression, squeezed and trimmed, the keyword and the alias, with single spaces between them.
-/
import PooledQuery.Proofs.Outline.ListedSelect

namespace PooledQuery

open Keyword

/-- An expression and the alias keyword, and the white space around them and the alias. -/
structure AliasedExpression where
  before : Margin
  expression : Text
  visible : ¬expression.IsBlank
  balanced : expression.IsBalanced
  noComma : expression.LacksComma
  noFrom : expression.LacksWord "FROM"
  noAlias : expression.LacksWord "AS"
  gap : Gap
  keyword : Spelling "AS"
  margin : Gap
  after : Margin

namespace AliasedExpression

variable (aliased : AliasedExpression) {name : Text}

def core (name : Text) : Text :=
  aliased.expression ++ (aliased.gap.text ++ (aliased.keyword.text ++
    (aliased.margin.text ++ name)))

def text (name : Text) : Text :=
  aliased.before.text ++ (aliased.core name ++ aliased.after.text)

def line (name : Text) : Text :=
  Text.squeezedFrom true (Text.trim aliased.expression) ++
    (Gap.space.text ++ (aliased.keyword.text ++ (Gap.space.text ++ name)))

private theorem skips_from (named : Skips (word "FROM") name) :
    Skips (word "FROM") (aliased.text name) := by
  have isKeyword := Text.isKeyword_from
  have blank {margin : Text} (isBlank : margin.IsBlank) : Skips (word "FROM") margin :=
    skips_of_isBlank isKeyword isBlank
  have spacedName : Skips (word "FROM") (aliased.margin.text ++ name) :=
    (blank aliased.margin.blank).append isKeyword named (separated_after_blank aliased.margin.blank)
  have announced : Skips (word "FROM")
      (aliased.keyword.text ++ (aliased.margin.text ++ name)) := by
    apply (aliased.keyword.skips (by decide)).append isKeyword spacedName
    exact Or.inr (aliased.margin.endsWord_head? _)
  have spaced := (blank aliased.gap.blank).append isKeyword announced
    (separated_after_blank aliased.gap.blank)
  have whole : Skips (word "FROM") (aliased.core name) := by
    apply (skips_of_lacksWord isKeyword aliased.balanced aliased.noFrom).append isKeyword spaced
    exact Or.inr (aliased.gap.endsWord_head? _)
  exact (blank aliased.before.blank).append isKeyword
    (whole.append isKeyword (blank aliased.after.blank) (separated_of_blank aliased.after.blank))
    (separated_after_blank aliased.before.blank)

theorem skips_comma (named : Skips (mark ',') name) : Skips (mark ',') (aliased.text name) := by
  have blank {margin : Text} (isBlank : margin.IsBlank) : Skips (mark ',') margin :=
    ⟨isBlank.isBalanced, Text.passes_comma_of_blank isBlank⟩
  have keyword : Skips (mark ',') aliased.keyword.text := by
    refine ⟨Text.isBalanced_of_isWord aliased.keyword.isWord, passes_mark_of_not_mem ?_⟩
    intro member
    cases aliased.keyword.isWord _ member
  have expressed : Skips (mark ',') aliased.expression :=
    ⟨aliased.balanced, passes_of_lacksComma aliased.noComma⟩
  have announced := keyword.append_mark ((blank aliased.margin.blank).append_mark named)
  have whole := expressed.append_mark ((blank aliased.gap.blank).append_mark announced)
  exact (blank aliased.before.blank).append_mark (whole.append_mark (blank aliased.after.blank))

theorem exists_gap (name : Text) :
    ∃ (before : Margin) (gap : Gap), aliased.text name = before.text ++
      (Text.trim aliased.expression ++ (gap.text ++ (aliased.keyword.text ++
        (aliased.margin.text ++ (name ++ aliased.after.text))))) := by
  obtain ⟨before, after, blankBefore, blankAfter, whole, _flush⟩ :=
    Text.exists_trim aliased.expression
  refine ⟨⟨aliased.before.text ++ before, aliased.before.blank.append blankBefore⟩,
    ⟨after ++ aliased.gap.text, by simp [aliased.gap.nonempty],
      blankAfter.append aliased.gap.blank⟩, ?_⟩
  have spelled : aliased.text name = aliased.before.text ++
      (before ++ Text.trim aliased.expression ++ after ++
        (aliased.gap.text ++ (aliased.keyword.text ++ (aliased.margin.text ++ name))) ++
          aliased.after.text) := by
    rw [← whole]
    rfl
  rw [spelled]
  simp only [List.append_assoc]

theorem squeezedFrom_trim (nonempty : name ≠ []) (flush : name.IsFlush) :
    Text.squeezedFrom true (Text.trim (aliased.text name)) =
      aliased.line (Text.squeezedFrom true name) := by
  obtain ⟨before, gap, whole⟩ := aliased.exists_gap name
  have visible := Text.trim_ne_nil aliased.visible
  have expressed := Text.isFlush_trim aliased.expression
  have flush : Text.IsFlush (Text.trim aliased.expression ++ (gap.text ++ (aliased.keyword.text ++
      (aliased.margin.text ++ name)))) := by
    have ends := expressed.around flush visible nonempty
      (gap.text ++ (aliased.keyword.text ++ aliased.margin.text))
    simpa only [List.append_assoc] using ends
  have trimmed : Text.trim (aliased.text name) = Text.trim aliased.expression ++ (gap.text ++
      (aliased.keyword.text ++ (aliased.margin.text ++ name))) := by
    have between := flush.trim_between before.blank aliased.after.blank
    rw [← between, whole]
    simp only [List.append_assoc]
  rw [trimmed, expressed.squeezedFrom_append visible, Text.squeezedFrom_gap,
    Text.squeezedFrom_append_of_unbroken aliased.keyword.ne_nil aliased.keyword.isUnbroken,
    Text.squeezedFrom_gap]
  rfl

/-- The expression with an alias, as an item of a list. -/
def item (name : Text) (noComma : Skips (mark ',') name) (noFrom : Skips (word "FROM") name) :
    SelectItem where
  text := aliased.text name
  visible := by
    intro blank
    apply aliased.visible
    intro point member
    exact blank point (by simp [text, core, member])
  balanced := (aliased.skips_comma noComma).balanced
  noComma := lacksComma_of_passes (aliased.skips_comma noComma).passes
  noFrom := lacksWord_of_passes Text.isKeyword_from (aliased.skips_from noFrom).passes

theorem skips_line :
    Skips (word "AS") (Text.squeezedFrom true (Text.trim aliased.expression)) :=
  (skips_of_lacksWord Text.isKeyword_as aliased.balanced.trim
    (lacksWord_trim aliased.noAlias)).squeezedFrom (word_ignoresSpacing Text.isKeyword_as) true

theorem isFlush_line : Text.IsFlush (Text.squeezedFrom true (Text.trim aliased.expression)) :=
  (Text.isFlush_trim aliased.expression).squeezedFrom true

end AliasedExpression
end PooledQuery
