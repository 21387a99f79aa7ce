/-
Columns with aliases.

A column is an expression with the alias keyword and a name after it.  The expression may nest
parentheses and quotes in any way, as long as it has no comma, no FROM and no AS outside of
them.  On one line a list of such columns holds their expressions, squeezed and trimmed, and the
columns are labelled by their names.
-/
import PooledQuery.Proofs.Outline.Alias
import PooledQuery.Proofs.Outline.AliasedExpressions

namespace PooledQuery

open Keyword

def Text.BeginsWith (text word : Text) : Prop :=
  ∃ spelled rest, Text.trimStart text = spelled ++ rest ∧ sameLetters word spelled = true ∧
    endsWord rest.head? = false

private theorem Text.beginsWith_iff {text keyword : Text} :
    text.BeginsWith keyword ↔ (word keyword none (Text.trimStart text)).isSome = true := by
  rw [Option.isSome_iff_exists]
  constructor
  · rintro ⟨spelled, rest, whole, same, ends⟩
    exact ⟨rest, word_eq_some_iff.mpr ⟨rfl, ⟨spelled, same, whole⟩, ends⟩⟩
  · rintro ⟨rest, found⟩
    obtain ⟨_begins, ⟨spelled, same, whole⟩, ends⟩ := word_eq_some_iff.mp found
    exact ⟨spelled, rest, whole, same, ends⟩

instance (text keyword : Text) : Decidable (text.BeginsWith keyword) :=
  decidable_of_iff _ Text.beginsWith_iff.symm

/-- An expression with a name, and the white space around them. -/
structure NamedColumn where
  before : Margin
  expression : Text
  visible : ¬expression.IsBlank
  balanced : expression.IsBalanced
  noComma : expression.LacksComma
  noFrom : expression.LacksWord "FROM"
  noAlias : expression.LacksWord "AS"
  gap : Gap
  keyword : Spelling "AS"
  margin : Gap
  name : Text
  nonempty : name ≠ []
  ascii : ∀ point ∈ name, point.isAsciiWord = true
  other : Text.sameLetters "FROM" name = false
  after : Margin

namespace NamedColumn

variable (column : NamedColumn)

def core : Text :=
  column.expression ++ (column.gap.text ++ (column.keyword.text ++
    (column.margin.text ++ column.name)))

def text : Text :=
  column.before.text ++ (column.core ++ column.after.text)

def line : Text :=
  Text.squeezedFrom true (Text.trim column.expression) ++
    (Gap.space.text ++ (column.keyword.text ++ (Gap.space.text ++ column.name)))

theorem isWord : ∀ point ∈ column.name, point.isWord = true :=
  fun point member => CodePoint.isWord_of_isAsciiWord (column.ascii point member)

theorem isUnbroken : column.name.IsUnbroken :=
  Text.isUnbroken_of_isWord column.isWord

/-- The column without its name. -/
def aliased : AliasedExpression where
  before := column.before
  expression := column.expression
  visible := column.visible
  balanced := column.balanced
  noComma := column.noComma
  noFrom := column.noFrom
  noAlias := column.noAlias
  gap := column.gap
  keyword := column.keyword
  margin := column.margin
  after := column.after

theorem skips_comma : Skips (mark ',') column.name := by
  refine ⟨Text.isBalanced_of_isWord column.isWord, passes_mark_of_not_mem ?_⟩
  intro member
  cases column.isWord _ member

/-- The column as an item of a list. -/
def item : SelectItem :=
  column.aliased.item column.name column.skips_comma
    (skips_of_identifier column.isWord column.other)

theorem line_item : column.item.line = column.line := by
  have line := column.aliased.squeezedFrom_trim column.nonempty (.of_unbroken column.isUnbroken)
  rwa [Text.squeezedFrom_of_unbroken column.isUnbroken] at line

theorem label_line : Column.label column.line = column.name :=
  Column.label_of_alias column.aliased.skips_line column.aliased.isFlush_line column.keyword
    column.nonempty column.isWord

/-- White space follows the expression, so a column begins with no word that its expression does
not begin with. -/
theorem beginsWith_of_leadsWith {keyword : Text} (isKeyword : keyword.IsKeyword)
    (leads : column.text.LeadsWith keyword) : column.expression.BeginsWith keyword := by
  obtain ⟨spelled, rest, leading, same, follows⟩ := leads
  obtain ⟨front, back, blankFront, blankBack, parts, flush⟩ := Text.exists_trim column.expression
  have visible := Text.trim_ne_nil column.visible
  obtain ⟨tail, trimmed, opens⟩ : ∃ tail, Text.trimStart column.text =
      Text.trim column.expression ++ tail ∧ endsWord tail.head? = false := by
    obtain ⟨before, gap, whole⟩ := column.aliased.exists_gap column.name
    have begun := Text.trimStart_append_of_blank before.blank
    exact ⟨_, (congrArg Text.trimStart whole).trans
      ((begun _).trans (flush.trimStart_append visible _)), gap.endsWord_head? _⟩
  -- What is recognized in the column is recognized in the expression.
  have ends : endsWord rest.head? = false := by
    cases rest with
    | nil => rfl
    | cons point others => exact CodePoint.isWord_of_isBlank (follows point rfl)
  have recognized : word keyword none (Text.trim column.expression ++ tail) = some rest :=
    word_eq_some_iff.mpr ⟨rfl, ⟨spelled, same, trimmed.symm.trans leading⟩, ends⟩
  have separated : Separated (Text.trim column.expression) tail := Or.inr opens
  obtain ⟨point, core, opened⟩ := List.exists_cons_of_ne_nil visible
  rw [opened] at recognized separated
  obtain ⟨following, first⟩ := word_of_append isKeyword separated recognized
  obtain ⟨_begins, ⟨spelled, same, split⟩, ends⟩ := word_eq_some_iff.mp first
  have expressed : Text.trimStart column.expression = Text.trim column.expression ++ back := by
    calc
      Text.trimStart column.expression =
          Text.trimStart (front ++ Text.trim column.expression ++ back) :=
        congrArg Text.trimStart parts
      _ = Text.trim column.expression ++ back := by
        rw [List.append_assoc, Text.trimStart_append_of_blank blankFront,
          flush.trimStart_append visible]
  refine ⟨spelled, following ++ back, ?_, same, ?_⟩
  · rw [expressed, opened, split, List.append_assoc]
  · by_cases nothing : following = []
    · rw [nothing]
      exact endsWord_head?_of_blank blankBack
    · rwa [endsWord_head?_append_of_ne_nil nothing]

def listed (columns : List NamedColumn) : Text :=
  Text.joined [.char ','] (columns.map text)

end NamedColumn
end PooledQuery
