/-
Aliases in quotes.

What follows the last alias keyword is an alias only if it is a single word, so an alias in quotes
is recognized exactly if it has no white space.  With white space no other reading fits either: a
call ends with a parenthesis, and a qualified name has no white space in front of a quoted
component.  The column is then labelled by the whole item.
-/
import PooledQuery.Proofs.Outline.AliasedExpressions
import PooledQuery.Proofs.Outline.ListedSelect
import PooledQuery.Proofs.Outline.QuotedName

namespace PooledQuery

open Keyword

namespace Column

private theorem isQualifiedFrom_append {rest : Text}
    (never : ∀ isFirst state, isQualifiedFrom isFirst state rest = false) (text : Text)
    (isFirst : Bool) (state : QualifiedState) :
    isQualifiedFrom isFirst state (text ++ rest) = false := by
  induction text generalizing isFirst state with
  | nil => exact never isFirst state
  | cons point others ih => cases state <;> simp [isQualifiedFrom, ih]

variable (name : QuotedName)

theorem isQualifiedFrom_append_quote {content : Text} (plain : .char name.quote ∉ content)
    (isFirst : Bool) {state : QualifiedState}
    (outside : ∀ filled, state ≠ .quoted name.quote filled) :
    isQualifiedFrom isFirst state (content ++ [.char name.quote]) = false := by
  have stops (isFirst : Bool) : continuesComponent isFirst (.char name.quote) = false := by
    rcases name.quote_cases with same | same <;> rw [same] <;> cases isFirst <;> rfl
  have noDot : name.quote ≠ '.' := name.quote_ne (by decide)
  induction content generalizing isFirst state with
  | nil =>
      cases state with
      | opening => simp [isQualifiedFrom, stops]
      | bare => simp [isQualifiedFrom, stops, noDot]
      | closed => simp [isQualifiedFrom, noDot]
      | quoted quote filled =>
          have other : name.quote ≠ quote := by
            rintro rfl
            exact outside filled rfl
          simp [isQualifiedFrom, other]
  | cons point rest ih =>
      rw [List.mem_cons, not_or] at plain
      obtain ⟨other, plain⟩ := plain
      -- The code point is another one, so it opens no such quotes.
      have opening (isFirst : Bool) :
          isQualifiedFrom isFirst .opening (rest ++ [.char name.quote]) = false :=
        ih plain isFirst (by simp)
      have bare (isFirst : Bool) :
          isQualifiedFrom isFirst .bare (rest ++ [.char name.quote]) = false :=
        ih plain isFirst (by simp)
      have closed (isFirst : Bool) :
          isQualifiedFrom isFirst .closed (rest ++ [.char name.quote]) = false :=
        ih plain isFirst (by simp)
      have quoted (isFirst : Bool) {quote : Char} (differs : quote ≠ name.quote) (filled : Bool) :
          isQualifiedFrom isFirst (.quoted quote filled) (rest ++ [.char name.quote]) = false := by
        apply ih plain
        exact fun _filled same => differs (QualifiedState.quoted.inj same).1
      cases state with
      | opening =>
          rw [List.cons_append, isQualifiedFrom]
          split
          · rename_i backtick
            exact quoted isFirst (fun same => other (by rw [backtick, same])) false
          · split
            · rename_i doubleQuote
              exact quoted isFirst (fun same => other (by rw [doubleQuote, same])) false
            · rw [bare, Bool.and_false]
      | bare => simp [isQualifiedFrom, opening, bare]
      | closed => simp [isQualifiedFrom, opening]
      | quoted quote filled =>
          have differs : quote ≠ name.quote := by
            rintro rfl
            exact outside filled rfl
          simp [isQualifiedFrom, closed, quoted isFirst differs]

private theorem isQualified_append_quoted (text : Text) :
    isQualified (text ++ (Gap.space.text ++ name.text)) = false := by
  apply isQualifiedFrom_append
  intro isFirst state
  have noSpace : name.quote ≠ ' ' := name.quote_ne (by decide)
  have noDot : name.quote ≠ '.' := name.quote_ne (by decide)
  have space : continuesComponent isFirst (.char ' ') = false := by cases isFirst <;> rfl
  change isQualifiedFrom isFirst state
    (.char ' ' :: .char name.quote :: (name.content ++ [.char name.quote])) = false
  cases state with
  | opening => simp [isQualifiedFrom, space, Text.backtick, Text.doubleQuote]
  | bare => simp [isQualifiedFrom, space]
  | closed => simp [isQualifiedFrom]
  | quoted quote filled =>
      have closed : isQualifiedFrom isFirst .closed (name.content ++ [.char name.quote]) = false :=
        isQualifiedFrom_append_quote name name.noQuote isFirst (by simp)
      by_cases within : quote = name.quote
      · subst within
        simp [isQualifiedFrom, Ne.symm noSpace, closed]
      · have quoted (filled : Bool) : isQualifiedFrom isFirst (.quoted quote filled)
            (name.content ++ [.char name.quote]) = false := by
          apply isQualifiedFrom_append_quote name name.noQuote
          exact fun _filled same => within (QualifiedState.quoted.inj same).1
        simp [isQualifiedFrom, Ne.symm within, noDot, quoted]

end Column

namespace AliasedExpression

variable (aliased : AliasedExpression) (name : QuotedName)

/-- The expression with an alias in quotes, as an item of a list. -/
def quoted : SelectItem :=
  aliased.item name.text (name.skips _) (name.skips _)

private theorem line_quoted : (aliased.quoted name).line = aliased.line name.squeezed.text := by
  have line := aliased.squeezedFrom_trim name.ne_nil name.isFlush
  rwa [name.squeezedFrom_text] at line

private theorem alias?_line :
    Column.alias? (aliased.line name.squeezed.text) =
      if name.content.IsUnbroken then some name.content else none := by
  have passes : Passes (word "AS") [] none .top name.squeezed.text := name.squeezed.passes
  have found := Column.alias?_append aliased.skips_line aliased.isFlush_line aliased.keyword
    name.squeezed.isFlush (Column.aliasTails_of_passes passes 0)
  rw [line, found]
  by_cases unbroken : name.content.IsUnbroken
  · rw [name.words_of_unbroken unbroken, if_pos List.length_singleton, if_pos unbroken,
      name.squeezed_of_unbroken unbroken, name.unquoted_text]
  · obtain ⟨first, others, last, words, _ends⟩ := name.words_of_broken unbroken
    have several : (Text.words name.squeezed.text).length ≠ 1 := by simp [words]
    rw [if_neg several, if_neg unbroken]

private theorem getLast?_line :
    (aliased.line name.squeezed.text).getLast? = some (.char name.quote) := by
  unfold line
  rw [← List.append_assoc, ← List.append_assoc, ← List.append_assoc,
    List.getLast?_append_of_ne_nil _ name.squeezed.ne_nil, name.squeezed.getLast?_text]
  rfl

private theorem isQualified_line :
    Column.isQualified (aliased.line name.squeezed.text) = false := by
  have behind := Column.isQualified_append_quoted name.squeezed
    (Text.squeezedFrom true (Text.trim aliased.expression) ++
      (Gap.space.text ++ aliased.keyword.text))
  simpa only [line, List.append_assoc] using behind

theorem label_line :
    Column.label (aliased.line name.squeezed.text) =
      if name.content.IsUnbroken then name.content
      else Text.unquoted (aliased.line name.squeezed.text) := by
  have noCall := Column.callee?_eq_none (aliased.getLast?_line name) (name.char_ne (by decide))
  unfold Column.label
  rw [aliased.alias?_line name]
  by_cases unbroken : name.content.IsUnbroken
  · rw [if_pos unbroken, if_pos unbroken]
  · rw [if_neg unbroken, if_neg unbroken, noCall, aliased.isQualified_line name]
    rfl

private theorem unquoted_line_ne :
    Text.unquoted (aliased.line name.squeezed.text) ≠ name.content := by
  obtain ⟨first, others, visible⟩ :=
    List.exists_cons_of_ne_nil (Text.squeezedFrom_trim_ne_nil aliased.visible)
  have whole : aliased.line name.squeezed.text = first ::
      ((others ++ (Gap.space.text ++ (aliased.keyword.text ++ (Gap.space.text ++
        .char name.quote :: name.squeezed.content)))) ++ [.char name.quote]) := by
    rw [line, visible, name.squeezed.text_eq]
    simp [QuotedName.squeezed]
  have flush : Text.IsFlush (aliased.line name.squeezed.text) := by
    have ends := aliased.isFlush_line.around name.squeezed.isFlush
      (Text.squeezedFrom_trim_ne_nil aliased.visible) name.squeezed.ne_nil
      (Gap.space.text ++ (aliased.keyword.text ++ Gap.space.text))
    simpa only [line, List.append_assoc] using ends
  intro same
  apply name.noQuote
  rw [← same, whole]
  rw [whole] at flush
  exact Text.mem_unquoted flush (by simp)

end AliasedExpression

namespace SelectOutline

/-- A column with an alias in quotes is labelled by what is between the quotes exactly if that has
no white space.  Otherwise the item is its own label. -/
theorem columns_quoted_alias (select : ListedSelect) (aliased : AliasedExpression)
    (name : QuotedName) {place : Nat}
    (listed : select.items[place]? = some (aliased.quoted name)) :
    ∃ label, (ofStatement select.text).columns[place]? = some label ∧
      (label = name.content ↔ name.content.IsUnbroken) ∧
      (¬name.content.IsUnbroken →
        label = Text.unquoted (aliased.line name.squeezed.text)) := by
  refine ⟨Column.label (aliased.line name.squeezed.text), ?_, ?_, ?_⟩
  · rw [select.columns_text, List.getElem?_map, listed, Option.map_some, aliased.line_quoted]
  · rw [aliased.label_line name]
    by_cases unbroken : name.content.IsUnbroken
    · rw [if_pos unbroken]
      exact iff_of_true rfl unbroken
    · rw [if_neg unbroken]
      exact iff_of_false (aliased.unquoted_line_ne name) unbroken
  · intro broken
    rw [aliased.label_line name, if_neg broken]

/-- A keyword, a parenthesis and a comma between backticks. -/
theorem columns_quoted_alias_punctuated :
    (ofStatement "SELECT 1, max(a) as `FROM(b,c` FROM t").columns[1]? =
      some (Text.ofString "FROM(b,c") := by
  have lacks {text keyword : Text} (isKeyword : keyword.IsKeyword)
      (nothing : first? (word keyword) text = none) : text.LacksWord keyword :=
    lacksWord_of_first?_eq_none isKeyword nothing
  let number : SelectItem :=
    { text := "1", visible := by decide, balanced := by decide, noComma := by decide
      noFrom := lacks (by decide) (by decide) }
  let greatest : AliasedExpression :=
    { before := .empty, expression := " max(a)", visible := by decide, balanced := by decide
      noComma := by decide, noFrom := lacks (by decide) (by decide)
      noAlias := lacks (by decide) (by decide), gap := .space
      keyword := ⟨"as", by decide, by decide⟩, margin := .space, after := .empty }
  let name : QuotedName :=
    { quote := Text.backtick, delimits := by decide, content := "FROM(b,c", noEscape := by decide
      noQuote := by decide }
  have plain : ∀ word ∈ SelectHead.duplicateWords, ¬Text.LeadsWith "1" word := by decide
  let select : ListedSelect :=
    { head := { before := .empty, keyword := ⟨"SELECT", by decide, by decide⟩, gap := .space
                duplicates := none }
      first := number, others := [greatest.quoted name]
      plain := fun _nothing => plain
      after := .source .space ⟨"FROM", by decide, by decide⟩ " t" (by decide)
      kept := nofun }
  obtain ⟨label, labelled, same, _⟩ := columns_quoted_alias select greatest name (rfl :
    select.items[1]? = some (greatest.quoted name))
  have written : select.text = "SELECT 1, max(a) as `FROM(b,c` FROM t" := rfl
  have whole : label = "FROM(b,c" := same.mpr (by decide)
  rw [written, whole] at labelled
  exact labelled

/-- A column's name with an alias of two words is labelled by itself. -/
theorem columns_of_spaced_alias :
    Text.IsBalanced "id" ∧ Text.LacksComma "id" ∧ Text.LacksWord "id" "FROM" ∧
      Text.LacksWord "id" "AS" ∧
      (ofStatement "SELECT id AS \"total amount\" FROM t").columns =
        ["id AS \"total amount\""] := by
  refine ⟨by decide, by decide, ?_, ?_, by decide +kernel⟩
  · exact lacksWord_of_first?_eq_none Text.isKeyword_from (by decide)
  · exact lacksWord_of_first?_eq_none Text.isKeyword_as (by decide)

end SelectOutline
end PooledQuery
