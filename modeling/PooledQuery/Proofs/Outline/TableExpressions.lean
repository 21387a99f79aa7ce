/-
Leading common table expressions.

A table expression has a name without the word SELECT, perhaps a column list, and a body, both
of them balanced texts in parentheses.  No SELECT of a clause of table expressions lies outside
parentheses and quotes, however the bodies are nested, so that a statement with such a clause
has the outline of the SELECT after it.
-/
import PooledQuery.Proofs.Outline.Items
import PooledQuery.Proofs.Outline.Writing

namespace PooledQuery

/-- A common table expression, with the white space around it.  The name may be any identifier
but SELECT, in quotes or not. -/
structure TableExpression where
  before : Margin
  name : Text
  nameBalanced : name.IsBalanced
  nameOther : name.LacksWord "SELECT"
  -- The list of columns, and the white space before it.
  columns : Option (Margin × {list : Text // list.IsBalanced})
  gap : Gap
  keyword : Spelling "AS"
  margin : Margin
  body : Text
  bodyBalanced : body.IsBalanced
  after : Margin

namespace TableExpression

def columnList : Option (Margin × {list : Text // list.IsBalanced}) → Text
  | none => []
  | some (margin, list) => margin.text ++ list.val.enclosed

def text (table : TableExpression) : Text :=
  table.before.text ++ table.name ++ columnList table.columns ++ table.gap.text ++
    table.keyword.text ++ table.margin.text ++ table.body.enclosed ++ table.after.text

end TableExpression

/-- A clause of common table expressions, up to the statement that uses them. -/
structure TableExpressionClause where
  keyword : Spelling "WITH"
  gap : Gap
  recursive : Option (Spelling "RECURSIVE" × Gap)
  tables : List TableExpression

namespace TableExpressionClause

def recursion : Option (Spelling "RECURSIVE" × Gap) → Text
  | none => []
  | some (keyword, gap) => keyword.text ++ gap.text

/-- The table expressions with commas between them. -/
def listed (tables : List TableExpression) : Text :=
  Text.joined [.char ','] (tables.map TableExpression.text)

def text (clause : TableExpressionClause) : Text :=
  clause.keyword.text ++ clause.gap.text ++ recursion clause.recursive ++ listed clause.tables

end TableExpressionClause

open Keyword

abbrev SkipsSelect (text : Text) : Prop :=
  Skips (word "SELECT") text

namespace TableExpression

private theorem columnList_skips (columns : Option (Margin × {list : Text // list.IsBalanced})) :
    SkipsSelect (columnList columns) := by
  cases columns with
  | none => exact ⟨rfl, trivial⟩
  | some columns =>
      obtain ⟨margin, list, balanced⟩ := columns
      apply Skips.append Text.isKeyword_select
      · exact skips_of_isBlank Text.isKeyword_select margin.blank
      · exact skips_enclosed Text.isKeyword_select balanced
      · exact separated_enclosed _ _

private theorem separated_columnList (text : Text)
    (columns : Option (Margin × {list : Text // list.IsBalanced})) :
    Separated text (columnList columns) := by
  cases columns with
  | none => exact Or.inr rfl
  | some columns =>
      obtain ⟨⟨margin, blank⟩, list⟩ := columns
      cases margin with
      | nil => exact separated_enclosed _ _
      | cons point rest => exact Or.inr (CodePoint.isWord_of_isBlank blank.of_cons.1)

variable (table : TableExpression)

theorem skips : SkipsSelect table.text := by
  have isKeyword := Text.isKeyword_select
  have margins (margin : Margin) : SkipsSelect margin.text :=
    skips_of_isBlank isKeyword margin.blank
  have named : SkipsSelect (table.before.text ++ table.name) :=
    (margins table.before).append isKeyword
      (skips_of_lacksWord isKeyword table.nameBalanced table.nameOther)
      (separated_after_blank table.before.blank)
  have listed := named.append isKeyword (columnList_skips table.columns)
    (separated_columnList _ _)
  have spaced := listed.append isKeyword (skips_of_isBlank isKeyword table.gap.blank)
    (table.gap.separated _)
  have announced := spaced.append isKeyword (table.keyword.skips (by decide))
    (Or.inl (table.gap.endsWord_getLast? _))
  have opened := announced.append isKeyword (margins table.margin)
    (separated_of_blank table.margin.blank)
  have closed := opened.append isKeyword (skips_enclosed isKeyword table.bodyBalanced)
    (separated_enclosed _ _)
  exact closed.append isKeyword (margins table.after) (separated_of_blank table.after.blank)

theorem separated (front text : Text) : Separated (front ++ table.text) text := by
  have closed : Separated table.text text := by
    apply Separated.append_blank _ table.after.blank
    exact (enclosed_separated _ _).append_front (List.cons_ne_nil _ _)
  exact closed.append_front (by simp [TableExpression.text, Text.enclosed])

end TableExpression

namespace TableExpressionClause

theorem skips_listed (tables : List TableExpression) : SkipsSelect (listed tables) := by
  apply skips_joined Text.isKeyword_select (by decide) (by decide)
  rw [List.forall_mem_map]
  exact fun table _member => table.skips

private theorem separated_listed (tables : List TableExpression) {front text : Text}
    (separated : Separated front text) : Separated (front ++ listed tables) text := by
  induction tables generalizing front with
  | nil => simpa [listed, Text.joined] using separated
  | cons table others ih =>
      have next := table.separated front text
      cases others with
      | nil => simpa [listed, Text.joined] using next
      | cons following more =>
          have spelled : listed (table :: following :: more) =
              table.text ++ (.char ',' :: listed (following :: more)) := by
            simp [listed, Text.joined, List.intercalate_cons_cons]
          have comma : Separated (front ++ table.text ++ [.char ',']) text := by
            left
            rw [List.getLast?_concat]
            rfl
          simpa [spelled] using ih comma

variable (clause : TableExpressionClause)

private theorem opening_skips :
    SkipsSelect (clause.keyword.text ++ clause.gap.text ++ recursion clause.recursive) := by
  have isKeyword := Text.isKeyword_select
  have opened : SkipsSelect clause.keyword.text := clause.keyword.skips (by decide)
  have begun := opened.append isKeyword (skips_of_isBlank isKeyword clause.gap.blank)
    (clause.gap.separated _)
  cases clause.recursive with
  | none => simpa [recursion] using begun
  | some recursive =>
      obtain ⟨keyword, gap⟩ := recursive
      have named : SkipsSelect keyword.text := keyword.skips (by decide)
      apply begun.append isKeyword
      · exact named.append isKeyword (skips_of_isBlank isKeyword gap.blank) (gap.separated _)
      · exact Or.inl (clause.gap.endsWord_getLast? _)

theorem opening_separated (text : Text) :
    Separated (clause.keyword.text ++ clause.gap.text ++ recursion clause.recursive) text := by
  left
  cases clause.recursive with
  | none =>
      rw [recursion, List.append_nil]
      exact clause.gap.endsWord_getLast? _
  | some recursive =>
      obtain ⟨keyword, gap⟩ := recursive
      rw [recursion, ← List.append_assoc]
      exact gap.endsWord_getLast? _

theorem skips : SkipsSelect clause.text :=
  clause.opening_skips.append Text.isKeyword_select (skips_listed clause.tables)
    (clause.opening_separated _)

theorem announced (rest : Text) :
    ∃ after, word "WITH" none (Text.squeezedFrom true clause.text ++ rest) = some after := by
  unfold text
  rw [List.append_assoc, List.append_assoc, Text.squeezedFrom_append_of_unbroken
    clause.keyword.ne_nil clause.keyword.isUnbroken, Text.squeezedFrom_gap, List.append_assoc,
    List.append_assoc]
  exact ⟨_, word_eq_some_iff.mpr
    ⟨rfl, ⟨_, clause.keyword.same, rfl⟩, Gap.space.endsWord_head? _⟩⟩

theorem ends : endsWord clause.text.getLast? = false := by
  have separated : Separated clause.text ['a'] :=
    separated_listed clause.tables (clause.opening_separated ['a'])
  rcases separated with ends | impossible
  · exact ends
  · cases impossible

end TableExpressionClause

namespace SelectOutline

theorem withoutTableExpressions_of_select (select : Spelling "SELECT") {rest : Text}
    (ends : endsWord rest.head? = false) :
    withoutTableExpressions (select.text ++ rest) = select.text ++ rest := by
  have skips : Skips (word "WITH") select.text := select.skips (by decide)
  have nothing : word "WITH" none (select.text ++ rest) = none :=
    skips.word_eq_none Text.isKeyword_with (Or.inr ends) select.ne_nil select.isWord
  unfold withoutTableExpressions
  rw [nothing]

/-- A clause of table expressions, on one line, is passed over as a whole. -/
theorem withoutTableExpressions_of_clause (clause : TableExpressionClause)
    (select : Spelling "SELECT") {rest : Text} (ends : endsWord rest.head? = false) :
    withoutTableExpressions (Text.squeezedFrom true clause.text ++ (select.text ++ rest)) =
      select.text ++ rest := by
  have skips := clause.skips.squeezedFrom (word_ignoresSpacing Text.isKeyword_select) true
  have begins : endsWord (Text.squeezedFrom true clause.text).getLast? = false := by
    have same : endsWord (lastOr none (Text.squeezedFrom true clause.text)) =
        endsWord (lastOr none clause.text) :=
      endsWord_lastOr_squeezedFrom rfl fun _passed => rfl
    simpa [lastOr, clause.ends] using same
  obtain ⟨after, announced⟩ := clause.announced (select.text ++ rest)
  unfold withoutTableExpressions
  rw [announced, skips.first?_append Text.isKeyword_select begins select.same ends]

/-- A statement has the same outline with common table expressions in front of it. -/
theorem ofStatement_of_clause (clause : TableExpressionClause) (select : Spelling "SELECT")
    (rest : Text) (ends : endsWord rest.head? = false) :
    ofStatement (clause.text ++ (select.text ++ rest)) = ofStatement (select.text ++ rest) := by
  have words := select.isWord
  have nonempty := select.ne_nil
  have ends' : endsWord (Text.withoutEnding (Text.squeezedFrom false rest)).head? = false :=
    endsWord_head?_of_isPrefix (Text.withoutEnding_isPrefix _)
      (by rwa [endsWord_head?_squeezedFrom])
  have alone : normalized ([] ++ (select.text ++ rest)) = _ := normalized_append_word nonempty words
  unfold ofStatement
  rw [List.nil_append] at alone
  rw [normalized_append_word nonempty words, alone,
    withoutTableExpressions_of_clause clause select ends', Text.squeezedFrom_nil, List.nil_append,
    withoutTableExpressions_of_select select ends']

/-- Two table expressions, with a SELECT and an unopened parenthesis in their bodies. -/
theorem ofStatement_recursive_clause :
    ofStatement "With recursive a AS (SELECT ')' FROM b), c (x, y) as(SELECT 1) select x FROM c" =
      ofStatement "select x FROM c" := by
  have other {name : Text} (words : ∀ point ∈ name, point.isWord = true)
      (differs : Text.sameLetters "SELECT" name = false) : name.LacksWord "SELECT" :=
    lacksWord_of_identifier Text.isKeyword_select words differs
  obtain ⟨first, spelledFirst⟩ :
      ∃ table : TableExpression, table.text = "a AS (SELECT ')' FROM b)" :=
    ⟨{ before := .empty, name := "a", nameBalanced := by decide
       nameOther := other (by decide) (by decide), columns := none, gap := .space
       keyword := ⟨"AS", by decide, by decide⟩, margin := ⟨" ", by decide⟩, body := "SELECT ')' FROM b"
       bodyBalanced := by decide, after := .empty }, rfl⟩
  obtain ⟨second, spelledSecond⟩ :
      ∃ table : TableExpression, table.text = " c (x, y) as(SELECT 1) " :=
    ⟨{ before := ⟨" ", by decide⟩, name := "c", nameBalanced := by decide
       nameOther := other (by decide) (by decide)
       columns := some (⟨" ", by decide⟩, ⟨"x, y", by decide⟩), gap := .space
       keyword := ⟨"as", by decide, by decide⟩, margin := .empty, body := "SELECT 1"
       bodyBalanced := by decide, after := ⟨" ", by decide⟩ }, rfl⟩
  obtain ⟨clause, spelled⟩ : ∃ clause : TableExpressionClause,
      clause.text = "With recursive a AS (SELECT ')' FROM b), c (x, y) as(SELECT 1) " := by
    refine ⟨⟨⟨"With", by decide, by decide⟩, .space, some (⟨"recursive", by decide, by decide⟩, .space),
      [first, second]⟩, ?_⟩
    simp only [TableExpressionClause.text, TableExpressionClause.listed, List.map_cons, List.map_nil, spelledFirst,
      spelledSecond]
    decide +kernel
  have passed : ofStatement (clause.text ++ (Text.ofString "select" ++ Text.ofString " x FROM c")) =
      ofStatement (Text.ofString "select" ++ Text.ofString " x FROM c") :=
    ofStatement_of_clause clause ⟨"select", by decide, by decide⟩ " x FROM c" (by decide)
  rw [spelled] at passed
  have whole : Text.ofString "select" ++ Text.ofString " x FROM c" = "select x FROM c" := by
    decide +kernel
  rw [whole] at passed
  convert passed using 2
  decide +kernel

end SelectOutline
end PooledQuery
