/-
Statements whose columns have names.

A statement that selects named columns from a named table is read back: its outline has the
names of the columns, in order, and the alias of the table, or its name if it has none.  Neither
the letter case of the keywords nor the white space matters, and any clause may follow.
-/
import PooledQuery.Proofs.Outline.NamedColumns
import PooledQuery.Proofs.Outline.TableClause

namespace PooledQuery

open Keyword

/-- What follows the table: white space, or a clause with anything after its keywords. -/
inductive SelectTail where
  | nothing (margin : Margin)
  | clause (gap : Gap) (words : List Text) (member : words ∈ Source.endPhrases) (spelled : Text)
      (spells : SpellsPhrase words spelled) (rest : Text) (ends : endsWord rest.head? = false)

structure NamedSelect where
  before : Margin
  keyword : Spelling "SELECT"
  gap : Gap
  first : NamedColumn
  notDistinct : ¬first.expression.BeginsWith "DISTINCT"
  notAll : ¬first.expression.BeginsWith "ALL"
  others : List NamedColumn
  fromGap : Gap
  fromKeyword : Spelling "FROM"
  tableGap : Gap
  table : NamedTable
  tail : SelectTail

namespace SelectTail

def text : SelectTail → Text
  | .nothing margin => margin.text
  | .clause gap _ _ spelled _ rest _ => gap.text ++ (spelled ++ rest)

theorem table_line (tail : SelectTail) {text line : Text} (isItem : IsTableItem line)
    (squeezes : ∀ afterBlank rest, Text.squeezedFrom afterBlank (text ++ rest) =
      line ++ Text.squeezedFrom false rest) {margin : Text} (blank : margin.IsBlank) :
    Source.table (Text.trim (Text.withoutEnding
      (Text.squeezedFrom false (margin ++ (text ++ tail.text))))) = Source.itemName line := by
  have trimmed : Text.trim (Text.withoutEnding
      (Text.squeezedFrom false (margin ++ (text ++ tail.text)))) =
        line ++ Text.trimEnd (Text.withoutEnding (Text.squeezedFrom false tail.text)) := by
    have ends := isItem.ends.append (Text.squeezedFrom false margin)
    rw [Text.squeezedFrom_append, squeezes, ← List.append_assoc, ends.withoutEnding_append,
      List.append_assoc, Text.trim,
      Text.trimStart_append_of_blank (Text.isBlank_squeezedFrom blank false),
      isItem.flush.trimStart_append isItem.ends.ne_nil, isItem.ends.trimEnd_append]
  rw [trimmed]
  cases tail with
  | nothing after =>
      have nothing := Text.withoutEnding_of_blank (Text.isBlank_squeezedFrom after.blank false)
      rw [SelectTail.text, nothing, Text.trimEnd_eq_cutEnd, Text.cutEnd_nil, List.append_nil]
      exact isItem.table_eq
  | clause gap words member spelled spells rest ends =>
      obtain ⟨phrase, spelledPhrase, squeezed⟩ := spells.exists_squeezed
      have kept := (spelledPhrase.endsInWord.append Gap.space.text).endsPlain
      have ends' : endsWord (Text.trimEnd (Text.withoutEnding
          (Text.squeezedFrom false rest))).head? = false := by
        apply endsWord_head?_of_isPrefix
          ((Text.cutEnd_isPrefix _).trans (Text.withoutEnding_isPrefix _))
        rwa [endsWord_head?_squeezedFrom]
      rw [SelectTail.text, Text.squeezedFrom_gap, squeezed, ← List.append_assoc,
        kept.withoutEnding_append, kept.trimEnd_append, List.append_assoc]
      exact isItem.table_append_phrase member spelledPhrase .space ends'

end SelectTail

namespace NamedSelect

variable (select : NamedSelect)

def columns : List NamedColumn :=
  select.first :: select.others

def projection : Text :=
  NamedColumn.listed select.columns ++ select.fromGap.text

def source : Text :=
  select.tableGap.text ++ (select.table.text ++ select.tail.text)

def text : Text :=
  select.before.text ++ (select.keyword.text ++ (select.gap.text ++
    (select.projection ++ (select.fromKeyword.text ++ select.source))))

/-- The same statement as one that lists any items. -/
def listed : ListedSelect where
  head := { before := select.before, keyword := select.keyword, gap := select.gap
            duplicates := none }
  first := select.first.item
  others := select.others.map NamedColumn.item
  plain := by
    intro _single word member leads
    rcases List.mem_cons.mp member with rfl | member
    · exact select.notDistinct (select.first.beginsWith_of_leadsWith Text.isKeyword_distinct leads)
    · rw [List.mem_singleton.mp member] at leads
      exact select.notAll (select.first.beginsWith_of_leadsWith Text.isKeyword_all leads)
  after := .source select.fromGap select.fromKeyword select.source
    (select.tableGap.endsWord_head? _)
  kept := fun _margin ended => SelectEnd.noConfusion ended

theorem items_listed : select.listed.items = select.columns.map NamedColumn.item := rfl

theorem text_listed : select.listed.text = select.text := by
  have columns : select.listed.listed = NamedColumn.listed select.columns := by
    rw [ListedSelect.listed, items_listed, SelectItem.listed, List.map_map]
    rfl
  rw [ListedSelect.text, columns, text, projection]
  simp [listed, SelectHead.text, SelectHead.duplicateText, SelectEnd.text]

/-- The outline of the statement has the names of the columns and the table's label. -/
theorem ofStatement_text :
    SelectOutline.ofStatement select.text =
      { columns := select.columns.map NamedColumn.name, table := select.table.label } := by
  have columns : (SelectOutline.ofStatement select.text).columns =
      select.columns.map NamedColumn.name := by
    rw [← select.text_listed, select.listed.columns_text, select.items_listed, List.map_map]
    apply List.map_congr_left
    intro column _member
    exact (congrArg Column.label column.line_item).trans column.label_line
  have label : select.table.squeezed.label = select.table.label := by
    unfold NamedTable.label NamedTable.squeezed
    cases select.table.renamed <;> rfl
  have sourced : select.listed.after = .source select.fromGap select.fromKeyword select.source
      (select.tableGap.endsWord_head? _) := rfl
  have table : (SelectOutline.ofStatement select.text).table = select.table.label := by
    rw [← select.text_listed, select.listed.table_text sourced, source,
      select.tail.table_line select.table.squeezed.isItem select.table.squeezedFrom_append
        select.tableGap.blank, select.table.squeezed.itemName_text, label]
  generalize SelectOutline.ofStatement select.text = outline at columns table ⊢
  obtain ⟨_, _⟩ := outline
  exact congrArg₂ SelectOutline.mk columns table

/-- A nested query with a comma and a keyword between quotes, a type after AS in parentheses, an
alias without the alias keyword, and a join. -/
theorem ofStatement_latest :
    SelectOutline.ofStatement "select (SELECT max(', FROM') FROM b) As latest,cast(x AS int)  AS y
        FROM a.b t LEFT JOIN c" = { columns := ["latest", "y"], table := "t" } := by
  have lacks {text keyword : Text} (isKeyword : keyword.IsKeyword)
      (nothing : first? (word keyword) text = none) : text.LacksWord keyword :=
    lacksWord_of_first?_eq_none isKeyword nothing
  obtain ⟨latest, spelledLatest, namedLatest, expressed⟩ : ∃ column : NamedColumn,
      column.text = "(SELECT max(', FROM') FROM b) As latest" ∧ column.name = "latest" ∧
        column.expression = "(SELECT max(', FROM') FROM b)" :=
    ⟨{ before := .empty, expression := "(SELECT max(', FROM') FROM b)", visible := by decide
       balanced := by decide, noComma := by decide, noFrom := lacks (by decide) (by decide)
       noAlias := lacks (by decide) (by decide), gap := .space, keyword := ⟨"As", by decide, by decide⟩
       margin := .space, name := "latest", nonempty := by decide, ascii := by decide
       other := by decide, after := .empty }, rfl, rfl, rfl⟩
  obtain ⟨cast, spelledCast, namedCast⟩ : ∃ column : NamedColumn,
      column.text = "cast(x AS int)  AS y" ∧ column.name = "y" :=
    ⟨{ before := .empty, expression := "cast(x AS int)", visible := by decide
       balanced := by decide, noComma := by decide, noFrom := lacks (by decide) (by decide)
       noAlias := lacks (by decide) (by decide), gap := ⟨"  ", by decide, by decide⟩
       keyword := ⟨"AS", by decide, by decide⟩, margin := .space, name := "y", nonempty := by decide
       ascii := by decide, other := by decide, after := .empty }, rfl, rfl⟩
  obtain ⟨table, spelledTable, labelled⟩ : ∃ table : NamedTable,
      table.text = "a.b t" ∧ table.label = "t" :=
    ⟨{ first := ⟨"a", by decide, by decide, by decide, by decide⟩
       others := [⟨"b", by decide, by decide, by decide, by decide⟩]
       renamed := some ⟨.space, none, ⟨"t", by decide, by decide, by decide, by decide⟩⟩ }, rfl, rfl⟩
  have join : SpellsPhrase ["LEFT", "JOIN"] "LEFT JOIN" :=
    .more ⟨"LEFT", by decide, by decide⟩ .space (.last ⟨"JOIN", by decide, by decide⟩)
  have outlined := ofStatement_text
    { before := .empty, keyword := ⟨"select", by decide, by decide⟩, gap := .space, first := latest
      notDistinct := by rw [expressed]; decide
      notAll := by rw [expressed]; decide
      others := [cast], fromGap := ⟨"\n        ", by decide, by decide⟩
      fromKeyword := ⟨"FROM", by decide, by decide⟩, tableGap := .space, table := table
      tail := .clause .space ["LEFT", "JOIN"] (by decide) "LEFT JOIN" join " c" (by decide) }
  simp only [text, projection, NamedColumn.listed, source, columns, List.map_cons, List.map_nil,
    spelledLatest, spelledCast, spelledTable, namedLatest, namedCast, labelled, SelectTail.text]
    at outlined
  convert outlined using 2
  decide +kernel

end NamedSelect
end PooledQuery
