/-
Outlines of bounded statements.

A range clause is appended to a statement on a line of its own.  It leaves the columns as they
are.  A clause that begins with LIMIT also leaves the table, since LIMIT ends the table clause.
But OFFSET does not end it, so after a single table without alias it is taken for the alias.
-/
import Mathlib.Data.List.Basic
import PooledQuery.Paging
import PooledQuery.Proofs.Outline.Appended
import PooledQuery.Proofs.Outline.Opacity
import PooledQuery.Proofs.Outline.Requoting

namespace PooledQuery

open Keyword

/-! ### Clauses that follow a statement -/

/-- A clause on one line that goes on with nothing in front of it and has neither a SELECT nor, in
front of a phrase that ends the table clause, a comma. -/
structure IsTrailing (clause : Text) : Prop where
  nonempty : clause ≠ []
  line : Text.squeezedFrom true clause = clause
  starts : ∀ point ∈ clause.head?, point.isBlank = false
  ends : ∀ point ∈ clause.getLast?, point.isBlank = false ∧ point ≠ .char ';'
  noSelect : first? (word "SELECT") clause = none
  noComma : first? (mark ',') (Source.tableClause clause) = none
  noAlias : ∀ first ∈ (Text.words (Source.tableClause clause)).head?, Text.upper first ≠ "AS"
  noPhrase : ∀ words ∈ Source.endPhrases, ∀ word ∈ words.tail, Text.afterWord? word clause = none

private theorem Source.keywords_of_endPhrases :
    ∀ words ∈ endPhrases, words ≠ [] ∧ ∀ word ∈ words, word.IsKeyword := by
  decide +kernel

namespace IsTrailing

variable {clause : Text} (trailing : IsTrailing clause)
include trailing

theorem isFlush : clause.IsFlush where
  starts := trailing.starts
  ends := fun point last => (trailing.ends point last).1

theorem word_ignored {keyword : Text} (isKeyword : keyword.IsKeyword) :
    IgnoresClause (word keyword) clause :=
  word_ignoresClause isKeyword trailing.starts

private theorem clauseEnd_ignored : IgnoresClause Source.clauseEnd clause := by
  apply firstOf_ignoresClause
  rw [List.forall_mem_map]
  intro words listed
  obtain ⟨nonempty, keywords⟩ := Source.keywords_of_endPhrases words listed
  exact phrase_ignoresClause nonempty keywords trailing.starts (trailing.noPhrase words listed)

theorem withoutEnding_append (front : Text) :
    Text.withoutEnding (front ++ clause) = front ++ clause := by
  obtain ⟨first, last, whole⟩ := (List.eq_nil_or_concat clause).resolve_left trailing.nonempty
  rw [List.concat_eq_append] at whole
  obtain ⟨unblank, other⟩ := trailing.ends last (by rw [whole]; exact List.getLast?_concat)
  rw [whole, ← List.append_assoc, Text.withoutEnding_append_kept unblank other]
  rfl

end IsTrailing

namespace SelectOutline

variable {statement text clause : Text}

/-- The text after FROM, without white space around it. -/
def source (statement : Text) : Text :=
  match first? (word "FROM") (withoutTableExpressions (normalized statement)) with
  | some found => Text.trim found.after
  | none => []

theorem table_of_source (statement : Text) :
    (ofStatement statement).table = Source.table (source statement) := by
  rw [table_eq]
  unfold tableClause source
  cases first? (word "FROM") (withoutTableExpressions (normalized statement)) with
  | none => rfl
  | some found => exact (Source.table_eq _).symm

/-! ### Stages of a SELECT with a clause behind it -/

/-- A statement that does not end with a semicolon has a last code point that is kept on one line,
and only white space after it. -/
theorem exists_normalized (visible : ¬statement.IsBlank)
    (unended : (Text.trimEnd statement).getLast? ≠ some (.char ';')) :
    ∃ front last after, statement = front ++ last :: after ∧ Text.IsBlank after ∧
      last.isBlank = false ∧ normalized statement = Text.squeezedFrom true front ++ [last] := by
  obtain ⟨after, blank, whole, ends⟩ := @Text.exists_cutEnd CodePoint.isBlank statement
  rw [← Text.trimEnd_eq_cutEnd] at whole ends
  have nonempty : Text.trimEnd statement ≠ [] := by
    intro nothing
    rw [nothing, List.nil_append] at whole
    rw [whole] at visible
    exact visible blank
  obtain ⟨front, last, split⟩ := (List.eq_nil_or_concat _).resolve_left nonempty
  rw [List.concat_eq_append] at split
  have isLast : (Text.trimEnd statement).getLast? = some last := by
    rw [split]
    exact List.getLast?_concat
  have unblank : last.isBlank = false := ends last isLast
  have other : last ≠ .char ';' := by
    rintro rfl
    exact unended isLast
  rw [split, List.append_assoc, List.singleton_append] at whole
  refine ⟨front, last, after, whole, blank, unblank, ?_⟩
  rw [normalized_eq, whole, Text.squeezedFrom_append, Text.squeezedFrom_cons_unblank unblank,
    Text.withoutEnding_append_kept unblank other,
    Text.withoutEnding_of_blank (Text.isBlank_squeezedFrom blank false)]

private theorem normalized_append (trailing : IsTrailing clause) (visible : ¬statement.IsBlank)
    (unended : (Text.trimEnd statement).getLast? ≠ some (.char ';')) (gap : Gap) :
    normalized (statement ++ (gap.text ++ clause)) =
      normalized statement ++ (Gap.space.text ++ clause) := by
  obtain ⟨front, last, after, whole, blank, unblank, kept⟩ := exists_normalized visible unended
  let between : Gap := ⟨after ++ gap.text, by simp [gap.nonempty], blank.append gap.blank⟩
  have spaced : Text.squeezedFrom false (after ++ (gap.text ++ clause)) =
      Gap.space.text ++ clause := by
    have squeezed := Text.squeezedFrom_gap between clause
    rwa [trailing.line, List.append_assoc] at squeezed
  have squeezed : Text.squeezedFrom true (statement ++ (gap.text ++ clause)) =
      (Text.squeezedFrom true front ++ [last] ++ Gap.space.text) ++ clause := by
    rw [whole, List.append_assoc, List.cons_append, Text.squeezedFrom_append,
      Text.squeezedFrom_cons_unblank unblank, spaced]
    simp
  rw [normalized_eq, squeezed, trailing.withoutEnding_append, kept]
  simp

theorem normalized_isBalanced (balanced : statement.IsBalanced) (visible : ¬statement.IsBlank)
    (unended : (Text.trimEnd statement).getLast? ≠ some (.char ';')) :
    (normalized statement).IsBalanced := by
  obtain ⟨front, last, after, whole, blank, unblank, kept⟩ := exists_normalized visible unended
  have squeezed := balanced.squeezedFrom true
  have margin := Text.isBlank_squeezedFrom blank false
  rw [whole, Text.squeezedFrom_append, Text.squeezedFrom_cons_unblank unblank,
    ← List.singleton_append, ← List.append_assoc] at squeezed
  rw [kept]
  exact Nesting.balancedFrom_of_append
    (fun point member => CodePoint.isInert_of_isBlank (margin point member))
    Quoting.isSound_outside squeezed

private theorem withoutTableExpressions_append (trailing : IsTrailing clause)
    (balanced : text.IsBalanced)
    (gap : Gap) :
    withoutTableExpressions (text ++ (gap.text ++ clause)) =
      withoutTableExpressions text ++ (gap.text ++ clause) := by
  have select := trailing.word_ignored Text.isKeyword_select
  unfold withoutTableExpressions
  rw [(trailing.word_ignored Text.isKeyword_with).appended]
  cases word "WITH" none text with
  | none => rfl
  | some following =>
      rw [Option.map_some]
      dsimp only
      cases first : first? (word "SELECT") text with
      | some found =>
          rw [select.first?_append_of_some first]
          rfl
      | none =>
          rw [select.first?_append_of_none balanced first, trailing.noSelect]
          rfl

private theorem withoutTableExpressions_isBalanced (balanced : text.IsBalanced) :
    (withoutTableExpressions text).IsBalanced := by
  unfold withoutTableExpressions
  split
  · split
    · rename_i found first
      obtain ⟨whole, atTop, _spelled⟩ := first?_word_eq_some Text.isKeyword_select first
      unfold Text.IsBalanced at balanced
      rw [whole] at balanced
      have rest := Nesting.balancedFrom_after balanced
      rwa [atTop] at rest
    · exact balanced
  · exact balanced

theorem afterLeadingWord?_append_clause {keyword : Text} (isKeyword : keyword.IsKeyword)
    (other : ("FROM" : Text).length ≠ keyword.length)
    (reads : (first? (word "FROM") text).isSome = true) (gap : Gap) (clause : Text) :
    afterLeadingWord? keyword (text ++ (gap.text ++ clause)) =
      (afterLeadingWord? keyword text).map (· ++ (gap.text ++ clause)) := by
  unfold afterLeadingWord?
  rw [Text.afterWord?_append isKeyword.2 (gap.endsWord_head? clause)]
  cases leads : Text.afterWord? keyword text with
  | none => rfl
  | some rest =>
      have visible : ¬Text.IsBlank rest := by
        intro blank
        obtain ⟨spelled, same, rfl⟩ := Text.afterWord?_eq_some_iff.mp leads
        let leading : Spelling keyword := ⟨spelled, isKeyword, same⟩
        have skips := (leading.skips other).append Text.isKeyword_from
          (skips_of_isBlank Text.isKeyword_from blank) (separated_of_blank blank)
        rw [skips.passes.first?_eq_none] at reads
        cases reads
      exact afterBlanks?_append_of_not_blank visible _

theorem reads_of_precedes {front rest : Text} (precedes : PrecedesFrom front)
    (reads : (first? (word "FROM") (front ++ rest)).isSome = true) :
    (first? (word "FROM") rest).isSome = true := by
  rwa [precedes.skips.first?_append_map Text.isKeyword_from precedes.ends, Option.isSome_map]
    at reads

theorem withoutSelect_append (reads : (first? (word "FROM") text).isSome = true) (gap : Gap)
    (clause : Text) :
    withoutSelect (text ++ (gap.text ++ clause)) = withoutSelect text ++ (gap.text ++ clause) := by
  unfold withoutSelect
  rw [afterLeadingWord?_append_clause Text.isKeyword_select (by decide) reads]
  cases leads : afterLeadingWord? "SELECT" text with
  | none => rfl
  | some rest =>
      obtain ⟨leading, margin, rfl⟩ := exists_of_afterLeadingWord? Text.isKeyword_select leads
      rw [← List.append_assoc] at reads
      have later := reads_of_precedes (.of_leading (by decide) leading margin) reads
      simp only [Option.map_some,
        afterLeadingWord?_append_clause Text.isKeyword_distinct (by decide) later,
        afterLeadingWord?_append_clause Text.isKeyword_all (by decide) later]
      cases afterLeadingWord? "DISTINCT" rest with
      | some following => rfl
      | none => cases afterLeadingWord? "ALL" rest <;> rfl

private theorem exists_trim_append (trailing : IsTrailing clause) (nonempty : Text.trim text ≠ [])
    (gap : Gap) :
    ∃ wider : Gap, Text.trim (text ++ (gap.text ++ clause)) =
      Text.trim text ++ (wider.text ++ clause) := by
  obtain ⟨before, after, blankBefore, blankAfter, whole, flush⟩ := Text.exists_trim text
  let wider : Gap := ⟨after ++ gap.text, by simp [gap.nonempty], blankAfter.append gap.blank⟩
  have core : Text.IsFlush (Text.trim text ++ (wider.text ++ clause)) := by
    constructor
    · intro point first
      apply flush.starts
      rwa [List.head?_append_of_ne_nil _ nonempty] at first
    · intro point last
      apply trailing.isFlush.ends
      rwa [← List.append_assoc, List.getLast?_append_of_ne_nil _ trailing.nonempty] at last
  refine ⟨wider, ?_⟩
  have longer : text ++ (gap.text ++ clause) =
      before ++ (Text.trim text ++ (wider.text ++ clause)) ++ [] := by
    calc
      text ++ (gap.text ++ clause) =
          before ++ Text.trim text ++ after ++ (gap.text ++ clause) :=
        congrArg (· ++ (gap.text ++ clause)) whole
      _ = before ++ (Text.trim text ++ (wider.text ++ clause)) ++ [] := by simp [wider]
  rw [longer, core.trim_between blankBefore (List.forall_mem_nil _)]

theorem source_isFlush (statement : Text) : (source statement).IsFlush := by
  unfold source
  split
  · exact Text.isFlush_trim _
  · exact ⟨nofun, nofun⟩

section Append

variable (trailing : IsTrailing clause) (balanced : statement.IsBalanced)
  (unended : (Text.trimEnd statement).getLast? ≠ some (.char ';'))
  (sourced : source statement ≠ [])

include sourced

theorem exists_source :
    ∃ found, first? (word "FROM") (withoutTableExpressions (normalized statement)) = some found ∧
      source statement = Text.trim found.after := by
  unfold source at sourced ⊢
  cases first : first? (word "FROM") (withoutTableExpressions (normalized statement)) with
  | none =>
      rw [first] at sourced
      exact absurd rfl sourced
  | some found => exact ⟨found, rfl, rfl⟩

theorem not_isBlank : ¬statement.IsBlank := by
  intro blank
  apply sourced
  have nothing : normalized statement = [] := by
    rw [normalized_eq, Text.squeezedFrom_of_blank blank]
    rfl
  unfold source
  rw [nothing]
  rfl

include balanced unended

private theorem source_isBalanced : (source statement).IsBalanced := by
  obtain ⟨found, first, same⟩ := exists_source sourced
  have whole := withoutTableExpressions_isBalanced
    (normalized_isBalanced balanced (not_isBlank sourced) unended)
  obtain ⟨split, atTop, spelled, words, here⟩ := first?_word_eq_some Text.isKeyword_from first
  unfold Text.IsBalanced at whole
  rw [split] at whole
  have rest := Nesting.balancedFrom_after whole
  rw [atTop, here] at rest
  have after : found.after.IsBalanced :=
    Nesting.balancedFrom_of_inert_append
      (fun point member => CodePoint.isInert_of_isWord (words point member)) rest
  rw [same]
  exact after.trim

include trailing

private theorem append_clause (gap : Gap) :
    projection (statement ++ (gap.text ++ clause)) = projection statement ∧
      ∃ wider : Gap, source (statement ++ (gap.text ++ clause)) =
        source statement ++ (wider.text ++ clause) := by
  obtain ⟨found, first, same⟩ := exists_source sourced
  have visible := not_isBlank sourced
  have ignored := trailing.word_ignored Text.isKeyword_from
  have whole : withoutTableExpressions (normalized (statement ++ (gap.text ++ clause))) =
      withoutTableExpressions (normalized statement) ++ (Gap.space.text ++ clause) := by
    rw [normalized_append trailing visible unended,
      withoutTableExpressions_append trailing (normalized_isBalanced balanced visible unended)]
  have reads : (first? (word "FROM") (withoutTableExpressions (normalized statement))).isSome =
      true := by rw [first]; rfl
  constructor
  · obtain ⟨front, split, precedes⟩ :=
      exists_withoutSelect (withoutTableExpressions (normalized statement))
    rw [split] at reads
    obtain ⟨inner, reached⟩ := Option.isSome_iff_exists.mp (reads_of_precedes precedes reads)
    rw [← split] at reads
    unfold projection body
    rw [whole, withoutSelect_append reads, reached, ignored.first?_append_of_some reached]
    rfl
  · obtain ⟨wider, trimmed⟩ := exists_trim_append trailing (same ▸ sourced) .space
    refine ⟨wider, ?_⟩
    rw [same, ← trimmed]
    unfold source
    rw [whole, ignored.first?_append_of_some first]
    rfl

private theorem ofStatement_append (gap : Gap) :
    ofStatement (statement ++ (gap.text ++ clause)) =
      ⟨(ofStatement statement).columns,
        if Source.IsLoneTable (source statement) then
          Text.unquoted ((Text.words (Source.tableClause clause)).headD
            (Source.nameAndRest (source statement)).1)
        else (ofStatement statement).table⟩ := by
  obtain ⟨projected, wider, behind⟩ := append_clause trailing balanced unended sourced gap
  have columns : (ofStatement (statement ++ (gap.text ++ clause))).columns =
      (ofStatement statement).columns := by
    rw [columns_eq, columns_eq, projected]
  have table := Source.table_append (source_isBalanced balanced unended sourced)
    (source_isFlush statement) sourced trailing.clauseEnd_ignored trailing.noComma
    trailing.noAlias wider
  rw [← behind, ← table_of_source, ← table_of_source] at table
  rw [← columns, ← table]

end Append

/-! ### Range clauses -/

/-- Dialects and their range clauses. -/
def rangeClauses : List (Dialect × Text) :=
  [(.generic, "OFFSET ? ROWS FETCH NEXT ? ROWS ONLY"), (.sqlite, "LIMIT ?, ?"),
    (.postgres, "OFFSET %s LIMIT %s"), (.mysql, "LIMIT %s, %s")]

private theorem isTrailing_of_rangeClauses :
    ∀ bounded ∈ rangeClauses, IsTrailing bounded.2 := by
  have nonempty : ∀ bounded ∈ rangeClauses, bounded.2 ≠ [] := by decide
  have line : ∀ bounded ∈ rangeClauses, Text.squeezedFrom true bounded.2 = bounded.2 := by
    decide +kernel
  have starts : ∀ bounded ∈ rangeClauses, ∀ point ∈ bounded.2.head?, point.isBlank = false := by
    decide +kernel
  have ends : ∀ bounded ∈ rangeClauses, ∀ point ∈ bounded.2.getLast?,
      point.isBlank = false ∧ point ≠ .char ';' := by decide +kernel
  have noSelect : ∀ bounded ∈ rangeClauses, first? (word "SELECT") bounded.2 = none := by
    decide +kernel
  have noComma : ∀ bounded ∈ rangeClauses,
      first? (mark ',') (Source.tableClause bounded.2) = none := by decide +kernel
  have noAlias : ∀ bounded ∈ rangeClauses,
      ∀ first ∈ (Text.words (Source.tableClause bounded.2)).head?, Text.upper first ≠ "AS" := by
    decide +kernel
  have noPhrase : ∀ bounded ∈ rangeClauses, ∀ words ∈ Source.endPhrases, ∀ word ∈ words.tail,
      Text.afterWord? word bounded.2 = none := by decide +kernel
  intro bounded listed
  exact ⟨nonempty _ listed, line _ listed, starts _ listed, ends _ listed, noSelect _ listed,
    noComma _ listed, noAlias _ listed, noPhrase _ listed⟩

private theorem rangeClause_of_rangeClauses :
    ∀ bounded ∈ rangeClauses, bounded.1.rangeClause = .ok bounded.2 := by
  have generic : Text.ofString "OFFSET " ++ "?" ++ " ROWS FETCH NEXT " ++ "?" ++ " ROWS ONLY" =
      Text.ofString "OFFSET ? ROWS FETCH NEXT ? ROWS ONLY" := by decide +kernel
  simp only [rangeClauses, List.forall_mem_cons, List.not_mem_nil, false_imp_iff, implies_true,
    and_true]
  exact ⟨congrArg Except.ok generic, rfl, rfl, rfl⟩

private theorem exists_rangeClause :
    ∀ dialect ∈ [Dialect.generic, .sqlite, .postgres, .mysql],
      ∃ bounded ∈ rangeClauses, bounded.1 = dialect := by
  decide +kernel

/-- What is read of a range clause as if it belonged to the table clause. -/
theorem words_of_rangeClauses :
    ∀ bounded ∈ rangeClauses,
      (Text.words (Source.tableClause bounded.2)).head? =
        if bounded.1 ∈ [Dialect.generic, .postgres] then some (Text.ofString "OFFSET")
        else none := by
  decide +kernel

/-- Bounding a statement leaves its outline as it is, except that the word OFFSET is taken for the
alias of a single table that has none. -/
theorem ofStatement_ranged {sql : Text} {dialect : Dialect}
    (builtIn : dialect ∈ [Dialect.generic, .sqlite, .postgres, .mysql]) (balanced : sql.IsBalanced)
    (unended : (Text.trimEnd sql).getLast? ≠ some (.char ';')) (sourced : source sql ≠ []) :
    ∃ ranged, Paging.rangeStatement sql (some dialect) = .ok ranged ∧
      ofStatement ranged =
        if dialect ∈ [Dialect.generic, .postgres] ∧ Source.IsLoneTable (source sql) then
          ⟨(ofStatement sql).columns, "OFFSET"⟩
        else ofStatement sql := by
  obtain ⟨bounded, listed, rfl⟩ := exists_rangeClause dialect builtIn
  let line : Gap := ⟨"\n", by decide, by decide⟩
  have given : Paging.rangeStatement sql (some bounded.1) =
      .ok (sql ++ (line.text ++ bounded.2)) := by
    unfold Paging.rangeStatement Dialect.rangeClauseOf
    dsimp only
    rw [rangeClause_of_rangeClauses bounded listed, ← List.append_assoc]
    rfl
  refine ⟨_, given, ?_⟩
  rw [ofStatement_append (isTrailing_of_rangeClauses bounded listed) balanced unended sourced line,
    List.headD_eq_head?_getD, words_of_rangeClauses bounded listed]
  by_cases lone : Source.IsLoneTable (source sql)
  · by_cases offset : bounded.1 ∈ [Dialect.generic, .postgres]
    · have unquoted : Text.unquoted "OFFSET" = "OFFSET" := by decide
      rw [if_pos lone, if_pos offset, if_pos ⟨offset, lone⟩, Option.getD_some, unquoted]
    · have table := Source.table_of_isLoneTable (source_isFlush sql) lone
      rw [if_pos lone, if_neg offset, if_neg fun both => offset both.1, Option.getD_none, ← table,
        ← table_of_source]
  · rw [if_neg lone, if_neg fun both => lone both.2]

theorem ofStatement_ranged_limit :
    ∃ ranged, Paging.rangeStatement "SELECT id FROM users" (some .mysql) = .ok ranged ∧
      ofStatement ranged = ⟨["id"], "users"⟩ := by
  have balanced : Text.IsBalanced "SELECT id FROM users" := by decide +kernel
  have unended : (Text.trimEnd "SELECT id FROM users").getLast? ≠ some (.char ';') := by
    decide +kernel
  have sourced : source "SELECT id FROM users" ≠ [] := by decide +kernel
  obtain ⟨ranged, given, same⟩ :=
    @ofStatement_ranged "SELECT id FROM users" .mysql (by decide +kernel) balanced unended sourced
  have limits : Dialect.mysql ∉ [Dialect.generic, .postgres] := by decide +kernel
  have alone : ofStatement "SELECT id FROM users" = ⟨["id"], "users"⟩ := by decide +kernel
  rw [if_neg fun both => limits both.1, alone] at same
  exact ⟨ranged, given, same⟩

/-- Bounded by the standard clause, the table of a statement becomes OFFSET. -/
theorem ofStatement_ranged_offset :
    Text.IsBalanced "SELECT id FROM users" ∧ source "SELECT id FROM users" = "users" ∧
      ofStatement "SELECT id FROM users" = ⟨["id"], "users"⟩ ∧
      ∃ ranged, Paging.rangeStatement "SELECT id FROM users" (some .generic) = .ok ranged ∧
        ofStatement ranged = ⟨["id"], "OFFSET"⟩ := by
  refine ⟨by decide +kernel, by decide +kernel, by decide +kernel,
    "SELECT id FROM users\nOFFSET ? ROWS FETCH NEXT ? ROWS ONLY", ?_, by decide +kernel⟩
  have whole : Text.ofString "SELECT id FROM users" ++ "\n" ++
      (Text.ofString "OFFSET " ++ "?" ++ " ROWS FETCH NEXT " ++ "?" ++ " ROWS ONLY") =
        Text.ofString "SELECT id FROM users\nOFFSET ? ROWS FETCH NEXT ? ROWS ONLY" := by
    decide +kernel
  exact congrArg Except.ok whole

end SelectOutline
end PooledQuery
