/-
Statements that differ between quotes only.

Two such statements are the same once emptied, so they have equally many columns.  The search for
FROM reads the table clause of the whole statement, and where that clause has no quotes in one
statement it is the same in the other.
-/
import PooledQuery.Proofs.Outline.Opacity

namespace PooledQuery

def Text.quotedBy (quote : Char) (content : Text) : Text :=
  .char quote :: content ++ [.char quote]

/-- Statements that are the same but for the contents of closed quoted segments.  Neither the old
contents nor the new ones have a backslash or the quote around them. -/
inductive Requoted : Text → Text → Prop where
  | same (tail : Text) : Requoted tail tail
  -- What is outside of quotes at its end may be read on from there.
  | copied {part first second : Text} (closed : Quoting.outside.after part = .outside)
      (others : Requoted first second) : Requoted (part ++ first) (part ++ second)
  | replaced {quote : Char} {old new first second : Text}
      (opens : Quoting.quote? (.char quote) = some quote)
      (oldPlain : .char '\\' ∉ old ∧ .char quote ∉ old)
      (newPlain : .char '\\' ∉ new ∧ .char quote ∉ new)
      (others : Requoted first second) :
      Requoted (Text.quotedBy quote old ++ first) (Text.quotedBy quote new ++ second)

namespace Text

private theorem emptiedFrom_inside {quote : Char} {content : Text}
    (plain : .char '\\' ∉ content ∧ .char quote ∉ content)
    (opens : Quoting.quote? (.char quote) = some quote) (rest : Text) :
    emptiedFrom (.inside quote false) (content ++ .char quote :: rest) =
      .char quote :: emptied rest := by
  induction content with
  | nil =>
      have other : CodePoint.char quote ≠ .char '\\' := by
        intro same
        rw [same] at opens
        cases opens
      have closes : (Quoting.inside quote false).step (.char quote) = .outside := by
        simp [Quoting.step, other]
      rw [List.nil_append, emptiedFrom_kept (Or.inr closes), closes]
      rfl
  | cons point others ih =>
      obtain ⟨noEscape, noQuote⟩ := plain
      rw [List.mem_cons, not_or] at noEscape noQuote
      have stays : (Quoting.inside quote false).step point = .inside quote false := by
        simp [Quoting.step, Ne.symm noEscape.1, Ne.symm noQuote.1]
      rw [List.cons_append, emptiedFrom_dropped (by simp [stays]), stays]
      exact ih ⟨noEscape.2, noQuote.2⟩

theorem emptied_quoted {quote : Char} {content : Text}
    (plain : .char '\\' ∉ content ∧ .char quote ∉ content)
    (opens : Quoting.quote? (.char quote) = some quote) (rest : Text) :
    emptied (quotedBy quote content ++ rest) = .char quote :: .char quote :: emptied rest := by
  have within : Quoting.outside.step (.char quote) = .inside quote false := by
    simp [Quoting.step, opens]
  have whole : quotedBy quote content ++ rest = .char quote :: (content ++ .char quote :: rest) := by
    simp [quotedBy]
  rw [whole, emptied_cons, within, emptiedFrom_inside plain opens]

private theorem emptied_of_quoteFree {text : Text} (free : IsQuoteFree text) :
    emptied text = text := by
  induction text with
  | nil => rfl
  | cons point rest ih =>
      obtain ⟨plain, others⟩ := List.forall_mem_cons.mp free
      have stays : Quoting.outside.step point = .outside := by
        simp [Quoting.step, plain]
      rw [emptied_cons, stays]
      exact congrArg (point :: ·) (ih others)

end Text

theorem Requoted.emptied_eq {first second : Text} (requoted : Requoted first second) :
    first.emptied = second.emptied := by
  induction requoted with
  | same tail => rfl
  | copied closed others ih =>
      unfold Text.emptied at ih ⊢
      rw [Text.emptiedFrom_append, Text.emptiedFrom_append, closed, ih]
  | replaced opens oldPlain newPlain others ih =>
      rw [Text.emptied_quoted oldPlain opens, Text.emptied_quoted newPlain opens, ih]

open Keyword

namespace SelectOutline

theorem table_eq (statement : Text) :
    (ofStatement statement).table = Source.firstTable (tableClause statement) := by
  obtain ⟨front, whole, precedes⟩ :=
    exists_withoutSelect (withoutTableExpressions (normalized statement))
  have search := @Skips.first?_append_map "FROM" front
    (withoutSelect (withoutTableExpressions (normalized statement))) Text.isKeyword_from precedes.skips
    precedes.ends
  rw [← whole] at search
  unfold ofStatement tableClause
  dsimp only
  rw [search]
  cases first? (word "FROM") (withoutSelect (withoutTableExpressions (normalized statement))) with
  | none => rfl
  | some found =>
      dsimp only [Option.map_some]
      rw [Source.table_eq]

variable {first second : Text}

private theorem tableClause_of_requoted (requoted : Requoted first second)
    (free : (tableClause first).IsQuoteFree) : tableClause second = tableClause first := by
  -- The other clause has no quotes either, since emptying would have left them.
  have same : (tableClause second).emptied = tableClause first := by
    rw [← tableClause_emptied, ← requoted.emptied_eq, tableClause_emptied,
      Text.emptied_of_quoteFree free]
  have kept : (tableClause second).emptied = tableClause second := by
    apply Text.eq_emptied_of_quoteFree
    rwa [same]
  rw [← kept, same]

/-- What stands between quotes changes neither the number of columns nor, where the table clause
has no quotes, the table. -/
theorem ofStatement_of_requoted (requoted : Requoted first second) :
    (ofStatement second).columns.length = (ofStatement first).columns.length ∧
      ((tableClause first).IsQuoteFree →
        (ofStatement second).table = (ofStatement first).table) := by
  constructor
  · rw [← length_columns_emptied, ← requoted.emptied_eq, length_columns_emptied]
  · intro free
    rw [table_eq, table_eq, tableClause_of_requoted requoted free]

/-- A comma, a keyword, a parenthesis and other quotes between quotes. -/
theorem ofStatement_requoted_select :
    Requoted "SELECT 'a' AS x, `b` FROM t" "SELECT ', FROM (' AS x, `\";JOIN` FROM t" ∧
      (tableClause "SELECT 'a' AS x, `b` FROM t").IsQuoteFree ∧
      (ofStatement "SELECT ', FROM (' AS x, `\";JOIN` FROM t").columns.length = 2 ∧
      (ofStatement "SELECT ', FROM (' AS x, `\";JOIN` FROM t").table = "t" := by
  have requoted : Requoted "SELECT 'a' AS x, `b` FROM t"
      "SELECT ', FROM (' AS x, `\";JOIN` FROM t" := by
    have first : ("SELECT 'a' AS x, `b` FROM t" : Text) =
        Text.ofString "SELECT " ++ (Text.quotedBy Text.singleQuote "a" ++
          (Text.ofString " AS x, " ++ (Text.quotedBy Text.backtick "b" ++
            Text.ofString " FROM t"))) := by decide
    have second : ("SELECT ', FROM (' AS x, `\";JOIN` FROM t" : Text) =
        Text.ofString "SELECT " ++ (Text.quotedBy Text.singleQuote ", FROM (" ++
          (Text.ofString " AS x, " ++ (Text.quotedBy Text.backtick "\";JOIN" ++
            Text.ofString " FROM t"))) := by decide
    rw [first, second]
    apply Requoted.copied (by decide)
    apply Requoted.replaced (by decide) (by decide) (by decide)
    apply Requoted.copied (by decide)
    exact Requoted.replaced (by decide) (by decide) (by decide) (.same _)
  have free : (tableClause "SELECT 'a' AS x, `b` FROM t").IsQuoteFree := by decide +kernel
  obtain ⟨columns, table⟩ := ofStatement_of_requoted requoted
  have length : (ofStatement "SELECT 'a' AS x, `b` FROM t").columns.length = 2 := by decide +kernel
  have name : (ofStatement "SELECT 'a' AS x, `b` FROM t").table = "t" := by decide +kernel
  exact ⟨requoted, free, columns.trans length, (table free).trans name⟩

end SelectOutline
end PooledQuery
