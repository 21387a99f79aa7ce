/-
What the driver sends for a page and for its total.

A driver of the format style interpolates a statement that comes with parameters, and sends
one that comes without them as it is.  A range statement always has parameters, its bounds;
a counting statement has only those of the selection.  So the two are about one and the
same inner statement exactly if the selection has parameters or no percent sign.
-/
import PooledQuery.Proofs.Session.Rehearsed
import PooledQuery.Proofs.Session.Selection
import PooledQuery.Proofs.Statement.Interpolation

namespace PooledQuery

open Interpolation

def GivenStatement.sent (literal : Value → Text) : GivenStatement → Option Text
  | (sql, none) => some sql
  | (sql, some params) => interpolate literal sql params

/-- A range statement and a counting statement are about one inner statement: what is sent
for the one is its text and the filled range clause, for the other its text to be counted. -/
def SharesInner (literal : Value → Text) (dialect : Dialect) (offset limit : Value)
    (range count : GivenStatement) : Prop :=
  ∃ inner clause bounds, dialect.rangeClause = .ok clause ∧
    interpolate literal clause [offset, limit] = some bounds ∧
    range.sent literal = some (inner ++ "\n" ++ bounds) ∧
    count.sent literal = some (Paging.countStatement inner)

variable {literal : Value → Text} {dialect : Dialect} {clause sql inner bounds : Text}
  {params : List Value} {offset limit : Value}

private theorem rangeClause_hasHoles (format : dialect.usesFormat = true)
    (own : ∀ clause, dialect.range = .own clause → HasHoles clause 2) :
    ∃ clause, dialect.rangeClause = .ok clause ∧ HasHoles clause 2 := by
  unfold Dialect.rangeClause
  cases range : dialect.range with
  | own clause => exact ⟨clause, rfl, own clause range⟩
  | standard =>
      have notMarks : dialect.parameterStyle ≠ "qmark" := by
        intro marks
        unfold Dialect.usesFormat at format
        rw [marks] at format
        exact absurd format (by decide)
      have token : dialect.placeholder = .ok "%s" := by
        unfold Dialect.placeholder
        rw [if_neg notMarks, if_pos format]
      rw [token]
      exact ⟨_, rfl, _, rfl, by decide⟩

private theorem sent_givenRange (filledSql : interpolate literal sql params = some inner)
    (filledClause : interpolate literal clause [offset, limit] = some bounds) :
    (Session.givenRange clause sql params offset limit).sent literal =
      some (inner ++ "\n" ++ bounds) := by
  have given : Session.givenRange clause sql params offset limit =
      (sql ++ "\n" ++ clause, some (params ++ [offset, limit])) := by
    unfold Session.givenRange GivenStatement.of
    cases params <;> rfl
  have newline : interpolate literal "\n" [] = some "\n" := interpolate_plain _ (by decide)
  have withNewline := interpolate_append _ _ _ _ _ _ filledSql newline
  rw [given]
  rw [List.append_nil] at withNewline
  exact interpolate_append _ _ _ _ _ _ withNewline filledClause

private theorem sent_givenCount_of_params (given : params ≠ [])
    (filledSql : interpolate literal sql params = some inner) :
    (Session.givenCount sql params).sent literal = some (Paging.countStatement inner) := by
  have parameters : Session.givenCount sql params =
      (Paging.countStatement sql, some params) := by
    unfold Session.givenCount GivenStatement.of
    cases params with
    | nil => exact absurd rfl given
    | cons value rest => rfl
  have opening : interpolate literal "SELECT COUNT(1) AS total FROM (\n" [] =
      some "SELECT COUNT(1) AS total FROM (\n" := interpolate_plain _ (by decide)
  have closing : interpolate literal "\n) A" [] = some "\n) A" := interpolate_plain _ (by decide)
  have opened := interpolate_append _ _ _ _ _ _ opening filledSql
  have closed := interpolate_append _ _ _ _ _ _ opened closing
  rw [parameters]
  rw [List.append_nil] at closed
  exact closed

theorem sent_givenCount_of_none :
    (Session.givenCount sql []).sent literal = some (Paging.countStatement sql) := rfl

private theorem countStatement_injective {first second : Text}
    (same : Paging.countStatement first = Paging.countStatement second) : first = second := by
  unfold Paging.countStatement at same
  exact List.append_cancel_left (List.append_cancel_right same)

theorem sharesInner_iff (bounded : dialect.rangeClause = .ok clause)
    (clauseHoles : HasHoles clause 2) (sqlHoles : HasHoles sql params.length) :
    SharesInner literal dialect offset limit (Session.givenRange clause sql params offset limit)
        (Session.givenCount sql params) ↔
      params ≠ [] ∨ .char '%' ∉ sql := by
  obtain ⟨inner, filledSql⟩ := sqlHoles.exists_interpolate literal params rfl
  obtain ⟨bounds, filledClause⟩ := clauseHoles.exists_interpolate literal [offset, limit] rfl
  have rangeSent := sent_givenRange filledSql filledClause
  -- Without parameters the counting statement is sent as it is, so the only inner statement
  -- that the two can share is the text of the selection itself.
  by_cases given : params = []
  · subst given
    rw [← interpolate_nil_eq_self_iff literal sql]
    constructor
    · rintro ⟨shared, clause', bounds', bounded', filledClause', sentRange, sentCount⟩
      rw [bounded] at bounded'
      cases bounded'
      rw [filledClause] at filledClause'
      cases filledClause'
      rw [rangeSent] at sentRange
      rw [sent_givenCount_of_none] at sentCount
      have innerShared : inner = shared :=
        List.append_cancel_right (List.append_cancel_right (Option.some.inj sentRange))
      have sqlShared : sql = shared := countStatement_injective (Option.some.inj sentCount)
      rw [filledSql, innerShared, sqlShared]
      exact .inr rfl
    · intro unchanged
      have same := unchanged.resolve_left fun nonempty => nonempty rfl
      rw [filledSql] at same
      rw [Option.some.inj same] at rangeSent
      exact ⟨sql, clause, bounds, bounded, filledClause, rangeSent, sent_givenCount_of_none⟩
  · refine ⟨fun _shared => .inl given, fun _given => ?_⟩
    exact ⟨inner, clause, bounds, bounded, filledClause, rangeSent,
      sent_givenCount_of_params given filledSql⟩

namespace Session

variable {σ : Type} (session : Session σ)

theorem selections_share_inner_iff (literal : Value → Text) (sql : Text) (params : List Value)
    (format : session.dialect.usesFormat = true)
    (own : ∀ clause, session.dialect.range = .own clause → HasHoles clause 2)
    (sqlHoles : HasHoles sql params.length) (world : World σ) :
    (∀ request range count,
      givenTrace (session.selectPage sql request params world).events = [range, count] →
        ∃ page limit offset, PageBounds world.settings request page limit offset ∧
          (SharesInner literal session.dialect offset (.number limit) range count ↔
            params ≠ [] ∨ .char '%' ∉ sql)) ∧
      ∀ slice range count,
        givenTrace (session.selectSlice sql slice params world).events = [count, range] →
          ∃ offset size, SliceBounds slice offset size ∧
            (SharesInner literal session.dialect offset size range count ↔
              params ≠ [] ∨ .char '%' ∉ sql) := by
  obtain ⟨clause, bounded, clauseHoles⟩ := rangeClause_hasHoles format own
  constructor
  · intro request range count trace
    rcases session.givenTrace_selectPage sql params clause bounded request world with
      nothing | ⟨page, limit, offset, resolved, sublist⟩
    · rw [trace] at nothing
      cases nothing
    · rw [trace] at sublist
      cases sublist.eq_of_length rfl
      exact ⟨page, limit, offset, resolved, sharesInner_iff bounded clauseHoles sqlHoles⟩
  · intro slice range count trace
    obtain ⟨statements, asked, sublist⟩ :=
      session.givenTrace_selectSlice sql params clause bounded slice world
    rw [trace] at sublist
    rcases asked with rfl | ⟨offset, size, sliced, rfl⟩
    · exact absurd sublist.length_le (by simp)
    · cases sublist.eq_of_length rfl
      exact ⟨offset, size, sliced, sharesInner_iff bounded clauseHoles sqlHoles⟩

def oneRow : List Rehearsal.Line :=
  [⟨"COUNT(1)", [⟨none, none, some ["total"], [.tuple [.int 1]], []⟩]⟩,
    ⟨"SELECT", [⟨none, none, some ["id"], [.tuple [.int 7]], []⟩]⟩]

/-- The literals of integers. -/
def integerLiteral : Value → Text
  | .int n => Text.ofInt n
  | _ => "NULL"

def oneRowWorld : World Rehearsal.Stage :=
  Rehearsal.quietWorld .silent oneRow []

/-- What the first page of a statement gives to cursors. -/
def firstPageTrace (sql : Text) (params : List Value) : List GivenStatement :=
  givenTrace ((Rehearsal.willingSession .mysql oneRow).selectPage sql (.number (.int 0)) params
    oneRowWorld).events

theorem own_mysql_hasHoles (clause : Text) (own : Dialect.mysql.range = .own clause) :
    HasHoles clause 2 := by
  cases own
  exact ⟨_, rfl, by decide⟩

theorem firstPageTrace_of_both (sql : Text) (params : List Value)
    (both : (firstPageTrace sql params).length = 2) :
    ∃ page limit offset,
      PageBounds oneRowWorld.settings (.number (.int 0)) page limit offset ∧
        firstPageTrace sql params =
          [givenRange "LIMIT %s, %s" sql params offset (.number limit), givenCount sql params] := by
  rcases givenTrace_selectPage (Rehearsal.willingSession .mysql oneRow) sql params
      "LIMIT %s, %s" rfl (.number (.int 0)) oneRowWorld with
    nothing | ⟨page, limit, offset, resolved, sublist⟩
  · rw [firstPageTrace, nothing] at both
    cases both
  · exact ⟨page, limit, offset, resolved, sublist.eq_of_length both⟩

theorem page_with_parameter_shares_inner :
    (Dialect.mysql.usesFormat = true ∧
      (∀ clause, Dialect.mysql.range = .own clause → HasHoles clause 2) ∧
      HasHoles "SELECT id FROM t WHERE code = '50%%' AND id > %s" [Value.int 3].length) ∧
      ∃ range count page limit offset,
        firstPageTrace "SELECT id FROM t WHERE code = '50%%' AND id > %s" [.int 3] =
            [range, count] ∧
          PageBounds oneRowWorld.settings (.number (.int 0)) page limit offset ∧
          SharesInner integerLiteral .mysql offset (.number limit) range count := by
  have holes : HasHoles "SELECT id FROM t WHERE code = '50%%' AND id > %s"
      [Value.int 3].length := ⟨_, rfl, by decide⟩
  have both : (firstPageTrace "SELECT id FROM t WHERE code = '50%%' AND id > %s"
      [.int 3]).length = 2 := by decide +kernel
  obtain ⟨_, _, _, _, trace⟩ := firstPageTrace_of_both _ _ both
  obtain ⟨page, limit, offset, resolved, shares⟩ :=
    (selections_share_inner_iff (Rehearsal.willingSession .mysql oneRow) integerLiteral _ _ rfl
      own_mysql_hasHoles holes oneRowWorld).1 (.number (.int 0)) _ _ trace
  exact ⟨⟨rfl, own_mysql_hasHoles, holes⟩, _, _, page, limit, offset, trace, resolved,
    shares.mpr (.inl (List.cons_ne_nil _ _))⟩

/-- A doubled percent sign and no parameters: the total is that of another statement. -/
theorem page_without_parameters_counts_other :
    HasHoles "SELECT id FROM t WHERE code = '50%%'" 0 ∧
      ∃ range count page limit offset,
        firstPageTrace "SELECT id FROM t WHERE code = '50%%'" [] = [range, count] ∧
          PageBounds oneRowWorld.settings (.number (.int 0)) page limit offset ∧
          ¬ SharesInner integerLiteral .mysql offset (.number limit) range count := by
  have holes : HasHoles "SELECT id FROM t WHERE code = '50%%'" 0 := ⟨_, rfl, by decide⟩
  have both : (firstPageTrace "SELECT id FROM t WHERE code = '50%%'" []).length = 2 := by
    decide +kernel
  obtain ⟨page, limit, offset, resolved, trace⟩ := firstPageTrace_of_both _ _ both
  refine ⟨holes, _, _, page, limit, offset, trace, resolved, ?_⟩
  rw [sharesInner_iff rfl (own_mysql_hasHoles _ rfl) holes]
  decide

end Session
end PooledQuery
