/-
Statements within statements.

A counting statement and a range statement contain the statement that they count or bound, on
lines of its own.  No placeholder goes over the end of a line, and neither frame has a quote.
So either is rendered as the statement itself within its frame, and the parameters after those
of the statement come to the range clause, the offset first.
-/
import PooledQuery.Paging
import PooledQuery.Proofs.Value.Written
import PooledQuery.Proofs.Statement.Places

namespace PooledQuery

/-- The dialects that are built in. -/
inductive BuiltIn where
  | generic
  | sqlite
  | postgres
  | mysql
  deriving DecidableEq, Repr

namespace BuiltIn

def dialect : BuiltIn → Dialect
  | generic => .generic
  | sqlite => .sqlite
  | postgres => .postgres
  | mysql => .mysql

def token : BuiltIn → Text
  | generic | sqlite => "?"
  | postgres | mysql => "%s"

/-- The clause for the rows from an offset on, as many as a limit says. -/
def bounded (offset limit : Text) : BuiltIn → Text
  | generic => "OFFSET " ++ offset ++ " ROWS FETCH NEXT " ++ limit ++ " ROWS ONLY"
  | postgres => "OFFSET " ++ offset ++ " LIMIT " ++ limit
  | sqlite | mysql => "LIMIT " ++ offset ++ ", " ++ limit

theorem placeholderOf_eq (builtIn : BuiltIn) :
    Dialect.placeholderOf (some builtIn.dialect) = .ok builtIn.token := by
  cases builtIn <;> rfl

theorem rangeClause_eq (builtIn : BuiltIn) :
    builtIn.dialect.rangeClause = .ok (builtIn.bounded builtIn.token builtIn.token) := by
  cases builtIn <;> rfl

end BuiltIn

namespace Template

/-! ### Lines -/

theorem pieces_newline {token : Text} (unmarked : token.Unmarked) (nonempty : token ≠ [])
    (lacks : CodePoint.char '\n' ∉ token) (sql rest : Text) :
    pieces token (sql ++ .char '\n' :: rest) =
      pieces token sql ++
        .copied (.char '\n') ::
          piecesFrom token ((Quoting.outside.after sql).step (.char '\n')) 0 rest := by
  have former := reads_piecesFrom nonempty .outside sql
  have latter := reads_piecesFrom nonempty ((Quoting.outside.after sql).step (.char '\n')) rest
  exact ((former.append_cons unmarked nonempty lacks latter).eq_piecesFrom nonempty).symm

theorem pieces_framed {mark : CodePoint} {tail front back : Text}
    (unmarked : Text.Unmarked (mark :: tail)) (lacks : CodePoint.char '\n' ∉ mark :: tail)
    (outside : Quoting.outside.after front = .outside) (before : mark ∉ front)
    (behind : mark ∉ back) (sql : Text) :
    pieces (mark :: tail) (front ++ (sql ++ .char '\n' :: back)) =
      front.map .copied ++
        (pieces (mark :: tail) sql ++ .copied (.char '\n') :: back.map .copied) := by
  have nonempty := List.cons_ne_nil mark tail
  have copied (quoting : Quoting) : Reads (mark :: tail) quoting back (back.map .copied) := by
    have ended : Reads (mark :: tail) (quoting.after back) [] [] := .ended _
    have reads := (unmentioned_of_not_mem behind quoting).reads ended
    rwa [List.append_nil, List.append_nil] at reads
  have former := reads_piecesFrom nonempty .outside sql
  have framed := former.append_cons unmarked nonempty lacks (copied _)
  rw [← outside] at framed
  have reads := (unmentioned_of_not_mem before .outside).reads framed
  rw [outside] at reads
  exact (reads.eq_piecesFrom nonempty).symm

/-! ### Parameters in parts -/

theorem count_hole_copied (text : Text) : (text.map Piece.copied).count .hole = 0 := by
  simp [List.count_eq_zero]

private theorem fill_of_count {token : Text} {pieces : List Piece} {params : List Value}
    (count : pieces.count .hole = params.length) (more : List Value) :
    fill token pieces (params ++ more) = fill token pieces params := by
  rw [← fill_take, count, List.take_left]

theorem fill_two_holes (token front middle back : Text) (first second : Value) :
    fill token (front.map .copied ++ .hole :: (middle.map .copied ++ .hole :: back.map .copied))
        [first, second] = do
      let shownFirst ← Literal.ofValue first
      let shownSecond ← Literal.ofValue second
      return front ++ shownFirst ++ middle ++ shownSecond ++ back := by
  rw [fill_append_eq, fill_copied, count_hole_copied, List.drop_zero, fill, fill_append_eq,
    fill_copied, count_hole_copied, List.drop_zero, fill, fill_copied]
  cases Literal.ofValue first with
  | error failure => rfl
  | ok shownFirst =>
      cases Literal.ofValue second with
      | error failure => rfl
      | ok shownSecond => simp [Failure.ok_bind]

/-! ### Counting statements -/

theorem pieces_countStatement {token : Text} (isPlaceholder : token = "?" ∨ token = "%s")
    (sql : Text) :
    pieces token (Paging.countStatement sql) =
      ("SELECT COUNT(1) AS total FROM (\n" : Text).map .copied ++
        (pieces token sql ++ ("\n) A" : Text).map .copied) := by
  unfold Paging.countStatement
  rw [List.append_assoc]
  rcases isPlaceholder with rfl | rfl
  · exact pieces_framed (by decide) (by decide) (by decide) (by decide) (by decide) sql
  · exact pieces_framed (by decide) (by decide) (by decide) (by decide) (by decide) sql

/-- A counting statement is rendered as the statement that it counts, within its frame. -/
theorem render_countStatement {dialect : Option Dialect} {token : Text}
    (placeholder : Dialect.placeholderOf dialect = .ok token) (sql : Text) (params : List Value) :
    render dialect (Paging.countStatement sql) params = do
      return Paging.countStatement (← render dialect sql params) := by
  rw [render_of_placeholder placeholder, render_of_placeholder placeholder,
    pieces_countStatement (placeholderOf_cases placeholder), fill_append_eq, fill_copied,
    count_hole_copied, List.drop_zero, fill_append_eq, fill_copied]
  unfold Paging.countStatement
  cases fill token (pieces token sql) params with
  | error failure => rfl
  | ok shown => simp [Failure.ok_bind]

/-! ### Range statements -/

theorem fill_bounded (builtIn : BuiltIn) (offset limit : Value) :
    fill builtIn.token (pieces builtIn.token (builtIn.bounded builtIn.token builtIn.token))
        [offset, limit] = do
      let shownOffset ← Literal.ofValue offset
      let shownLimit ← Literal.ofValue limit
      return builtIn.bounded shownOffset shownLimit := by
  cases builtIn with
  | generic => exact fill_two_holes "?" "OFFSET " " ROWS FETCH NEXT " " ROWS ONLY" offset limit
  | sqlite =>
      have filled := fill_two_holes "?" "LIMIT " ", " [] offset limit
      simp only [List.append_nil] at filled
      exact filled
  | postgres =>
      have filled := fill_two_holes "%s" "OFFSET " " LIMIT " [] offset limit
      simp only [List.append_nil] at filled
      exact filled
  | mysql =>
      have filled := fill_two_holes "%s" "LIMIT " ", " [] offset limit
      simp only [List.append_nil] at filled
      exact filled

theorem render_range (builtIn : BuiltIn) {sql : Text} {params : List Value}
    (closed : Quoting.outside.after sql = .outside)
    (count : (openPlaces builtIn.token sql).length = params.length) (offset limit : Value) :
    (do
      let range ← Paging.rangeStatement sql (some builtIn.dialect)
      render (some builtIn.dialect) range (params ++ [offset, limit])) = do
      let shown ← render (some builtIn.dialect) sql params
      let shownOffset ← Literal.ofValue offset
      let shownLimit ← Literal.ofValue limit
      return shown ++ "\n" ++ builtIn.bounded shownOffset shownLimit := by
  have placeholder := builtIn.placeholderOf_eq
  obtain ⟨unmarked, nonempty⟩ := placeholderOf_unmarked placeholder
  have lacks : CodePoint.char '\n' ∉ builtIn.token := by cases builtIn <;> decide
  have range : Paging.rangeStatement sql (some builtIn.dialect) =
      .ok (sql ++ .char '\n' :: builtIn.bounded builtIn.token builtIn.token) := by
    unfold Paging.rangeStatement Dialect.rangeClauseOf
    dsimp only
    rw [builtIn.rangeClause_eq, Failure.ok_bind, List.append_assoc]
    rfl
  have holes : (pieces builtIn.token sql).count .hole = params.length := by
    rw [count_hole_pieces placeholder, count]
  have outside : (Quoting.outside.after sql).step (.char '\n') = .outside := by
    rw [closed]
    rfl
  have filled := fill_bounded builtIn offset limit
  unfold pieces at filled
  rw [range, Failure.ok_bind, render_of_placeholder placeholder,
    render_of_placeholder placeholder, pieces_newline unmarked nonempty lacks, fill_append_eq,
    fill_of_count holes, holes, List.drop_left, outside, fill, filled]
  cases fill builtIn.token (pieces builtIn.token sql) params with
  | error failure => rfl
  | ok shown =>
      cases Literal.ofValue offset with
      | error failure => rfl
      | ok shownOffset =>
          cases Literal.ofValue limit with
          | error failure => rfl
          | ok shownLimit => exact congrArg Except.ok (List.append_assoc shown "\n" _).symm

private theorem render_range_short (builtIn : BuiltIn) {sql : Text} {params : List Value}
    {literals : List Text} (renders : Literal.ofValues params = .ok literals)
    (closed : Quoting.outside.after sql = .outside)
    (count : (openPlaces builtIn.token sql).length = params.length) {offset limit : Int}
    (shortOffset : offset.natAbs < Number.unwritable)
    (shortLimit : limit.natAbs < Number.unwritable) :
    ∃ shown range, render (some builtIn.dialect) sql params = .ok shown ∧
      Paging.rangeStatement sql (some builtIn.dialect) = .ok range ∧
      render (some builtIn.dialect) range
          (params ++ [.number (.int offset), .number (.int limit)]) =
        .ok (shown ++ "\n" ++ builtIn.bounded (Text.ofInt offset) (Text.ofInt limit)) := by
  have rendered := (render_eq_replaced builtIn.placeholderOf_eq sql params).2.2 literals renders
  have range := render_range builtIn closed count (.number (.int offset)) (.number (.int limit))
  change _ = (do
    let shown ← render (some builtIn.dialect) sql params
    let shownOffset ← Number.integerText offset
    let shownLimit ← Number.integerText limit
    return shown ++ "\n" ++ builtIn.bounded shownOffset shownLimit) at range
  rw [rendered, Number.integerText_of_short shortOffset, Number.integerText_of_short shortLimit]
    at range
  obtain ⟨statement, ranges, renderedRange⟩ := Failure.bind_ok range
  exact ⟨_, statement, rendered, ranges, renderedRange⟩

/-- Rendering goes through the statements that count and bound another.  Of the parameters
that follow those of the statement, the first is the offset and the second the limit; a number
that is too long to write fails within the range statement as on its own. -/
theorem render_embeds (builtIn : BuiltIn) (sql : Text) (params : List Value) :
    (render (some builtIn.dialect) (Paging.countStatement sql) params = do
      return "SELECT COUNT(1) AS total FROM (\n" ++
        (← render (some builtIn.dialect) sql params) ++ "\n) A") ∧
    Dialect.placeholderOf (some builtIn.dialect) = .ok builtIn.token ∧
    builtIn.dialect.rangeClause = .ok (builtIn.bounded builtIn.token builtIn.token) ∧
    (Quoting.outside.after sql = .outside →
      (openPlaces builtIn.token sql).length = params.length → ∀ offset limit : Int,
        (do
          let range ← Paging.rangeStatement sql (some builtIn.dialect)
          render (some builtIn.dialect) range
            (params ++ [.number (.int offset), .number (.int limit)])) = (do
          let shown ← render (some builtIn.dialect) sql params
          let shownOffset ← Number.integerText offset
          let shownLimit ← Number.integerText limit
          return shown ++ "\n" ++ builtIn.bounded shownOffset shownLimit) ∧
        ∀ literals, Literal.ofValues params = .ok literals →
          offset.natAbs < Number.unwritable → limit.natAbs < Number.unwritable →
          ∃ shown range, render (some builtIn.dialect) sql params = .ok shown ∧
            Paging.rangeStatement sql (some builtIn.dialect) = .ok range ∧
            render (some builtIn.dialect) range
                (params ++ [.number (.int offset), .number (.int limit)]) =
              .ok (shown ++ "\n" ++ builtIn.bounded (Text.ofInt offset) (Text.ofInt limit))) := by
  refine ⟨render_countStatement builtIn.placeholderOf_eq sql params, builtIn.placeholderOf_eq,
    builtIn.rangeClause_eq, ?_⟩
  intro closed count offset limit
  constructor
  · exact render_range builtIn closed count _ _
  · intro literals renders shortOffset shortLimit
    exact render_range_short builtIn renders closed count shortOffset shortLimit

/-- A placeholder within quotes, and a parameter with a placeholder and a newline. -/
theorem quoted_render_embeds :
    Quoting.outside.after "SELECT '%s' FROM t WHERE a = %s" = .outside ∧
      (openPlaces "%s" "SELECT '%s' FROM t WHERE a = %s").length = 1 ∧
      (do
        let range ← Paging.rangeStatement "SELECT '%s' FROM t WHERE a = %s" (some .postgres)
        render (some .postgres) range [.text "%s\n", .number (.int 40), .number (.int (-20))]) =
        .ok "SELECT '%s' FROM t WHERE a = '%s\\n'\nOFFSET 40 LIMIT -20" := by
  have two : 2 ≤ Number.digitLimit := by decide
  have embeds := render_embeds .postgres "SELECT '%s' FROM t WHERE a = %s" [.text "%s\n"]
  obtain ⟨shown, range, renders, ranges, rendersRange⟩ :=
    (embeds.2.2.2 (by decide) (by decide) 40 (-20)).2 ["'%s\\n'"] rfl
      (Number.lt_unwritable two (by decide)) (Number.lt_unwritable two (by decide))
  refine ⟨by decide, by decide, ?_⟩
  have alone : render (some .postgres) "SELECT '%s' FROM t WHERE a = %s" [.text "%s\n"] =
      .ok "SELECT '%s' FROM t WHERE a = '%s\\n'" := rfl
  cases alone.symm.trans renders
  change Paging.rangeStatement _ (some .postgres) = _ at ranges
  rw [ranges, Failure.ok_bind]
  exact rendersRange.trans rfl

end Template
end PooledQuery
