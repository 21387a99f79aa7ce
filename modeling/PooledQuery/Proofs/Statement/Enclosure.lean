/-
Parameters that cannot leave their literals.

A template is read into pieces from the left, and holes are found outside quotes only.
Neither a placeholder nor a literal has an open quote at its end.  So a reader of the
rendered statement stands before every piece as a reader of the template does, and outside
quotes after every literal, whatever the parameters are.
-/
import PooledQuery.Proofs.Statement.Literal
import PooledQuery.Statement.Template

namespace PooledQuery

/-- The text of a piece in its template. -/
def Piece.source (token : Text) : Piece → Text
  | .copied point => [point]
  | .hole => token

namespace Template

variable {token : Text}

/-- The text of pieces in their template. -/
def source (token : Text) (pieces : List Piece) : Text :=
  pieces.flatMap (Piece.source token)

theorem source_cons (piece : Piece) (rest : List Piece) :
    source token (piece :: rest) = piece.source token ++ source token rest := rfl

def HolesOutside : Quoting → List Piece → Prop
  | _, [] => True
  | quoting, .copied point :: rest => HolesOutside (quoting.step point) rest
  | quoting, .hole :: rest => quoting = .outside ∧ HolesOutside quoting rest

/-! ### Reading -/

theorem piecesFrom_cons (token : Text) (quoting : Quoting) (point : CodePoint) (rest : Text) :
    (quoting = .outside ∧ token <+: point :: rest ∧ piecesFrom token quoting 0 (point :: rest) =
        .hole :: piecesFrom token quoting (token.length - 1) rest) ∨
      piecesFrom token quoting 0 (point :: rest) =
        .copied point :: piecesFrom token (quoting.step point) 0 rest := by
  rw [piecesFrom]
  split
  · rename_i found
    exact .inl ⟨found.1, List.isPrefixOf_iff_prefix.mp found.2, rfl⟩
  · exact .inr rfl

theorem source_piecesFrom (nonempty : token ≠ []) (quoting : Quoting) (skipped : Nat)
    (text : Text) : source token (piecesFrom token quoting skipped text) = text.drop skipped := by
  induction text generalizing quoting skipped with
  | nil =>
      rw [List.drop_nil]
      rfl
  | cons point rest ih =>
      cases skipped with
      | succ remaining => exact ih quoting remaining
      | zero =>
          rcases piecesFrom_cons token quoting point rest with ⟨_outside, found, reads⟩ | reads
          · -- The code points that are skipped next are the rest of the placeholder.
            rw [reads, source_cons, ih]
            obtain ⟨first, others, rfl⟩ := List.exists_cons_of_ne_nil nonempty
            obtain ⟨following, whole⟩ := found
            cases whole
            change (point :: others) ++ List.drop others.length (others ++ following) = _
            rw [List.drop_left]
            rfl
          · rw [reads, source_cons, ih]
            rfl

private theorem holesOutside_piecesFrom (token : Text) (quoting : Quoting) (skipped : Nat)
    (text : Text) :
    HolesOutside quoting (piecesFrom token quoting skipped text) := by
  induction text generalizing quoting skipped with
  | nil => trivial
  | cons point rest ih =>
      cases skipped with
      | succ remaining => exact ih quoting remaining
      | zero =>
          rcases piecesFrom_cons token quoting point rest with ⟨outside, _found, reads⟩ | reads
          · rw [reads]
            exact ⟨outside, ih quoting _⟩
          · rw [reads]
            exact ih _ 0

theorem HolesOutside.of_append {quoting : Quoting} {before later : List Piece}
    (holes : HolesOutside quoting (before ++ later)) (unmarked : token.Unmarked) :
    HolesOutside quoting before ∧ HolesOutside (quoting.after (source token before)) later := by
  induction before generalizing quoting with
  | nil => exact ⟨trivial, holes⟩
  | cons piece rest ih =>
      rw [source_cons, Quoting.after_append]
      cases piece with
      | copied point => exact ih holes
      | hole =>
          obtain ⟨outside, others⟩ := holes
          subst outside
          rw [Piece.source, Quoting.after_unmarked unmarked]
          exact ⟨⟨rfl, (ih others).1⟩, (ih others).2⟩

/-! ### Filling -/

theorem fill_append_eq (token : Text) (first second : List Piece) (params : List Value) :
    fill token (first ++ second) params = do
      let earlier ← fill token first params
      let later ← fill token second (params.drop (first.count .hole))
      return earlier ++ later := by
  induction first generalizing params with
  | nil =>
      change _ = do return [] ++ (← fill token second params)
      simp
  | cons piece others ih =>
      cases piece with
      | copied point => simp [fill, ih]
      | hole => cases params <;> simp [fill, ih, -List.append_assoc, ← List.append_assoc]

theorem fill_append (first second : List Piece) {params : List Value} {text : Text}
    (fills : fill token (first ++ second) params = .ok text) :
    ∃ earlier rest, fill token first params = .ok earlier ∧
      fill token second (params.drop (first.count .hole)) = .ok rest ∧ text = earlier ++ rest := by
  rw [fill_append_eq] at fills
  obtain ⟨earlier, fillsFirst, follows⟩ := Failure.bind_ok fills
  obtain ⟨rest, fillsSecond, whole⟩ := Failure.bind_pure_ok follows
  exact ⟨earlier, rest, fillsFirst, fillsSecond, whole.symm⟩

theorem after_fill_hole (unmarked : token.Unmarked) {params : List Value} {shown : Text}
    (fills : fill token [.hole] params = .ok shown) : Quoting.outside.after shown = .outside := by
  cases params with
  | nil =>
      cases fills
      rw [List.append_nil]
      exact Quoting.after_unmarked unmarked
  | cons value rest =>
      obtain ⟨literal, rendered, follows⟩ := Failure.bind_ok fills
      cases follows
      rw [List.append_nil]
      exact Literal.after_ofValue value literal rendered

/-- A reader stands after filled pieces as after the pieces themselves. -/
theorem after_fill (unmarked : token.Unmarked) {quoting : Quoting} {pieces : List Piece}
    (holes : HolesOutside quoting pieces) {params : List Value} {text : Text}
    (fills : fill token pieces params = .ok text) :
    quoting.after text = quoting.after (source token pieces) := by
  induction pieces generalizing quoting params text with
  | nil =>
      cases fills
      rfl
  | cons piece rest ih =>
      obtain ⟨shown, later, fillsFirst, fillsRest, rfl⟩ := fill_append [piece] rest fills
      rw [source_cons, Quoting.after_append, Quoting.after_append]
      cases piece with
      | copied point =>
          cases fillsFirst
          exact ih holes fillsRest
      | hole =>
          obtain ⟨outside, others⟩ := holes
          subst outside
          rw [after_fill_hole unmarked fillsFirst, Piece.source, Quoting.after_unmarked unmarked]
          exact ih others fillsRest

theorem placeholderOf_cases {dialect : Option Dialect}
    (placeholder : Dialect.placeholderOf dialect = .ok token) : token = "?" ∨ token = "%s" := by
  cases dialect with
  | none =>
      cases placeholder
      exact .inl rfl
  | some dialect =>
      change dialect.placeholder = .ok token at placeholder
      unfold Dialect.placeholder at placeholder
      split at placeholder
      · cases placeholder
        exact .inl rfl
      · split at placeholder
        · cases placeholder
          exact .inr rfl
        · cases placeholder

theorem placeholderOf_unmarked {dialect : Option Dialect}
    (placeholder : Dialect.placeholderOf dialect = .ok token) : token.Unmarked ∧ token ≠ [] := by
  rcases placeholderOf_cases placeholder with rfl | rfl <;> decide

theorem placeholderOf_shape {dialect : Option Dialect}
    (placeholder : Dialect.placeholderOf dialect = .ok token) :
    ∃ mark tail, token = mark :: tail ∧ Quoting.quote? mark = none ∧ mark ∉ tail := by
  rcases placeholderOf_cases placeholder with rfl | rfl
  · exact ⟨.char '?', [], rfl, rfl, List.not_mem_nil⟩
  · exact ⟨.char '%', "s", rfl, rfl, by decide⟩

theorem render_of_placeholder {dialect : Option Dialect}
    (placeholder : Dialect.placeholderOf dialect = .ok token) (sql : Text) (params : List Value) :
    render dialect sql params = fill token (pieces token sql) params := by
  rw [render, placeholder]
  rfl

/-- Whether a reader of the rendered statement stands before every piece of the template as a
reader of the template does, and outside quotes after whatever fills a hole. -/
def KeepsQuoting (token sql rendered : Text) (params : List Value) : Prop :=
  ∀ before piece later, pieces token sql = before ++ piece :: later →
    ∃ earlier shown rest, rendered = earlier ++ shown ++ rest ∧
      fill token before params = .ok earlier ∧
      fill token [piece] (params.drop (before.count .hole)) = .ok shown ∧
      Quoting.outside.after earlier = Quoting.outside.after (source token before) ∧
      (piece = .hole → Quoting.outside.after (earlier ++ shown) = .outside)

theorem render_keepsQuoting {dialect : Option Dialect} {sql : Text} {params : List Value}
    {rendered : Text} (renders : render dialect sql params = .ok rendered) :
    ∃ token, Dialect.placeholderOf dialect = .ok token ∧ source token (pieces token sql) = sql ∧
      KeepsQuoting token sql rendered params := by
  obtain ⟨token, placeholder, fills⟩ := Failure.bind_ok renders
  obtain ⟨unmarked, nonempty⟩ := placeholderOf_unmarked placeholder
  refine ⟨token, placeholder, source_piecesFrom nonempty .outside 0 sql, ?_⟩
  intro before piece later split
  have holes := holesOutside_piecesFrom token .outside 0 sql
  change HolesOutside .outside (pieces token sql) at holes
  rw [split] at fills holes
  obtain ⟨earlier, following, fillsBefore, fillsFrom, rfl⟩ := fill_append before _ fills
  obtain ⟨shown, rest, fillsPiece, _fillsLater, rfl⟩ := fill_append [piece] later fillsFrom
  obtain ⟨holesBefore, holesFrom⟩ := holes.of_append unmarked
  have stands := after_fill unmarked holesBefore fillsBefore
  refine ⟨earlier, shown, rest, (List.append_assoc _ _ _).symm, fillsBefore, fillsPiece, stands, ?_⟩
  rintro rfl
  rw [Quoting.after_append, stands, holesFrom.1]
  exact after_fill_hole unmarked fillsPiece

/-- A parameter that tries to end its quotes, and a placeholder within quotes. -/
theorem breakout_keepsQuoting :
    render (some .mysql) "SELECT '%s' FROM t WHERE a = %s" [.text "\\' OR 1 -- "] =
        .ok "SELECT '%s' FROM t WHERE a = '\\\\\\' OR 1 -- '" ∧
      KeepsQuoting "%s" "SELECT '%s' FROM t WHERE a = %s"
        "SELECT '%s' FROM t WHERE a = '\\\\\\' OR 1 -- '" [.text "\\' OR 1 -- "] := by
  have renders : render (some .mysql) "SELECT '%s' FROM t WHERE a = %s" [.text "\\' OR 1 -- "] =
      .ok "SELECT '%s' FROM t WHERE a = '\\\\\\' OR 1 -- '" := rfl
  obtain ⟨token, placeholder, _whole, keeps⟩ := render_keepsQuoting renders
  cases placeholder
  exact ⟨renders, keeps⟩

end Template
end PooledQuery
