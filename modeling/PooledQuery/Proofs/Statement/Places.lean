/-
Where the parameters of a statement go.

A placeholder is open if the level of its first code point shows that it lies outside quotes.
The open placeholders are replaced from the left, one for each parameter, and all else stays.
Rendering reads quotes on its own: it takes an escape between quotes as a whole, where levels
follow it code point by code point, and it looks for placeholders only while parameters are
left.  Both find the same placeholders in every text.
-/
import PooledQuery.Proofs.Outline.Nesting
import PooledQuery.Proofs.Statement.Reading

namespace PooledQuery

theorem Nesting.quoting_after (nesting : Nesting) (text : Text) :
    (nesting.after text).quoting = nesting.quoting.after text := by
  induction text generalizing nesting with
  | nil => rfl
  | cons point rest ih => rw [after_cons, ih, quoting_step, Quoting.after_cons]

theorem Nesting.isSome_level_iff {point : CodePoint} (unquoted : Quoting.quote? point = none)
    (nesting : Nesting) : (nesting.level point).isSome = true ↔ nesting.quoting = .outside := by
  obtain ⟨depth, quoting⟩ := nesting
  cases quoting with
  | inside quote escaped => simp [level]
  | outside =>
      by_cases closing : point = .char ')'
      · subst closing
        simp [level, unquoted]
      · simp [level, unquoted, closing]

namespace Template

/-! ### Open placeholders -/

def openPlacesFrom (token : Text) (nesting : Nesting) (text : Text) : List Nat :=
  (List.range text.length).filter fun place =>
    token.isPrefixOf (text.drop place) && ((nesting.levelsFrom text).getD place none).isSome

/-- The places at which a token begins outside quotes, from the left. -/
def openPlaces (token text : Text) : List Nat :=
  openPlacesFrom token .top text

def replacedFrom (token text : Text) (start : Nat) : List (Nat × Text) → Text
  | [] => text.drop start
  | (place, literal) :: rest =>
      (text.drop start).take (place - start) ++ literal ++
        replacedFrom token text (place + token.length) rest

/-- The text with literals instead of its open tokens, from the left, as far as they reach. -/
def replaced (token text : Text) (literals : List Text) : Text :=
  replacedFrom token text 0 ((openPlaces token text).zip literals)

theorem openPlacesFrom_cons (token : Text) (nesting : Nesting) (point : CodePoint) (rest : Text) :
    openPlacesFrom token nesting (point :: rest) =
      (if token <+: point :: rest ∧ (nesting.level point).isSome = true then [0] else []) ++
        (openPlacesFrom token (nesting.step point) rest).map Nat.succ := by
  unfold openPlacesFrom
  rw [List.length_cons, List.range_succ_eq_map, List.filter_cons, List.filter_map]
  have later : ((fun place => token.isPrefixOf ((point :: rest).drop place) &&
      ((nesting.levelsFrom (point :: rest)).getD place none).isSome) ∘ Nat.succ) =
      fun place => token.isPrefixOf (rest.drop place) &&
        (((nesting.step point).levelsFrom rest).getD place none).isSome := rfl
  have now : (nesting.levelsFrom (point :: rest)).getD 0 none = nesting.level point := rfl
  rw [later, now, List.drop_zero]
  by_cases found : token <+: point :: rest ∧ (nesting.level point).isSome = true
  · rw [if_pos found, if_pos]
    · rfl
    · rw [List.isPrefixOf_iff_prefix.mpr found.1, found.2]
      rfl
  · rw [if_neg found, if_neg]
    · rfl
    · rwa [Bool.and_eq_true, List.isPrefixOf_iff_prefix]

variable {mark : CodePoint} {tail : Text}

private theorem openPlacesFrom_append {first : Text} (lacks : mark ∉ first) (nesting : Nesting)
    (second : Text) :
    openPlacesFrom (mark :: tail) nesting (first ++ second) =
      (openPlacesFrom (mark :: tail) (nesting.after first) second).map (first.length + ·) := by
  induction first generalizing nesting with
  | nil => simp
  | cons point rest ih =>
      rw [List.mem_cons, not_or] at lacks
      have other : ¬ (mark :: tail <+: point :: (rest ++ second) ∧
          (nesting.level point).isSome = true) :=
        fun found => lacks.1 (List.cons_prefix_cons.mp found.1).1
      rw [List.cons_append, openPlacesFrom_cons, if_neg other, ih lacks.2, List.nil_append,
        List.map_map, Nesting.after_cons, List.length_cons]
      apply List.map_congr_left
      intro place _member
      dsimp only [Function.comp]
      omega

theorem openPlacesFrom_hole (unquoted : Quoting.quote? mark = none) (lacks : mark ∉ tail)
    {nesting : Nesting} (outside : nesting.quoting = .outside) (rest : Text) :
    openPlacesFrom (mark :: tail) nesting (mark :: tail ++ rest) =
      0 :: (openPlacesFrom (mark :: tail) (nesting.after (mark :: tail)) rest).map
        ((mark :: tail).length + ·) := by
  have found : mark :: tail <+: mark :: (tail ++ rest) ∧ (nesting.level mark).isSome = true :=
    ⟨List.prefix_append (mark :: tail) rest, (nesting.isSome_level_iff unquoted).mpr outside⟩
  rw [List.cons_append, openPlacesFrom_cons, if_pos found, openPlacesFrom_append lacks,
    List.map_map, Nesting.after_cons]
  apply congrArg (List.cons 0)
  apply List.map_congr_left
  intro place _member
  dsimp only [Function.comp]
  rw [List.length_cons]
  omega

theorem openPlacesFrom_copied {nesting : Nesting} {point : CodePoint} {rest : Text}
    (unquoted : Quoting.quote? mark = none)
    (plain : ¬ (nesting.quoting = .outside ∧ mark :: tail <+: point :: rest)) :
    openPlacesFrom (mark :: tail) nesting (point :: rest) =
      (openPlacesFrom (mark :: tail) (nesting.step point) rest).map Nat.succ := by
  rw [openPlacesFrom_cons, if_neg, List.nil_append]
  rintro ⟨found, leveled⟩
  have same := (List.cons_prefix_cons.mp found).1
  subst same
  exact plain ⟨(nesting.isSome_level_iff unquoted).mp leveled, found⟩

/-! ### Replacing -/

theorem replacedFrom_shifted (token front text : Text) (start : Nat) (pairs : List (Nat × Text)) :
    replacedFrom token (front ++ text) (front.length + start)
        (pairs.map (Prod.map (front.length + ·) id)) =
      replacedFrom token text start pairs := by
  induction pairs generalizing start with
  | nil => exact List.drop_length_add_append start
  | cons pair rest ih =>
      obtain ⟨place, literal⟩ := pair
      have width : front.length + place - (front.length + start) = place - start := by omega
      rw [List.map_cons, Prod.map, replacedFrom, replacedFrom, width,
        List.drop_length_add_append, Nat.add_assoc, ih]
      rfl

private theorem replacedFrom_cons (token : Text) (point : CodePoint) (rest : Text)
    (pairs : List (Nat × Text)) :
    replacedFrom token (point :: rest) 0 (pairs.map (Prod.map Nat.succ id)) =
      point :: replacedFrom token rest 0 pairs := by
  cases pairs with
  | nil => rfl
  | cons pair others =>
      obtain ⟨place, literal⟩ := pair
      have succ : Nat.succ = ([point].length + ·) := by
        funext n
        exact Nat.add_comm n 1
      have follows := replacedFrom_shifted token [point] rest (place + token.length) others
      rw [← succ, ← Nat.add_assoc] at follows
      rw [List.map_cons, Prod.map, replacedFrom, replacedFrom]
      have width : Nat.succ place + token.length = [point].length + place + token.length := by
        rw [List.length_singleton]
        omega
      rw [width]
      change (point :: rest).take (place + 1) ++ literal ++ _ = _
      rw [show (point :: rest : Text) = [point] ++ rest from rfl, follows]
      simp

section Filling

variable {quoting : Quoting} {text : Text} {pieces : List Piece}

private theorem count_hole_eq_length (unquoted : Quoting.quote? mark = none) (lacks : mark ∉ tail)
    (unmarked : Text.Unmarked (mark :: tail)) (reads : Reads (mark :: tail) quoting text pieces)
    {nesting : Nesting} (stands : nesting.quoting = quoting) :
    pieces.count .hole = (openPlacesFrom (mark :: tail) nesting text).length := by
  induction reads generalizing nesting with
  | ended quoting => rfl
  | @hole rest pieces _reads ih =>
      have following : (nesting.after (mark :: tail)).quoting = .outside := by
        rw [Nesting.quoting_after, stands, Quoting.after_unmarked unmarked]
      rw [List.count_cons_self, ih following, openPlacesFrom_hole unquoted lacks stands]
      simp
  | @copied quoting point rest pieces plain _reads ih =>
      have following : (nesting.step point).quoting = quoting.step point := by
        rw [Nesting.quoting_step, stands]
      rw [← stands] at plain
      rw [List.count_cons_of_ne Piece.noConfusion, ih following,
        openPlacesFrom_copied unquoted plain, List.length_map]

private theorem fill_eq_replacedFrom (unquoted : Quoting.quote? mark = none) (lacks : mark ∉ tail)
    (unmarked : Text.Unmarked (mark :: tail)) (reads : Reads (mark :: tail) quoting text pieces)
    {nesting : Nesting} (stands : nesting.quoting = quoting) {params : List Value}
    {literals : List Text} (renders : Literal.ofValues params = .ok literals) :
    fill (mark :: tail) pieces params = .ok (replacedFrom (mark :: tail) text 0
      ((openPlacesFrom (mark :: tail) nesting text).zip literals)) := by
  induction reads generalizing nesting params literals with
  | ended quoting => rfl
  | @copied quoting point rest pieces plain _reads ih =>
      have following : (nesting.step point).quoting = quoting.step point := by
        rw [Nesting.quoting_step, stands]
      rw [← stands] at plain
      rw [fill, ih following renders, openPlacesFrom_copied unquoted plain, List.zip_map_left,
        replacedFrom_cons]
      rfl
  | @hole rest pieces reads ih =>
      have following : (nesting.after (mark :: tail)).quoting = .outside := by
        rw [Nesting.quoting_after, stands, Quoting.after_unmarked unmarked]
      rw [openPlacesFrom_hole unquoted lacks stands]
      cases params with
      | nil =>
          cases renders
          have nonempty := List.cons_ne_nil mark tail
          rw [List.zip_nil_right, fill_nil, source_cons, reads.eq_piecesFrom nonempty,
            source_piecesFrom nonempty]
          rfl
      | cons value values =>
          obtain ⟨literal, rendersFirst, follows⟩ := Failure.bind_ok renders
          obtain ⟨others, rendersOthers, rfl⟩ := Failure.bind_pure_ok follows
          have shifted := replacedFrom_shifted (mark :: tail) (mark :: tail) rest 0
            ((openPlacesFrom (mark :: tail) (nesting.after (mark :: tail)) rest).zip others)
          rw [Nat.add_comm] at shifted
          rw [fill, rendersFirst, ih following rendersOthers, List.zip_cons_cons,
            List.zip_map_left, replacedFrom, shifted]
          simp [Failure.ok_bind]

end Filling

theorem fill_take (token : Text) (pieces : List Piece) (params : List Value) :
    fill token pieces (params.take (pieces.count .hole)) = fill token pieces params := by
  induction pieces generalizing params with
  | nil => rfl
  | cons piece rest ih =>
      cases piece with
      | copied point =>
          rw [List.count_cons_of_ne Piece.noConfusion, fill, fill, ih]
      | hole =>
          rw [List.count_cons_self]
          cases params with
          | nil => rfl
          | cons value values => rw [List.take_succ_cons, fill, fill, ih]

/-! ### One pass -/

/-- What a reader renders who passes through a text once and knows the quote that is open.
Between quotes a backslash is copied with what follows it, and placeholders are looked for
while parameters are left.  The next `skipped` code points belong to a placeholder. -/
def passFrom (token : Text) : Option Char → Nat → Text → List Value → Except Failure Text
  | _, _, [], _ => .ok []
  | opened, skipped + 1, _ :: rest, params => passFrom token opened skipped rest params
  | some quote, 0, point :: rest, params =>
      if point = .char '\\' ∧ quote ≠ Text.backtick then
        match rest with
        | [] => .ok [point]
        | taken :: following => do
            return point :: taken :: (← passFrom token (some quote) 0 following params)
      else if point = .char quote then do
        return point :: (← passFrom token none 0 rest params)
      else do
        return point :: (← passFrom token (some quote) 0 rest params)
  | none, 0, point :: rest, params =>
      match Quoting.quote? point with
      | some quote => do
          return point :: (← passFrom token (some quote) 0 rest params)
      | none =>
          match params with
          | [] => do
              return point :: (← passFrom token none 0 rest [])
          | value :: others =>
              if token.isPrefixOf (point :: rest) then do
                let literal ← Literal.ofValue value
                return literal ++ (← passFrom token none (token.length - 1) rest others)
              else do
                return point :: (← passFrom token none 0 rest (value :: others))

/-- Where a reader stands who knows the quote that is open. -/
def standing : Option Char → Quoting
  | none => .outside
  | some quote => .inside quote false

private theorem passFrom_nil (token : Text) (opened : Option Char) (skipped : Nat) (text : Text) :
    passFrom token opened skipped text [] = .ok (text.drop skipped) := by
  generalize none_left : ([] : List Value) = params
  fun_induction passFrom token opened skipped text params
  all_goals simp_all

private theorem passFrom_eq_fill (unquoted : Quoting.quote? mark = none) (opened : Option Char)
    (skipped : Nat) (text : Text) (params : List Value) :
    passFrom (mark :: tail) opened skipped text params =
      fill (mark :: tail) (piecesFrom (mark :: tail) (standing opened) skipped text) params := by
  have within {quote : Char} {escaped : Bool} {rest : Text} :
      ¬ (Quoting.inside quote escaped = .outside ∧ mark :: tail <+: rest) :=
    fun found => nomatch found.1
  fun_induction passFrom (mark :: tail) opened skipped text params with
  | case1 opened skipped params => rfl
  | case2 opened skipped _point rest params ih => rw [ih, piecesFrom]
  | case3 quote point params escapes =>
      rw [standing, piecesFrom_copied within]
      rfl
  | case4 quote point params escapes taken following ih =>
      have follows : (Quoting.inside quote false).step point = .inside quote true := by
        rw [Quoting.step, if_pos escapes]
      rw [ih, standing, piecesFrom_copied within, follows, piecesFrom_copied within, fill, fill]
      simp [Quoting.step]
  | case5 quote rest params plain ih =>
      have follows : (Quoting.inside quote false).step (.char quote) = .outside := by
        rw [Quoting.step, if_neg plain, if_pos rfl]
      rw [ih, standing, standing, piecesFrom_copied within, follows, fill]
  | case6 quote point rest params plain other ih =>
      have follows : (Quoting.inside quote false).step point = .inside quote false := by
        rw [Quoting.step, if_neg plain, if_neg other]
      rw [ih, standing, piecesFrom_copied within, follows, fill]
  | case7 point rest params quote opens ih =>
      have follows : Quoting.outside.step point = .inside quote false := by
        rw [Quoting.step, opens]
      have plain : ¬ (Quoting.outside = .outside ∧ mark :: tail <+: point :: rest) := by
        rintro ⟨_outside, found⟩
        have same := (List.cons_prefix_cons.mp found).1
        subst same
        cases unquoted.symm.trans opens
      rw [ih, standing, standing, piecesFrom_copied plain, follows, fill]
  | case8 point rest unquoted ih =>
      have nonempty := List.cons_ne_nil mark tail
      rw [passFrom_nil, fill_nil, source_piecesFrom nonempty]
      rfl
  | case9 point rest plain value others found ih =>
      rw [ih, standing, piecesFrom, if_pos ⟨rfl, found⟩, fill]
  | case10 point rest plain value others other ih =>
      have follows : Quoting.outside.step point = .outside := by rw [Quoting.step, plain]
      rw [ih, standing, piecesFrom, if_neg fun found => other found.2, follows, fill]

/-! ### Rendering -/

theorem count_hole_pieces {dialect : Option Dialect} {token : Text}
    (placeholder : Dialect.placeholderOf dialect = .ok token) (sql : Text) :
    (pieces token sql).count .hole = (openPlaces token sql).length := by
  obtain ⟨unmarked, nonempty⟩ := placeholderOf_unmarked placeholder
  obtain ⟨mark, tail, rfl, unquoted, lacks⟩ := placeholderOf_shape placeholder
  have reads := reads_piecesFrom nonempty .outside sql
  have starts : Nesting.top.quoting = .outside := rfl
  exact count_hole_eq_length unquoted lacks unmarked reads starts

/-- Rendering passes over a text once, and this comes to replacing its open tokens: as many
parameters are used as there are open tokens, from the left, and all else is copied. -/
theorem render_eq_replaced {dialect : Option Dialect} {token : Text}
    (placeholder : Dialect.placeholderOf dialect = .ok token) (sql : Text) (params : List Value) :
    render dialect sql params = passFrom token none 0 sql params ∧
      render dialect sql params = render dialect sql (params.take (openPlaces token sql).length) ∧
      ∀ literals, Literal.ofValues params = .ok literals →
        render dialect sql params = .ok (replaced token sql literals) := by
  obtain ⟨unmarked, nonempty⟩ := placeholderOf_unmarked placeholder
  obtain ⟨mark, tail, rfl, unquoted, lacks⟩ := placeholderOf_shape placeholder
  have fills := render_of_placeholder placeholder sql
  have reads := reads_piecesFrom nonempty .outside sql
  have starts : Nesting.top.quoting = .outside := rfl
  refine ⟨?_, ?_, fun literals renders => ?_⟩
  · rw [fills, passFrom_eq_fill unquoted]
    rfl
  · rw [fills, fills, ← count_hole_pieces placeholder]
    exact (fill_take _ _ _).symm
  · rw [fills]
    exact fill_eq_replacedFrom unquoted lacks unmarked reads starts renders

/-- Escaped and doubled quotes, a backslash in backticks, quotes that stay open at the end, and
a third parameter, which has no literal and no place. -/
theorem requoted_render_eq_replaced :
    Dialect.placeholderOf (some .mysql) = .ok "%s" ∧
      openPlaces "%s" "'\\'%s''%s', `\\`%s, (\"%s\\\\\"%s), 'a%s\\" = [15, 26] ∧
      render (some .mysql) "'\\'%s''%s', `\\`%s, (\"%s\\\\\"%s), 'a%s\\"
          [.text "%s", .number (.bool true), .table false []] =
        .ok "'\\'%s''%s', `\\`'%s', (\"%s\\\\\"1), 'a%s\\" := by
  refine ⟨rfl, rfl, ?_⟩
  rw [(render_eq_replaced rfl _ _).2.1, (render_eq_replaced rfl _ _).2.2 ["'%s'", "1"] rfl]
  rfl

end Template
end PooledQuery
