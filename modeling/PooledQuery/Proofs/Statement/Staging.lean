/-
Rendering in stages.

Where placeholders are question marks, a statement that was rendered with some parameters can
be rendered again with others.  No literal has a question mark outside its quotes, and none
leaves quotes open.  So the holes of the rendered statement are those that were left over, and
two stages come to what one stage with all parameters comes to, failures included.
-/
import PooledQuery.Proofs.Statement.Reading

namespace PooledQuery

/-- The only placeholder of dialects with question marks. -/
def questionMark : CodePoint := .char '?'

namespace Literal

open Template

private theorem unmentioned_escaped (mark point : CodePoint) :
    Unmentioned mark Quoting.withinSingle (escaped point) := by
  have within (other : CodePoint) : Unmentioned mark Quoting.withinSingle [other] :=
    ⟨fun outside => (nomatch outside), trivial⟩
  unfold escaped
  split_ifs
  case neg => exact within point
  all_goals exact ⟨fun outside => (nomatch outside), fun outside => (nomatch outside), trivial⟩

private theorem unmentioned_flatMap_escaped (mark : CodePoint) (text : Text) :
    Unmentioned mark Quoting.withinSingle (text.flatMap escaped) := by
  induction text with
  | nil => trivial
  | cons point rest ih =>
      rw [List.flatMap_cons, unmentioned_append, Quoting.withinSingle_escaped]
      exact ⟨unmentioned_escaped mark point, ih⟩

private theorem unmentioned_quoted (text : Text) :
    Unmentioned questionMark .outside (quoted text) := by
  have inner := unmentioned_flatMap_escaped questionMark text
  refine ⟨by decide, ?_⟩
  change Unmentioned questionMark Quoting.withinSingle (_ ++ _)
  rw [unmentioned_append, Quoting.withinSingle_flatMap_escaped]
  exact ⟨inner, fun outside => (nomatch outside), trivial⟩

private theorem unmentioned_joined {items : List Text}
    (each : ∀ item ∈ items, Unmentioned questionMark .outside item)
    (stays : ∀ item ∈ items, Quoting.outside.after item = .outside) :
    Unmentioned questionMark .outside (Text.joined "," items) := by
  unfold Text.joined
  induction items with
  | nil => trivial
  | cons item rest ih =>
      obtain ⟨first, others⟩ := List.forall_mem_cons.mp each
      obtain ⟨firstStays, othersStay⟩ := List.forall_mem_cons.mp stays
      cases rest with
      | nil => rwa [List.intercalate_singleton]
      | cons second more =>
          rw [List.intercalate_cons_cons, unmentioned_append, unmentioned_append,
            Quoting.after_append, firstStays]
          exact ⟨⟨first, by decide, trivial⟩, ih others othersStay⟩

theorem IsLiteral.unmentioned {literal : Text} (isLiteral : IsLiteral literal) :
    Unmentioned questionMark .outside literal := by
  induction isLiteral with
  | figures figures => exact unmentioned_of_not_mem (figures.lacks (by decide)) .outside
  | quoted text => exact unmentioned_quoted text
  | @sequence items isLiteral ih =>
      have joined := unmentioned_joined ih fun item member => (isLiteral item member).after_outside
      have closing (quoting : Quoting) : Unmentioned questionMark quoting ")" :=
        unmentioned_of_not_mem (by decide) quoting
      refine ⟨by decide, ?_⟩
      exact unmentioned_append.mpr ⟨joined, closing _⟩

end Literal

namespace Template

/-- A literal that was put in is copied by the next reader. -/
theorem piecesFrom_literal {value : Value} {literal : Text}
    (renders : Literal.ofValue value = .ok literal) (rest : Text) :
    piecesFrom [questionMark] .outside 0 (literal ++ rest) =
      literal.map .copied ++ piecesFrom [questionMark] .outside 0 rest := by
  have isLiteral := Literal.isLiteral_ofValue value literal renders
  have follows := reads_piecesFrom (List.cons_ne_nil questionMark []) .outside rest
  rw [← isLiteral.after_outside] at follows
  have reads := isLiteral.unmentioned.reads follows
  rw [isLiteral.after_outside] at reads
  exact (reads.eq_piecesFrom (List.cons_ne_nil questionMark [])).symm

private theorem fill_fill {quoting : Quoting} {text : Text} {pieces : List Piece}
    (reads : Reads [questionMark] quoting text pieces) (former latter : List Value) :
    (do
      let filled ← fill [questionMark] pieces former
      fill [questionMark] (piecesFrom [questionMark] quoting 0 filled) latter) =
      fill [questionMark] pieces (former ++ latter) := by
  induction reads generalizing former with
  | ended quoting => rfl
  | @copied quoting point rest pieces plain _reads ih =>
      -- Whether a question mark is a hole depends on nothing that follows it.
      have plainly (filled : Text) :
          ¬ (quoting = .outside ∧ [questionMark] <+: point :: filled) := by
        rintro ⟨outside, begins⟩
        refine plain ⟨outside, ?_⟩
        rw [List.cons_prefix_cons] at begins ⊢
        exact ⟨begins.1, List.nil_prefix⟩
      rw [fill, fill, ← ih former]
      cases fill [questionMark] pieces former with
      | error failure => rfl
      | ok filled =>
          change fill _ (piecesFrom _ _ 0 (point :: filled)) _ = _
          rw [piecesFrom_copied (plainly filled), fill]
          rfl
  | @hole rest pieces reads ih =>
      have nonempty := List.cons_ne_nil questionMark []
      cases former with
      | nil =>
          rw [fill_nil, source_cons, reads.eq_piecesFrom nonempty, source_piecesFrom nonempty]
          change fill _ (piecesFrom _ _ 0 ([questionMark] ++ rest)) _ = _
          rw [piecesFrom_hole nonempty]
          rfl
      | cons value values =>
          rw [List.cons_append, fill, fill, ← ih values]
          cases renders : Literal.ofValue value with
          | error failure => rfl
          | ok literal =>
              cases fill [questionMark] pieces values with
              | error failure => rfl
              | ok filled =>
                  change fill _ (piecesFrom _ _ 0 (literal ++ filled)) _ = _
                  rw [piecesFrom_literal renders, fill_append_eq, fill_copied]
                  have none : (literal.map Piece.copied).count .hole = 0 := by
                    simp [List.count_eq_zero]
                  rw [none]
                  rfl

theorem render_render {dialect : Option Dialect}
    (placeholder : Dialect.placeholderOf dialect = .ok "?") (sql : Text)
    (former latter : List Value) :
    (do
      let rendered ← render dialect sql former
      render dialect rendered latter) = render dialect sql (former ++ latter) := by
  have reads := reads_piecesFrom (List.cons_ne_nil questionMark []) .outside sql
  have filled := fill_fill reads former latter
  unfold render
  rw [placeholder]
  exact filled

/-- A list with question marks and quotes, where a third question mark is left over. -/
theorem nested_render_render :
    Dialect.placeholderOf (some .sqlite) = .ok "?" ∧
      (do
        let rendered ← render (some .sqlite) "SELECT '?' FROM t WHERE a IN ? AND b = ? OR c = ?"
          [.list [.text "?'", .bytes .fixed [0x3F, 0xFF]]]
        render (some .sqlite) rendered [.text "\\?"]) =
      .ok (("SELECT '?' FROM t WHERE a IN ('?\\'','?" : Text) ++ [CodePoint.surrogate 0x4FF] ++
        "') AND b = '\\\\?' OR c = ?") := by
  refine ⟨rfl, ?_⟩
  rw [render_render rfl]
  rfl

end Template
end PooledQuery
