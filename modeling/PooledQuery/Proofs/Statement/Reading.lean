/-
How a template is read.

A reader comes to the end of the text, or to a placeholder outside quotes, or to a code point
that it copies.  The pieces of a text are what is read in this way, and nothing else is.  A
code point that no placeholder has divides a text into parts that are read one after the
other, and a text without the first code point of a placeholder outside quotes is copied.
-/
import PooledQuery.Proofs.Statement.Enclosure

namespace PooledQuery

namespace Template

/-- The pieces that a reader who stands as given makes of a text. -/
inductive Reads (token : Text) : Quoting → Text → List Piece → Prop
  | ended (quoting : Quoting) : Reads token quoting [] []
  | hole {rest : Text} {pieces : List Piece} :
      Reads token .outside rest pieces → Reads token .outside (token ++ rest) (.hole :: pieces)
  | copied {quoting : Quoting} {point : CodePoint} {rest : Text} {pieces : List Piece} :
      ¬ (quoting = .outside ∧ token <+: point :: rest) →
        Reads token (quoting.step point) rest pieces →
        Reads token quoting (point :: rest) (.copied point :: pieces)

variable {token : Text}

private theorem piecesFrom_skipped (token : Text) (quoting : Quoting) (skipped : Nat)
    (text : Text) :
    piecesFrom token quoting skipped text = piecesFrom token quoting 0 (text.drop skipped) := by
  induction text generalizing skipped with
  | nil => simp [piecesFrom]
  | cons point rest ih =>
      cases skipped with
      | zero => rfl
      | succ remaining => exact ih remaining

theorem piecesFrom_hole (nonempty : token ≠ []) (rest : Text) :
    piecesFrom token .outside 0 (token ++ rest) = .hole :: piecesFrom token .outside 0 rest := by
  obtain ⟨first, others, rfl⟩ := List.exists_cons_of_ne_nil nonempty
  rw [List.cons_append, piecesFrom]
  have found : (first :: others).isPrefixOf (first :: (others ++ rest)) = true :=
    List.isPrefixOf_iff_prefix.mpr (List.prefix_append (first :: others) rest)
  rw [if_pos ⟨rfl, found⟩, piecesFrom_skipped]
  simp

theorem piecesFrom_copied {quoting : Quoting} {point : CodePoint} {rest : Text}
    (plain : ¬ (quoting = .outside ∧ token <+: point :: rest)) :
    piecesFrom token quoting 0 (point :: rest) =
      .copied point :: piecesFrom token (quoting.step point) 0 rest := by
  rcases piecesFrom_cons token quoting point rest with ⟨outside, found, _reads⟩ | reads
  · exact absurd ⟨outside, found⟩ plain
  · exact reads

theorem reads_piecesFrom (nonempty : token ≠ []) (quoting : Quoting) (text : Text) :
    Reads token quoting text (piecesFrom token quoting 0 text) := by
  -- A placeholder is read as a whole, so the induction is on the length of the text.
  induction length : text.length using Nat.strongRecOn generalizing quoting text with
  | _ bound ih =>
      cases text with
      | nil => exact .ended quoting
      | cons point rest =>
          by_cases begins : quoting = .outside ∧ token <+: point :: rest
          · obtain ⟨rfl, following, whole⟩ := begins
            have shorter : following.length < bound := by
              have sizes := congrArg List.length whole
              have positive := List.length_pos_iff.mpr nonempty
              rw [List.length_append] at sizes
              omega
            rw [← whole, piecesFrom_hole nonempty]
            exact .hole (ih following.length shorter .outside following rfl)
          · rw [piecesFrom_copied begins]
            apply Reads.copied begins
            apply ih rest.length _ _ rest rfl
            rw [List.length_cons] at length
            omega

theorem Reads.eq_piecesFrom {quoting : Quoting} {text : Text} {pieces : List Piece}
    (nonempty : token ≠ []) (reads : Reads token quoting text pieces) :
    pieces = piecesFrom token quoting 0 text := by
  induction reads with
  | ended quoting => rfl
  | hole _reads ih => rw [piecesFrom_hole nonempty, ih]
  | copied plain _reads ih => rw [piecesFrom_copied plain, ih]

/-! ### Parts of a text -/

theorem prefix_of_prefix_append_cons (first : Text) {second : Text} {point : CodePoint}
    (lacks : point ∉ token) (begins : token <+: first ++ point :: second) : token <+: first := by
  rcases List.prefix_or_prefix_of_prefix begins (List.prefix_append first (point :: second)) with
    within | beyond
  · exact within
  · obtain ⟨following, rfl⟩ := beyond
    rw [List.prefix_append_right_inj] at begins
    cases following with
    | nil => simp
    | cons other others =>
        have same := (List.cons_prefix_cons.mp begins).1
        subst same
        exact absurd (List.mem_append_right first List.mem_cons_self) lacks

/-- A text is read in two parts at a code point that no placeholder has. -/
theorem Reads.append_cons (unmarked : token.Unmarked) (nonempty : token ≠ []) {quoting : Quoting}
    {first second : Text} {point : CodePoint} {former latter : List Piece}
    (lacks : point ∉ token) (reads : Reads token quoting first former)
    (follows : Reads token ((quoting.after first).step point) second latter) :
    Reads token quoting (first ++ point :: second) (former ++ .copied point :: latter) := by
  induction reads with
  | ended quoting =>
      apply Reads.copied _ follows
      rintro ⟨_outside, begins⟩
      have empty := prefix_of_prefix_append_cons [] lacks begins
      exact nonempty (List.prefix_nil.mp empty)
  | @hole rest pieces _reads ih =>
      rw [Quoting.after_append, Quoting.after_unmarked unmarked] at follows
      rw [List.append_assoc]
      exact .hole (ih follows)
  | @copied quoting other rest pieces plain _reads ih =>
      apply Reads.copied _ (ih follows)
      rintro ⟨outside, begins⟩
      exact plain ⟨outside, prefix_of_prefix_append_cons (other :: rest) lacks begins⟩

/-- Whether a mark stands nowhere outside quotes in a text, for a reader who stands as given. -/
def Unmentioned (mark : CodePoint) : Quoting → Text → Prop
  | _, [] => True
  | quoting, point :: rest =>
      (quoting = .outside → point ≠ mark) ∧ Unmentioned mark (quoting.step point) rest

theorem unmentioned_append {mark : CodePoint} {quoting : Quoting} {first second : Text} :
    Unmentioned mark quoting (first ++ second) ↔
      Unmentioned mark quoting first ∧ Unmentioned mark (quoting.after first) second := by
  induction first generalizing quoting with
  | nil => simp [Unmentioned, Quoting.after]
  | cons point rest ih =>
      rw [List.cons_append, Unmentioned, Unmentioned, ih, Quoting.after_cons, and_assoc]

theorem unmentioned_of_not_mem {mark : CodePoint} {text : Text} (lacks : mark ∉ text)
    (quoting : Quoting) : Unmentioned mark quoting text := by
  induction text generalizing quoting with
  | nil => trivial
  | cons point rest ih =>
      rw [List.mem_cons, not_or] at lacks
      exact ⟨fun _outside same => lacks.1 same.symm, ih lacks.2 _⟩

theorem Unmentioned.reads {mark : CodePoint} {tail : Text} {quoting : Quoting} {first second : Text}
    {pieces : List Piece} (unmentioned : Unmentioned mark quoting first)
    (follows : Reads (mark :: tail) (quoting.after first) second pieces) :
    Reads (mark :: tail) quoting (first ++ second) (first.map .copied ++ pieces) := by
  induction first generalizing quoting with
  | nil => exact follows
  | cons point rest ih =>
      apply Reads.copied _ (ih unmentioned.2 follows)
      rintro ⟨outside, begins⟩
      exact unmentioned.1 outside (List.cons_prefix_cons.mp begins).1.symm

/-! ### Filling -/

theorem fill_copied (token text : Text) (params : List Value) :
    fill token (text.map .copied) params = .ok text := by
  induction text with
  | nil => rfl
  | cons point rest ih =>
      rw [List.map_cons, fill, ih]
      rfl

theorem fill_nil (token : Text) (pieces : List Piece) :
    fill token pieces [] = .ok (source token pieces) := by
  induction pieces with
  | nil => rfl
  | cons piece rest ih =>
      cases piece <;> rw [fill, ih, source_cons] <;> rfl

end Template
end PooledQuery
