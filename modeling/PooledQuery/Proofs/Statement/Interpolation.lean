/-
The interpolation that drivers of the format style do themselves.

In a statement that comes with parameters such a driver reads `%s` as a hole for the next
parameter's literal, and `%%` as one percent sign.  A percent sign has no other use there,
and there must be as many parameters as holes.  How literals are written is the driver's
own affair.
-/
import PooledQuery.Statement.Template

namespace PooledQuery.Interpolation

/-- The pieces of a text, unless a percent sign is misused.  After the first percent sign of
a pair the text is opened. -/
def piecesFrom (opened : Bool) : Text → Option (List Piece)
  | [] => if opened then none else some []
  | point :: rest =>
      if opened then
        if point = .char '%' then (piecesFrom false rest).map (Piece.copied point :: ·)
        else if point = .char 's' then (piecesFrom false rest).map (Piece.hole :: ·)
        else none
      else if point = .char '%' then piecesFrom true rest
      else (piecesFrom false rest).map (Piece.copied point :: ·)

/-- Fills the holes with the literals of parameters, one for each. -/
def fill (literal : Value → Text) : List Piece → List Value → Option Text
  | [], [] => some []
  | [], _ :: _ => none
  | .copied point :: rest, params => (fill literal rest params).map (point :: ·)
  | .hole :: _, [] => none
  | .hole :: rest, value :: params => (fill literal rest params).map (literal value ++ ·)

/-- A text with the literals of parameters. -/
def interpolate (literal : Value → Text) (text : Text) (params : List Value) : Option Text :=
  (piecesFrom false text).bind fun pieces => fill literal pieces params

/-- A text whose percent signs are used rightly, with so many holes. -/
def HasHoles (text : Text) (count : Nat) : Prop :=
  ∃ pieces, piecesFrom false text = some pieces ∧ pieces.count .hole = count

variable {literal : Value → Text}

@[simp] theorem piecesFrom_doubled (rest : Text) :
    piecesFrom true (.char '%' :: rest) =
      (piecesFrom false rest).map (Piece.copied (.char '%') :: ·) := rfl

@[simp] theorem piecesFrom_hole (rest : Text) :
    piecesFrom true (.char 's' :: rest) = (piecesFrom false rest).map (Piece.hole :: ·) := rfl

private theorem piecesFrom_misused (point : CodePoint) (rest : Text) (single : point ≠ .char '%')
    (noHole : point ≠ .char 's') : piecesFrom true (point :: rest) = none := by
  rw [piecesFrom, if_pos rfl, if_neg single, if_neg noHole]

@[simp] theorem piecesFrom_percent (rest : Text) :
    piecesFrom false (.char '%' :: rest) = piecesFrom true rest := rfl

theorem piecesFrom_plain (point : CodePoint) (rest : Text) (plain : point ≠ .char '%') :
    piecesFrom false (point :: rest) = (piecesFrom false rest).map (Piece.copied point :: ·) := by
  rw [piecesFrom, if_neg Bool.false_ne_true, if_neg plain]

theorem piecesFrom_cons (opened : Bool) (point : CodePoint) (rest : Text) (pieces : List Piece)
    (reads : piecesFrom opened (point :: rest) = some pieces) :
    (opened = false ∧ point = .char '%' ∧ piecesFrom true rest = some pieces) ∨
      ∃ piece tail, pieces = piece :: tail ∧ piecesFrom false rest = some tail ∧
        ∀ text, piecesFrom opened (point :: text) = (piecesFrom false text).map (piece :: ·) := by
  cases opened with
  | true =>
      right
      by_cases percent : point = .char '%'
      · subst percent
        obtain ⟨tail, readsTail, rfl⟩ := Option.map_eq_some_iff.mp reads
        exact ⟨_, tail, rfl, readsTail, piecesFrom_doubled⟩
      · by_cases hole : point = .char 's'
        · subst hole
          obtain ⟨tail, readsTail, rfl⟩ := Option.map_eq_some_iff.mp reads
          exact ⟨_, tail, rfl, readsTail, piecesFrom_hole⟩
        · rw [piecesFrom_misused point rest percent hole] at reads
          cases reads
  | false =>
      by_cases percent : point = .char '%'
      · subst percent
        exact .inl ⟨rfl, rfl, reads⟩
      · right
        rw [piecesFrom_plain point rest percent] at reads
        obtain ⟨tail, readsTail, rfl⟩ := Option.map_eq_some_iff.mp reads
        exact ⟨_, tail, rfl, readsTail, fun text => piecesFrom_plain point text percent⟩

private theorem piecesFrom_append (opened : Bool) (first second : Text) (pieces : List Piece)
    (reads : piecesFrom opened first = some pieces) :
    piecesFrom opened (first ++ second) =
      (piecesFrom false second).map fun later => pieces ++ later := by
  -- The first part is read to its end, so it does not end within a pair.
  induction first generalizing opened pieces with
  | nil =>
      cases opened with
      | true => cases reads
      | false =>
          cases reads
          simp
  | cons point rest ih =>
      rcases piecesFrom_cons opened point rest pieces reads with
        ⟨rfl, rfl, readsRest⟩ | ⟨piece, tail, rfl, readsRest, step⟩
      · exact ih true pieces readsRest
      · rw [List.cons_append, step, ih false tail readsRest, Option.map_map]
        rfl

theorem fill_append (first second : List Piece) (params others : List Value)
    (text later : Text) (fills : fill literal first params = some text)
    (fillsLater : fill literal second others = some later) :
    fill literal (first ++ second) (params ++ others) = some (text ++ later) := by
  induction first generalizing params text with
  | nil =>
      cases params with
      | nil =>
          cases fills
          exact fillsLater
      | cons value rest => cases fills
  | cons piece rest ih =>
      cases piece with
      | copied point =>
          obtain ⟨tail, fillsTail, rfl⟩ := Option.map_eq_some_iff.mp fills
          rw [List.cons_append, fill, ih params tail fillsTail]
          rfl
      | hole =>
          cases params with
          | nil => cases fills
          | cons value values =>
              obtain ⟨tail, fillsTail, rfl⟩ := Option.map_eq_some_iff.mp fills
              rw [List.cons_append, List.cons_append, fill, ih values tail fillsTail,
                List.append_assoc]
              rfl

theorem interpolate_append (first second text later : Text) (params others : List Value)
    (fills : interpolate literal first params = some text)
    (fillsLater : interpolate literal second others = some later) :
    interpolate literal (first ++ second) (params ++ others) = some (text ++ later) := by
  obtain ⟨pieces, reads, filled⟩ := Option.bind_eq_some_iff.mp fills
  obtain ⟨morePieces, readsMore, filledMore⟩ := Option.bind_eq_some_iff.mp fillsLater
  unfold interpolate
  rw [piecesFrom_append false first second pieces reads, readsMore]
  exact fill_append pieces morePieces params others text later filled filledMore

private theorem exists_fill (pieces : List Piece) (params : List Value)
    (enough : pieces.count .hole = params.length) :
    ∃ text, fill literal pieces params = some text := by
  induction pieces generalizing params with
  | nil =>
      cases params with
      | nil => exact ⟨[], rfl⟩
      | cons value rest => cases enough
  | cons piece rest ih =>
      cases piece with
      | copied point =>
          rw [List.count_cons_of_ne (by simp)] at enough
          obtain ⟨text, fills⟩ := ih params enough
          exact ⟨point :: text, by rw [fill, fills]; rfl⟩
      | hole =>
          rw [List.count_cons_self] at enough
          cases params with
          | nil => cases enough
          | cons value values =>
              obtain ⟨text, fills⟩ := ih values (Nat.succ.inj enough)
              exact ⟨literal value ++ text, by rw [fill, fills]; rfl⟩

theorem HasHoles.exists_interpolate {text : Text} {count : Nat} (holes : HasHoles text count)
    (literal : Value → Text) (params : List Value) (enough : params.length = count) :
    ∃ filled, interpolate literal text params = some filled := by
  obtain ⟨pieces, reads, counted⟩ := holes
  unfold interpolate
  rw [reads]
  exact exists_fill pieces params (counted.trans enough.symm)

/-! ### Without parameters -/

theorem interpolate_plain (text : Text) (plain : .char '%' ∉ text) :
    interpolate literal text [] = some text := by
  unfold interpolate
  induction text with
  | nil => rfl
  | cons point rest ih =>
      rw [List.mem_cons, not_or] at plain
      have reads := ih plain.2
      obtain ⟨pieces, readsRest, fills⟩ := Option.bind_eq_some_iff.mp reads
      rw [piecesFrom_plain point rest (Ne.symm plain.1), readsRest]
      change fill literal (.copied point :: pieces) [] = _
      rw [fill, fills]
      rfl

private theorem length_piecesFrom (opened : Bool) (text : Text) (pieces : List Piece)
    (reads : piecesFrom opened text = some pieces) : pieces.length ≤ text.length := by
  induction text generalizing opened pieces with
  | nil =>
      cases opened with
      | true => cases reads
      | false =>
          cases reads
          exact Nat.le_refl 0
  | cons point rest ih =>
      rcases piecesFrom_cons opened point rest pieces reads with
        ⟨rfl, rfl, readsRest⟩ | ⟨piece, tail, rfl, readsRest, step⟩
      · exact Nat.le_succ_of_le (ih true pieces readsRest)
      · exact Nat.succ_le_succ (ih false tail readsRest)

private theorem length_piecesFrom_of_percent (text : Text) (pieces : List Piece)
    (reads : piecesFrom false text = some pieces) (percent : .char '%' ∈ text) :
    pieces.length < text.length := by
  -- The first percent sign makes one piece together with the code point after it.
  induction text generalizing pieces with
  | nil => cases percent
  | cons point rest ih =>
      by_cases opens : point = .char '%'
      · subst opens
        exact Nat.lt_succ_of_le (length_piecesFrom true rest pieces reads)
      · rw [piecesFrom_plain point rest opens] at reads
        obtain ⟨tail, readsTail, rfl⟩ := Option.map_eq_some_iff.mp reads
        rcases List.mem_cons.mp percent with same | later
        · exact absurd same.symm opens
        · exact Nat.succ_lt_succ (ih tail readsTail later)

private theorem length_fill_nil (pieces : List Piece) (text : Text)
    (fills : fill literal pieces [] = some text) : text.length = pieces.length := by
  induction pieces generalizing text with
  | nil =>
      cases fills
      rfl
  | cons piece rest ih =>
      cases piece with
      | hole => cases fills
      | copied point =>
          obtain ⟨tail, fillsTail, rfl⟩ := Option.map_eq_some_iff.mp fills
          rw [List.length_cons, List.length_cons, ih tail fillsTail]

/-- Without parameters interpolation leaves a text alone exactly if it has no percent sign. -/
theorem interpolate_nil_eq_self_iff (literal : Value → Text) (text : Text) :
    interpolate literal text [] = some text ↔ .char '%' ∉ text := by
  constructor
  · intro same percent
    obtain ⟨pieces, reads, fills⟩ := Option.bind_eq_some_iff.mp same
    have shorter := length_piecesFrom_of_percent text pieces reads percent
    have equal := length_fill_nil pieces text fills
    omega
  · exact interpolate_plain text

end PooledQuery.Interpolation
