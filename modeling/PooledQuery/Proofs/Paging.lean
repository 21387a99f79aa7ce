/-
Pages and slices of given rows.

A page shows a window of the rows: so many rows, from a multiple of that on.  The least
number of windows that hold all rows is the ceiling of a quotient, which is taken of a
binary64 quotient but is the exact one up to 2^53.  So the windows up to the last page, and
the windows of the slices, lie side by side and hold every row once.
-/
import PooledQuery.Paging
import PooledQuery.Proofs.Number.Quotient

namespace PooledQuery

/-! ### Integers as numbers -/

theorem Number.holds_less_int (left right : Int) :
    Number.holds .less (.int left) (.int right) = .ok (decide (left < right)) := by
  unfold Number.holds Number.compare? Number.integer?
  dsimp only
  congr 1
  rw [Bool.eq_iff_iff, beq_iff_eq, decide_eq_true_iff]
  exact Int.compare_eq_lt

private theorem Decimal.compare?_one_of_negative {d : Decimal}
    (below : d.compare? (.ofInt 0) = some .lt) :
    d.isZero = false ∧ d.compare? (.ofInt 1) = some .lt := by
  cases d with
  | nan negative signaling payload => cases below
  | infinite negative =>
      cases negative with
      | true => exact ⟨rfl, rfl⟩
      | false => cases below
  | finite negative coefficient exponent =>
      by_cases zero : coefficient = 0
      · subst zero
        cases below
      · have nonzero : (Decimal.finite negative coefficient exponent).isZero = false :=
          beq_eq_false_iff_ne.mpr zero
        refine ⟨nonzero, ?_⟩
        cases negative with
        | true => exact if_neg fun both => zero both.1
        | false =>
            unfold compare? ofInt at below
            dsimp only at below
            rw [if_neg fun both => zero both.1] at below
            have magnitudes : compareMagnitudes coefficient exponent 0 0 = compare coefficient 0 :=
              if_pos (.inr (.inl rfl))
            change some (compareMagnitudes coefficient exponent 0 0) = some .lt at below
            rw [magnitudes, Nat.compare_eq_gt.mpr (Nat.pos_of_ne_zero zero)] at below
            cases below

private theorem Number.holds_one_of_negative {n : Number}
    (negative : n.holds .less (.int 0) = .ok true) :
    n.isTruthy = true ∧ n.holds .less (.int 1) = .ok true := by
  have below : n.compare? (.int 0) = some .lt := by
    unfold Number.holds at negative
    cases order : n.compare? (.int 0) with
    | none =>
        rw [order] at negative
        dsimp only at negative
        split at negative <;> cases negative
    | some order' =>
        rw [order] at negative
        cases order' with
        | lt => rfl
        | eq => cases negative
        | gt => cases negative
  have decimal (exact : n.exact.compare? (.ofInt 0) = some .lt)
      (noInteger : n.compare? (.int 1) = n.exact.compare? (.ofInt 1)) :
      n.exact.isZero = false ∧ n.holds .less (.int 1) = .ok true := by
    obtain ⟨nonzero, belowOne⟩ := Decimal.compare?_one_of_negative exact
    refine ⟨nonzero, ?_⟩
    unfold Number.holds
    rw [noInteger, belowOne]
    rfl
  cases n with
  | bool b => cases b <;> cases negative
  | int m =>
      rw [Number.holds_less_int] at negative ⊢
      have less : m < 0 := of_decide_eq_true (Except.ok.inj negative)
      exact ⟨bne_iff_ne.mpr (by omega), congrArg Except.ok (decide_eq_true (by omega))⟩
  | decimal d =>
      obtain ⟨nonzero, belowOne⟩ := decimal below rfl
      exact ⟨congrArg (fun zero => !zero) nonzero, belowOne⟩
  | float x =>
      obtain ⟨nonzero, belowOne⟩ := decimal below rfl
      refine ⟨?_, belowOne⟩
      cases x with
      | nan => rfl
      | infinite other => rfl
      | finite other significand exponent canonical =>
          -- A float that is zero has the decimal zero.
          refine bne_iff_ne.mpr ?_
          rintro rfl
          unfold exact exactFloat at nonzero
          dsimp only at nonzero
          split at nonzero <;> rw [Nat.zero_mul] at nonzero <;> cases nonzero

namespace PageRequest

theorem resolve_of_negative (default page : Value) {own : Number}
    (negative : own.holds .less (.int 0) = .ok true) :
    (PageRequest.limited page (.number own)).resolve default = .error .limitBelowOne := by
  obtain ⟨counts, belowOne⟩ := Number.holds_one_of_negative negative
  have kept : (Value.number own).orElse default = .number own := if_pos counts
  unfold resolve
  dsimp only
  rw [kept]
  unfold Value.notBelow Value.ordered
  dsimp only [bind, Except.bind]
  rw [belowOne]
  rfl

end PageRequest

namespace Paging

variable {α : Type}

/-- So many rows, from a multiple of that on; below zero as at zero. -/
def window (rows : List α) (size : Nat) (index : Int) : List α :=
  (rows.drop (index.toNat * size)).take size

private theorem window_of_nonpositive (rows : List α) (size : Nat) {index : Int}
    (below : index ≤ 0) :
    window rows size index = window rows size 0 := by
  unfold window
  rw [Int.toNat_of_nonpos below, Int.toNat_zero]

theorem length_window (rows : List α) (size : Nat) (index : Int) :
    (window rows size index).length = min size (rows.length - index.toNat * size) := by
  unfold window
  rw [List.length_take, List.length_drop]

theorem window_ne_nil_iff (rows : List α) {size : Nat} (positive : 0 < size) (index : Int) :
    window rows size index ≠ [] ↔ index.toNat < rows.length ⌈/⌉ size := by
  have needed : rows.length ⌈/⌉ size ≤ index.toNat ↔ rows.length ≤ size * index.toNat :=
    ceilDiv_le_iff_le_mul positive
  rw [← List.length_pos_iff, length_window, Nat.mul_comm]
  -- Both sides say that the rows reach beyond the start of the window.
  omega

private theorem flatMap_window (rows : List α) (size count : Nat) :
    ((List.range count).flatMap fun index : Nat => window rows size index) = rows.take (count * size) := by
  induction count with
  | zero => rw [Nat.zero_mul, List.take_zero, List.range_zero, List.flatMap_nil]
  | succ count ih =>
      rw [List.range_succ, List.flatMap_append, ih, List.flatMap_singleton, Nat.succ_mul,
        List.take_add]
      rfl

/-- As many windows as are needed, or more, show all rows. -/
theorem flatMap_window_of_le (rows : List α) {size count : Nat} (positive : 0 < size)
    (enough : rows.length ⌈/⌉ size ≤ count) :
    ((List.range count).flatMap fun index : Nat => window rows size index) = rows := by
  have covered : rows.length ≤ size * count := (ceilDiv_le_iff_le_mul positive).mp enough
  rw [flatMap_window, Nat.mul_comm]
  exact List.take_of_length_le covered

private theorem length_window_of_followed (rows : List α) {size : Nat} {index later : Int}
    (start : 0 ≤ index) (follows : index < later)
    (shows : window rows size later ≠ []) : (window rows size index).length = size := by
  have reached : 0 < (window rows size later).length := List.length_pos_iff.mpr shows
  have before : (index.toNat + 1) * size ≤ later.toNat * size :=
    Nat.mul_le_mul_right size (by omega)
  rw [length_window] at reached ⊢
  rw [Nat.succ_mul] at before
  omega

/-! ### Numbers of windows -/

variable {total size count : Nat}

theorem parts_pos (nonzero : 0 < total) (positive : 0 < size) : 0 < total ⌈/⌉ size := by
  have none : total ⌈/⌉ size ≤ 0 ↔ total ≤ size * 0 := ceilDiv_le_iff_le_mul positive
  omega

theorem parts_le (positive : 0 < size) : total ⌈/⌉ size ≤ total :=
  (ceilDiv_le_iff_le_mul positive).mpr (Nat.le_mul_of_pos_left total positive)

private theorem parts_of_parts_le (nonzero : 0 < total) (positive : 0 < count) :
    total ⌈/⌉ (total ⌈/⌉ count) ≤ count := by
  have covered : total ≤ count * (total ⌈/⌉ count) := (ceilDiv_le_iff_le_mul positive).mp le_rfl
  refine (ceilDiv_le_iff_le_mul (parts_pos nonzero positive)).mpr ?_
  rwa [Nat.mul_comm] at covered

end Paging

/-! ### Pages and slices -/

def Page.ofRows (rows : List Json) (limit : Nat) (page : Int) : Page where
  total := rows.length
  lastPage := (rows.length ⌈/⌉ limit : Nat) - 1
  limit := .int limit
  page := .int page
  items := Paging.window rows limit page

/-- Pages that hold the rows side by side, up to the last page that each of them reports. -/
structure Page.Tile (rows : List Json) (pageAt : Int → Page) (last : Int) : Prop where
  reported : ∀ page, (pageAt page).lastPage = last
  covered : ((List.range (last + 1).toNat).flatMap fun page : Nat => (pageAt page).items) = rows
  filled : ∀ page, 0 ≤ page → page ≤ last → (pageAt page).items ≠ []
  beyond : ∀ page, last < page → (pageAt page).items = []
  below : ∀ page, page ≤ 0 → (pageAt page).items = (pageAt 0).items
  none : last = -1 ↔ rows = []

theorem Page.tile_ofRows (rows : List Json) {limit : Nat} (positive : 0 < limit) :
    Page.Tile rows (Page.ofRows rows limit) ((rows.length ⌈/⌉ limit : Nat) - 1) where
  reported _page := rfl
  covered := Paging.flatMap_window_of_le rows positive (by omega)
  filled page start within := (Paging.window_ne_nil_iff rows positive page).mpr (by omega)
  beyond page after := by
    by_contra shows
    have before := (Paging.window_ne_nil_iff rows positive page).mp shows
    omega
  below _page below := Paging.window_of_nonpositive rows limit below
  none := by
    rw [← List.length_eq_zero_iff]
    constructor
    · intro last
      by_contra nonzero
      have needed := Paging.parts_pos (Nat.pos_of_ne_zero nonzero) positive
      omega
    · intro zero
      have needed : rows.length ⌈/⌉ limit ≤ rows.length := Paging.parts_le positive
      omega

/-- One of so many slices of the given rows. -/
def SlicePage.ofRows (rows : List Json) (count : Nat) (index : Int) : SlicePage :=
  if rows.length = 0 then .empty
  else ⟨Page.ofRows rows (rows.length ⌈/⌉ count) index, .int index⟩

/-- Slices of one size, full as long as another one with rows follows, up to the last one. -/
structure SlicePage.Sized (sliceAt : Int → SlicePage) (limit : Nat) (last : Int) : Prop where
  reportedLimit : ∀ index, (sliceAt index).limit = .int limit
  reportedLast : ∀ index, (sliceAt index).lastPage = last
  bounded : ∀ index, (sliceAt index).items.length ≤ limit
  full : ∀ index later, 0 ≤ index → index < later → (sliceAt later).items ≠ [] →
    (sliceAt index).items.length = limit
  nonnegative : 0 ≤ last
  filled : (sliceAt last).items ≠ []
  beyond : ∀ index, last < index → (sliceAt index).items = []

/-- So many slices that hold the rows side by side. -/
structure SlicePage.Tile (rows : List Json) (count : Nat) (sliceAt : Int → SlicePage) : Prop where
  covered : ((List.range count).flatMap fun index : Nat => (sliceAt index).items) = rows
  beyond : ∀ index : Int, (count : Int) ≤ index → (sliceAt index).items = []
  sized : rows ≠ [] → ∃ (limit : Nat) (last : Int), SlicePage.Sized sliceAt limit last ∧ last < count

namespace SlicePage

variable {rows : List Json} {count : Nat}

theorem ofRows_of_none (none : rows.length = 0) (index : Int) :
    (ofRows rows count index).items = [] := by
  unfold ofRows
  rw [if_pos none]
  rfl

theorem ofRows_of_some (nonzero : rows.length ≠ 0) (index : Int) :
    ofRows rows count index = ⟨Page.ofRows rows (rows.length ⌈/⌉ count) index, .int index⟩ :=
  if_neg nonzero

private theorem sized_ofRows (nonzero : rows.length ≠ 0) (positive : 0 < count) :
    Sized (ofRows rows count) (rows.length ⌈/⌉ count)
      ((rows.length ⌈/⌉ (rows.length ⌈/⌉ count) : Nat) - 1) := by
  have size : 0 < rows.length ⌈/⌉ count := Paging.parts_pos (Nat.pos_of_ne_zero nonzero) positive
  have needed := Paging.parts_pos (Nat.pos_of_ne_zero nonzero) size
  have tile := Page.tile_ofRows rows size
  have same : ∀ index, (ofRows rows count index).toPage =
      Page.ofRows rows (rows.length ⌈/⌉ count) index :=
    fun index => congrArg SlicePage.toPage (ofRows_of_some nonzero index)
  constructor
  case reportedLimit =>
    intro index
    rw [same]
    rfl
  case reportedLast =>
    intro index
    rw [same]
    exact tile.reported index
  case bounded =>
    intro index
    rw [same]
    exact List.length_take_le _ _
  case full =>
    intro index later start follows shows
    rw [same] at shows ⊢
    exact Paging.length_window_of_followed rows start follows shows
  case nonnegative => omega
  case filled =>
    rw [same]
    exact tile.filled _ (by omega) le_rfl
  case beyond =>
    intro index after
    rw [same]
    exact tile.beyond index after

theorem tile_ofRows (rows : List Json) (positive : 0 < count) :
    Tile rows count (ofRows rows count) := by
  by_cases none : rows.length = 0
  · constructor
    case covered =>
      rw [List.length_eq_zero_iff.mp none]
      exact List.flatMap_eq_nil_iff.mpr fun index _present => ofRows_of_none rfl index
    case beyond => exact fun index _after => ofRows_of_none none index
    case sized => exact fun nonempty => absurd (List.length_eq_zero_iff.mp none) nonempty
  · have nonzero := Nat.pos_of_ne_zero none
    have size : 0 < rows.length ⌈/⌉ count := Paging.parts_pos nonzero positive
    have fewer := Paging.parts_of_parts_le nonzero positive
    have sized := sized_ofRows none positive
    constructor
    case covered =>
      simp only [ofRows_of_some none]
      exact Paging.flatMap_window_of_le rows size fewer
    case beyond => exact fun index after => sized.beyond index (by omega)
    case sized => exact fun _nonempty => ⟨_, _, sized, by omega⟩

end SlicePage
end PooledQuery
