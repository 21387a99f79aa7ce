/-
Literals as a reader of quotes sees them.

A text without quotes and backslashes leaves a reader where it stands, and so does the
escape of a character between single quotes.  A literal is a text of figures, a quoted text,
or a list of literals in parentheses, so that a reader who comes to it outside quotes leaves
it outside quotes.
-/
import Mathlib.Tactic.SplitIfs
import PooledQuery.Proofs.Failure
import PooledQuery.Statement.Literal
import PooledQuery.Statement.Quoting

namespace PooledQuery

/-! ### Texts without quotes -/

/-- ASCII letters and digits, and the signs of numbers and times. -/
def CodePoint.isFigure : CodePoint → Bool
  | .char c => c.isAlphanum || ['+', '-', '.', ':', ' '].contains c
  | .surrogate _ => false

namespace Text

/-- A text with neither quotes nor backslashes. -/
def Unmarked (text : Text) : Prop :=
  ∀ point ∈ text, Quoting.quote? point = none ∧ point ≠ .char '\\'

instance (text : Text) : Decidable text.Unmarked :=
  inferInstanceAs (Decidable (∀ point ∈ text, _))

/-- A text such as numbers and times are written with. -/
def Figures (text : Text) : Prop :=
  ∀ point ∈ text, point.isFigure = true

instance (text : Text) : Decidable text.Figures :=
  inferInstanceAs (Decidable (∀ point ∈ text, _))

variable {first second : Text}

theorem Unmarked.append (former : first.Unmarked) (latter : second.Unmarked) :
    (first ++ second).Unmarked :=
  List.forall_mem_append.mpr ⟨former, latter⟩

theorem Figures.lacks {mark : CodePoint} (figures : first.Figures) (other : mark.isFigure = false) :
    mark ∉ first := by
  intro member
  rw [figures mark member] at other
  cases other

theorem Figures.unmarked (figures : first.Figures) : first.Unmarked := by
  intro point member
  constructor
  · cases point with
    | surrogate offset => rfl
    | char c =>
        apply if_neg
        rintro (rfl | rfl | rfl) <;> exact figures.lacks (by decide) member
  · rintro rfl
    exact figures.lacks (by decide) member

theorem Figures.append (former : first.Figures) (latter : second.Figures) :
    (first ++ second).Figures :=
  List.forall_mem_append.mpr ⟨former, latter⟩

theorem Figures.of_subset (figures : second.Figures) (subset : first ⊆ second) :
    first.Figures :=
  fun point member => figures point (subset member)

theorem figures_singleton {c : Char} (single : (CodePoint.char c).isFigure = true) :
    Figures [.char c] :=
  List.forall_mem_singleton.mpr single

private theorem figures_digit {c : Char} (digit : c.isDigit = true) :
    (CodePoint.char c).isFigure = true := by
  simp [CodePoint.isFigure, Char.isAlphanum, digit]

theorem figures_ofNat (n : Nat) : (ofNat n).Figures := by
  intro point member
  obtain ⟨c, present, rfl⟩ := List.mem_map.mp member
  exact figures_digit (Nat.isDigit_of_mem_toDigits (by decide) (by decide) present)

theorem figures_ofInt (n : Int) : (ofInt n).Figures := by
  unfold ofInt
  split
  · exact (figures_singleton (by decide)).append (figures_ofNat _)
  · exact figures_ofNat _

theorem figures_zeros (count : Nat) : Figures (List.replicate count (.char '0')) := by
  intro point member
  rw [(List.mem_replicate.mp member).2]
  decide

theorem figures_padded (width n : Nat) : (padded width n).Figures :=
  (figures_zeros _).append (figures_ofNat n)

theorem figures_fractionText (microseconds : Nat) : (fractionText microseconds).Figures := by
  unfold fractionText
  split
  · exact fun _point none => nomatch none
  · exact (figures_singleton (by decide)).append (figures_padded _ _)

theorem figures_date (day : Date) : day.iso.Figures := by
  have dash : Figures "-" := by decide
  exact ((((figures_padded _ _).append dash).append (figures_padded _ _)).append dash).append
    (figures_padded _ _)

theorem figures_time (clock : ClockTime) : clock.iso.Figures := by
  have colon : Figures ":" := by decide
  exact (((((figures_padded _ _).append colon).append (figures_padded _ _)).append colon).append
    (figures_padded _ _)).append (figures_fractionText _)

private theorem figures_moment (day : Date) (clock : ClockTime) :
    (momentText " " day clock none).Figures := by
  have space : Figures " " := by decide
  exact (((figures_date day).append space).append (figures_time clock)).append (by decide)

/-! ### Numbers -/

theorem figures_exponentText (exponent : Int) : (Binary64.exponentText exponent).Figures := by
  unfold Binary64.exponentText
  refine (Figures.append (by decide) ?_).append (figures_padded _ _)
  split <;> decide

private theorem figures_layOut {digits : Text} (figures : digits.Figures) (point : Int) :
    (Binary64.layOut digits point).Figures := by
  have dot : Figures "." := by decide
  have zeroDot : Figures "0." := by decide
  have dotZero : Figures ".0" := by decide
  unfold Binary64.layOut
  dsimp only
  split
  · split
    · exact (zeroDot.append (figures_zeros _)).append figures
    · split
      · exact (figures.append (figures_zeros _)).append dotZero
      · exact ((figures.of_subset (List.take_subset _ _)).append dot).append
          (figures.of_subset (List.drop_subset _ _))
  · cases digits with
    | nil => exact figures
    | cons digit rest =>
        obtain ⟨first, others⟩ := List.forall_mem_cons.mp figures
        have mark := figures_exponentText (point - 1)
        cases rest with
        | nil => exact List.forall_mem_cons.mpr ⟨first, mark⟩
        | cons second more =>
            refine List.forall_mem_cons.mpr ⟨first, ?_⟩
            exact (figures_singleton (by decide)).append (Figures.append others mark)

private theorem figures_significantDigits (coefficient : Nat) :
    (Binary64.significantDigits coefficient).Figures := by
  refine (figures_ofNat coefficient).of_subset fun point member => ?_
  have kept := (List.dropWhile_sublist _).subset (List.mem_reverse.mp member)
  exact List.mem_reverse.mp kept

private theorem figures_float (x : Binary64) : x.text.Figures := by
  cases x with
  | nan => decide
  | infinite negative => cases negative <;> decide
  | finite negative significand exponent canonical =>
      have sign : Figures (if negative then "-" else "") := by cases negative <;> decide
      unfold Binary64.text
      dsimp only
      split
      · exact sign.append (by decide)
      · exact sign.append (figures_layOut (figures_significantDigits _) _)

theorem figures_special (negative : Bool) {name : Text} (figures : name.Figures)
    (payload : Nat) : (Decimal.specialText negative name payload).Figures := by
  have sign : (Decimal.signText negative).Figures := by cases negative <;> decide
  unfold Decimal.specialText
  refine (sign.append figures).append ?_
  split
  · decide
  · exact figures_ofNat payload

private theorem figures_pointed {digits : Text} (figures : digits.Figures) (point : Int) :
    (Decimal.pointed digits point).Figures := by
  have dot : Figures "." := by decide
  have zeroDot : Figures "0." := by decide
  unfold Decimal.pointed
  dsimp only
  split
  · exact (zeroDot.append (figures_zeros _)).append figures
  · split
    · exact figures.append (figures_zeros _)
    · exact ((figures.of_subset (List.take_subset _ _)).append dot).append
        (figures.of_subset (List.drop_subset _ _))

private theorem figures_decimal (d : Decimal) : d.plainText.Figures := by
  cases d with
  | infinite negative => exact figures_special negative (by decide) 0
  | nan negative signaling payload =>
      exact figures_special negative (by cases signaling <;> decide) payload
  | finite negative coefficient exponent =>
      have sign : (Decimal.signText negative).Figures := by cases negative <;> decide
      exact sign.append (figures_pointed (figures_ofNat coefficient) _)

end Text

/-! ### Readers of quotes -/

namespace Quoting

theorem after_append (quoting : Quoting) (first second : Text) :
    quoting.after (first ++ second) = (quoting.after first).after second :=
  List.foldl_append

theorem after_cons (quoting : Quoting) (point : CodePoint) (rest : Text) :
    quoting.after (point :: rest) = (quoting.step point).after rest := rfl

theorem after_unmarked {text : Text} (unmarked : text.Unmarked) :
    Quoting.outside.after text = .outside := by
  induction text with
  | nil => rfl
  | cons point rest ih =>
      obtain ⟨first, others⟩ := List.forall_mem_cons.mp unmarked
      have stays : Quoting.outside.step point = .outside := by
        unfold step
        rw [first.1]
      rw [after_cons, stays, ih others]

/-- Where a reader stands between single quotes. -/
def withinSingle : Quoting := .inside Text.singleQuote false

private theorem withinSingle_step {point : CodePoint} (plain : point ≠ .char '\\')
    (unquoted : point ≠ .char Text.singleQuote) : withinSingle.step point = withinSingle := by
  unfold withinSingle step
  dsimp only
  rw [if_neg fun both => plain both.1, if_neg unquoted]

theorem withinSingle_escaped (point : CodePoint) :
    withinSingle.after (Literal.escaped point) = withinSingle := by
  unfold Literal.escaped
  split_ifs with zero backslash feed carriage substitute double single
  case neg => exact withinSingle_step backslash single
  all_goals rfl

theorem withinSingle_flatMap_escaped (text : Text) :
    withinSingle.after (text.flatMap Literal.escaped) = withinSingle := by
  induction text with
  | nil => rfl
  | cons point rest ih => rw [List.flatMap_cons, after_append, withinSingle_escaped, ih]

private theorem after_enclosed {text : Text} (stays : withinSingle.after text = withinSingle) :
    Quoting.outside.after (Literal.enclosed text) = .outside := by
  change withinSingle.after (text ++ [.char Text.singleQuote]) = .outside
  rw [after_append, stays]
  rfl

private theorem after_joined {separator : Text} (unmarked : separator.Unmarked) {parts : List Text}
    (each : ∀ part ∈ parts, Quoting.outside.after part = .outside) :
    Quoting.outside.after (Text.joined separator parts) = .outside := by
  unfold Text.joined
  induction parts with
  | nil => rfl
  | cons part rest ih =>
      obtain ⟨first, others⟩ := List.forall_mem_cons.mp each
      cases rest with
      | nil => rwa [List.intercalate_singleton]
      | cons second more =>
          rw [List.intercalate_cons_cons, after_append, after_append, first,
            after_unmarked unmarked, ih others]

private theorem after_sequence {items : List Text}
    (each : ∀ item ∈ items, Quoting.outside.after item = .outside) :
    Quoting.outside.after (Literal.sequence items) = .outside := by
  unfold Literal.sequence
  rw [after_append, after_append, after_unmarked (by decide), after_joined (by decide) each]
  rfl

end Quoting

/-! ### Literals -/

namespace Literal

/-- How literals are written: as figures, as escaped code points between single quotes, or as
literals in parentheses. -/
inductive IsLiteral : Text → Prop
  | figures {text : Text} : text.Figures → IsLiteral text
  | quoted (text : Text) : IsLiteral (Literal.quoted text)
  | sequence {items : List Text} : (∀ item ∈ items, IsLiteral item) →
      IsLiteral (Literal.sequence items)

private theorem escaped_of_isFigure {point : CodePoint} (figure : point.isFigure = true) :
    escaped point = [point] := by
  have other (c : Char) (marked : (CodePoint.char c).isFigure = false) : point ≠ .char c := by
    rintro rfl
    rw [figure] at marked
    cases marked
  unfold escaped
  rw [if_neg (other _ (by decide)), if_neg (other _ (by decide)), if_neg (other _ (by decide)),
    if_neg (other _ (by decide)), if_neg (other _ (by decide)), if_neg (other _ (by decide)),
    if_neg (other _ (by decide))]

theorem isLiteral_enclosed {text : Text} (figures : text.Figures) : IsLiteral (enclosed text) := by
  have same : text.flatMap escaped = text := by
    induction text with
    | nil => rfl
    | cons point rest ih =>
        obtain ⟨first, others⟩ := List.forall_mem_cons.mp figures
        rw [List.flatMap_cons, escaped_of_isFigure first, ih others]
        rfl
  have quotes := IsLiteral.quoted text
  unfold Literal.quoted at quotes
  rwa [same] at quotes

private theorem isLiteral_ofDuration (duration : Duration) : IsLiteral (ofDuration duration) := by
  have colon : Text.Figures ":" := by decide
  unfold ofDuration
  apply isLiteral_enclosed
  refine Text.Figures.append (((Text.Figures.append (Text.Figures.append ?_ colon)
    (Text.figures_padded _ _)).append colon).append (Text.figures_padded _ _))
    (Text.figures_fractionText _)
  split
  · exact Text.figures_ofInt _
  · exact Text.figures_padded _ _

private theorem isLiteral_ofNumber {n : Number} {literal : Text}
    (renders : ofNumber n = .ok literal) :
    IsLiteral literal := by
  cases n with
  | bool b =>
      cases renders
      apply IsLiteral.figures
      cases b <;> decide
  | int n =>
      change Number.integerText n = .ok literal at renders
      unfold Number.integerText at renders
      split at renders
      · cases renders
      · cases renders
        exact .figures (Text.figures_ofInt n)
  | float x =>
      cases x with
      | nan => cases renders
      | infinite negative => cases renders
      | finite negative significand exponent canonical =>
          have digits := Text.figures_float (.finite negative significand exponent canonical)
          cases renders
          apply IsLiteral.figures
          split
          · exact digits
          · exact digits.append (by decide)
  | decimal d =>
      cases renders
      exact .figures (Text.figures_decimal d)

mutual

theorem isLiteral_ofValue (value : Value) (literal : Text) (renders : ofValue value = .ok literal) :
    IsLiteral literal := by
  cases value with
  | null =>
      cases renders
      exact .figures (by decide)
  | number n => exact isLiteral_ofNumber renders
  | date day =>
      cases renders
      exact isLiteral_enclosed (Text.figures_date day)
  | time clock =>
      cases renders
      exact isLiteral_enclosed (Text.figures_time clock)
  | moment day clock offset =>
      cases renders
      exact isLiteral_enclosed (Text.figures_moment day clock)
  | duration length =>
      cases renders
      exact isLiteral_ofDuration length
  | list items =>
      obtain ⟨literals, each, rfl⟩ := Failure.bind_pure_ok renders
      exact .sequence (isLiteral_ofValues items literals each)
  | tuple items =>
      obtain ⟨literals, each, rfl⟩ := Failure.bind_pure_ok renders
      exact .sequence (isLiteral_ofValues items literals each)
  | set frozen items =>
      obtain ⟨literals, each, rfl⟩ := Failure.bind_pure_ok renders
      exact .sequence (isLiteral_ofValues items literals each)
  | table view entries =>
      cases view with
      | false => cases renders
      | true =>
          obtain ⟨shown, _written, rfl⟩ := Failure.bind_pure_ok renders
          exact .quoted shown
  | text content =>
      cases renders
      exact .quoted content
  | bytes form content =>
      cases form <;> cases renders <;> exact .quoted _
  | _ =>
      obtain ⟨shown, _written, rfl⟩ := Failure.bind_pure_ok renders
      exact .quoted shown

theorem isLiteral_ofValues (items : List Value) (literals : List Text)
    (renders : ofValues items = .ok literals) : ∀ literal ∈ literals, IsLiteral literal := by
  cases items with
  | nil =>
      cases renders
      exact fun _literal none => nomatch none
  | cons item rest =>
      obtain ⟨first, starts, follows⟩ := Failure.bind_ok renders
      obtain ⟨others, ends, rfl⟩ := Failure.bind_pure_ok follows
      exact List.forall_mem_cons.mpr
        ⟨isLiteral_ofValue item first starts, isLiteral_ofValues rest others ends⟩

end

theorem IsLiteral.after_outside {literal : Text} (isLiteral : IsLiteral literal) :
    Quoting.outside.after literal = .outside := by
  induction isLiteral with
  | figures figures => exact Quoting.after_unmarked figures.unmarked
  | quoted text => exact Quoting.after_enclosed (Quoting.withinSingle_flatMap_escaped text)
  | sequence _items ih => exact Quoting.after_sequence ih

/-- A reader who comes to a literal outside quotes leaves it outside quotes. -/
theorem after_ofValue (value : Value) (literal : Text) (renders : ofValue value = .ok literal) :
    Quoting.outside.after literal = .outside :=
  (isLiteral_ofValue value literal renders).after_outside

end Literal
end PooledQuery
