/-
Where a marker stands in a statement.

Failures of a statement are ignored exactly if the marker occurs in it, in any letter case, with
a boundary between a word and something else at both ends of the occurrence.  For a marker that
begins and ends with word characters this means that no word character adjoins.  At an end where
the marker has another sign it means the opposite, so that such a marker between spaces is not
found.
-/
import Mathlib.Data.List.Forall2
import PooledQuery.Proofs.Outline.Capitals
import PooledQuery.Proofs.Text.WordLetters
import PooledQuery.Settings.Basic

namespace PooledQuery

open Keyword (endsWord lastOr)

namespace Text

variable {left right : Text}

theorem sameLetters_iff_forall₂ : sameLetters left right = true ↔
    List.Forall₂ (fun point other => point.sameLetter other = true) left right := by
  induction left generalizing right with
  | nil => cases right <;> simp [sameLetters]
  | cons point rest ih => cases right <;> simp [sameLetters, ih]

private theorem sameLetters_of_capitals (same : capitals left = capitals right) :
    sameLetters left right = true := by
  rw [sameLetters_iff_forall₂]
  have pointwise := List.forall₂_eq_eq_eq ▸ same
  rw [capitals, capitals, List.forall₂_map_left_iff, List.forall₂_map_right_iff] at pointwise
  refine pointwise.imp fun point other alike => ?_
  rw [CodePoint.sameLetter, ← point.caseKey_capital, alike, other.caseKey_capital, beq_self_eq_true]

private theorem sameLetters_reverse (same : sameLetters left right = true) :
    sameLetters left.reverse right.reverse = true :=
  sameLetters_iff_forall₂.mpr (List.forall₂_reverse_iff.mpr (sameLetters_iff_forall₂.mp same))

abbrev SameEnd : Option CodePoint → Option CodePoint → Prop :=
  Option.Rel fun point other => point.sameLetter other = true

theorem sameEnd_head? (same : sameLetters left right = true) :
    SameEnd left.head? right.head? := by
  cases sameLetters_iff_forall₂.mp same with
  | nil => exact .none
  | cons alike _rest => exact .some alike

theorem sameEnd_getLast? (same : sameLetters left right = true) :
    SameEnd left.getLast? right.getLast? := by
  rw [← List.head?_reverse, ← List.head?_reverse]
  exact sameEnd_head? (sameLetters_reverse same)

/-- Where a text has a word character at an end, so has one that is the same up to letter case,
unless it has the low iota there. -/
theorem SameEnd.endsWord {point other : Option CodePoint} (same : SameEnd point other)
    (plain : other ≠ some CodePoint.lowIota) (word : Keyword.endsWord point = true) :
    Keyword.endsWord other = true := by
  cases same with
  | none => cases word
  | some same =>
      rcases CodePoint.isWord_of_sameLetter same word with kept | low
      · exact kept
      · exact absurd (congrArg some low) plain

theorem SameEnd.ne_lowIota {point other : Option CodePoint} (same : SameEnd point other)
    (lacks : ∀ letter, point = some letter → letter.sameLetter CodePoint.lowIota = false) :
    other ≠ some CodePoint.lowIota := by
  rintro rfl
  cases same with
  | some same =>
      rw [lacks _ rfl] at same
      cases same

end Text

namespace Marker

variable {marker sql : Text}

/-- An occurrence of a marker in a statement, in any letter case: what is before it, how it is
spelled, and what comes after it. -/
structure Occurrence (marker sql : Text) where
  before : Text
  here : Text
  after : Text
  whole : sql = before ++ here ++ after
  alike : Text.sameLetters marker here = true

namespace Occurrence

def IsBounded (occurrence : Occurrence marker sql) : Prop :=
  isBoundary occurrence.before.getLast? occurrence.here.head? = true ∧
    isBoundary occurrence.here.getLast? occurrence.after.head? = true

/-- Whether no word character adjoins. -/
def StandsAlone (occurrence : Occurrence marker sql) : Prop :=
  endsWord occurrence.before.getLast? = false ∧ endsWord occurrence.after.head? = false

/-- Whether it is the marker itself, in any case of the letters a to z, with white space or an
end of the statement on either side. -/
structure IsToken (occurrence : Occurrence marker sql) : Prop where
  spelled : Text.capitals occurrence.here = Text.capitals marker
  begins : ∀ point ∈ occurrence.before.getLast?, point.isBlank = true
  ends : ∀ point ∈ occurrence.after.head?, point.isBlank = true

end Occurrence

/-- Whether a marker occurs with a boundary at both ends. -/
def Marks (marker sql : Text) : Prop :=
  ∃ occurrence : Occurrence marker sql, occurrence.IsBounded

def HasToken (marker sql : Text) : Prop :=
  ∃ occurrence : Occurrence marker sql, occurrence.IsToken

def IsWordLike (marker : Text) : Prop :=
  endsWord marker.head? = true ∧ endsWord marker.getLast? = true

def LacksIota (marker : Text) : Prop :=
  ∀ point : CodePoint, marker.head? = some point ∨ marker.getLast? = some point →
    point.sameLetter CodePoint.lowIota = false

/-! ### The search -/

theorem standsAt_iff (nonempty : marker ≠ []) {before : Option CodePoint} {text : Text} :
    standsAt marker before text = true ↔
      ∃ here after, text = here ++ after ∧ Text.sameLetters marker here = true ∧
        isBoundary before here.head? = true ∧ isBoundary here.getLast? after.head? = true := by
  -- An occurrence is not empty, so only its own ends meet what is around it.
  have around {here : Text} (after : Text) (same : Text.sameLetters marker here = true) :
      (here ++ after).head? = here.head? ∧
        (((here ++ after).take marker.length).getLast?).or before = here.getLast? := by
    have length := Text.length_of_sameLetters same
    have visible : here ≠ [] := by
      rintro rfl
      exact nonempty (List.length_eq_zero_iff.mp length)
    rw [length, List.take_left, List.head?_append, List.head?_eq_some_head visible,
      List.getLast?_eq_some_getLast visible]
    exact ⟨rfl, rfl⟩
  unfold standsAt
  cases found : Text.afterWord? marker text with
  | none =>
      rw [Bool.and_false]
      refine iff_of_false Bool.false_ne_true ?_
      rintro ⟨here, after, split, same, _bounds⟩
      rw [Text.afterWord?_eq_some_iff.mpr ⟨here, same, split⟩] at found
      cases found
  | some rest =>
      dsimp only
      rw [Bool.and_eq_true]
      constructor
      · rintro ⟨begins, ends⟩
        obtain ⟨here, same, rfl⟩ := Text.afterWord?_eq_some_iff.mp found
        obtain ⟨first, last⟩ := around rest same
        exact ⟨here, rest, rfl, same, first ▸ begins, last ▸ ends⟩
      · rintro ⟨here, after, rfl, same, begins, ends⟩
        obtain ⟨first, last⟩ := around after same
        rw [Text.afterWord?_eq_some_iff.mpr ⟨here, same, rfl⟩] at found
        rw [← Option.some.inj found, first, last]
        exact ⟨begins, ends⟩

private theorem occursAfter_iff {before : Option CodePoint} {text : Text} :
    occursAfter marker before text = true ↔
      ∃ front rest, text = front ++ rest ∧ standsAt marker (lastOr before front) rest = true := by
  induction text generalizing before with
  | nil =>
      constructor
      · exact fun stands => ⟨[], [], rfl, stands⟩
      · rintro ⟨front, rest, split, stands⟩
        obtain ⟨rfl, rfl⟩ := List.append_eq_nil_iff.mp split.symm
        exact stands
  | cons point others ih =>
      rw [occursAfter, Bool.or_eq_true, ih]
      constructor
      · rintro (here | ⟨front, rest, rfl, later⟩)
        · exact ⟨[], point :: others, rfl, here⟩
        · refine ⟨point :: front, rest, rfl, ?_⟩
          rwa [Keyword.lastOr_cons]
      · rintro ⟨front, rest, split, stands⟩
        cases front with
        | nil =>
            rw [split]
            exact .inl stands
        | cons first front =>
            obtain ⟨rfl, rfl⟩ := List.cons.inj split
            rw [Keyword.lastOr_cons] at stands
            exact .inr ⟨front, rest, rfl, stands⟩

theorem occursIn_iff_marks (nonempty : marker ≠ []) : occursIn marker sql = true ↔ Marks marker sql := by
  have start (front : Text) : lastOr none front = front.getLast? := by
    rw [lastOr, Option.or_none]
  rw [occursIn, occursAfter_iff]
  constructor
  · rintro ⟨front, rest, split, stands⟩
    rw [standsAt_iff nonempty, start] at stands
    obtain ⟨here, after, rfl, same, begins, ends⟩ := stands
    exact ⟨⟨front, here, after, by rw [split, List.append_assoc], same⟩, begins, ends⟩
  · rintro ⟨⟨before, here, after, whole, same⟩, begins, ends⟩
    refine ⟨before, here ++ after, by rw [whole, List.append_assoc], ?_⟩
    rw [standsAt_iff nonempty, start]
    exact ⟨here, after, rfl, same, begins, ends⟩

example : occursIn "IGNORE" "SELECT 1 /* ignore */" = true ∧
    occursIn "IGNORE" "SELECT ignored FROM t" = false ∧ occursIn "@dup" "SELECT 1 @dup" = false := by
  decide +kernel

theorem ignores_of_marker {settings : Settings} (reads : settings.ignoreMarker = .text marker)
    (nonempty : marker ≠ []) (sql : Text) :
    settings.ignores sql = .ok (occursIn marker sql) := by
  have visible : marker.isEmpty = false := List.isEmpty_eq_false_iff.mpr nonempty
  unfold Settings.ignores
  rw [reads]
  dsimp only
  rw [visible]
  rfl

/-! ### Tokens and words -/

variable {occurrence : Occurrence marker sql}

theorem Occurrence.IsToken.isBounded_iff (token : occurrence.IsToken) :
    occurrence.IsBounded ↔ IsWordLike marker := by
  have first : endsWord occurrence.here.head? = endsWord marker.head? := by
    rw [← Keyword.endsWord_capital, ← Text.head?_capitals, token.spelled, Text.head?_capitals,
      Keyword.endsWord_capital]
  have last : endsWord occurrence.here.getLast? = endsWord marker.getLast? := by
    rw [← Keyword.endsWord_capital, ← Text.getLast?_capitals, token.spelled, Text.getLast?_capitals,
      Keyword.endsWord_capital]
  have outside {point : Option CodePoint} (blank : ∀ other ∈ point, other.isBlank = true) :
      endsWord point = false := by
    cases point with
    | none => rfl
    | some other => exact CodePoint.isWord_of_isBlank (blank other rfl)
  unfold Occurrence.IsBounded IsWordLike isBoundary
  rw [outside token.begins, outside token.ends, first, last]
  cases endsWord marker.head? <;> cases endsWord marker.getLast? <;> decide

/-- An occurrence has no low iota at its ends if its marker has no iota there, or its statement
has no low one at all. -/
theorem Occurrence.ends_ne_lowIota (occurrence : Occurrence marker sql)
    (plain : LacksIota marker ∨ CodePoint.lowIota ∉ sql) :
    occurrence.here.head? ≠ some CodePoint.lowIota ∧
      occurrence.here.getLast? ≠ some CodePoint.lowIota := by
  rcases plain with lacks | absent
  · exact ⟨(Text.sameEnd_head? occurrence.alike).ne_lowIota fun _point begins =>
        lacks _ (.inl begins),
      (Text.sameEnd_getLast? occurrence.alike).ne_lowIota fun _point ends => lacks _ (.inr ends)⟩
  · have outside : CodePoint.lowIota ∉ occurrence.here := by
      intro member
      apply absent
      rw [occurrence.whole]
      exact List.mem_append_left _ (List.mem_append_right _ member)
    exact ⟨fun begins => outside (List.mem_of_mem_head? begins),
      fun ends => outside (List.mem_of_getLast? ends)⟩

/-- A marker that begins and ends with word characters is bounded exactly if none adjoins. -/
theorem Occurrence.isBounded_iff_standsAlone (wordLike : IsWordLike marker)
    (plain : LacksIota marker ∨ CodePoint.lowIota ∉ sql) :
    occurrence.IsBounded ↔ occurrence.StandsAlone := by
  obtain ⟨first, last⟩ := occurrence.ends_ne_lowIota plain
  unfold Occurrence.IsBounded Occurrence.StandsAlone isBoundary
  rw [(Text.sameEnd_head? occurrence.alike).endsWord first wordLike.1,
    (Text.sameEnd_getLast? occurrence.alike).endsWord last wordLike.2]
  cases endsWord occurrence.before.getLast? <;> cases endsWord occurrence.after.head? <;> decide

def Occurrence.self (marker : Text) (alike : Text.sameLetters marker marker = true) :
    Occurrence marker marker :=
  ⟨[], marker, [], by simp, alike⟩

private theorem Occurrence.eq_self (occurrence : Occurrence marker marker) :
    occurrence.before = [] ∧ occurrence.here = marker ∧ occurrence.after = [] := by
  obtain ⟨before, here, after, whole, same⟩ := occurrence
  have lengths := congrArg List.length whole
  rw [List.length_append, List.length_append, ← Text.length_of_sameLetters same] at lengths
  obtain rfl : before = [] := List.length_eq_zero_iff.mp (by omega)
  obtain rfl : after = [] := List.length_eq_zero_iff.mp (by omega)
  exact ⟨rfl, by simpa using whole.symm, rfl⟩

theorem marks_of_hasToken_iff :
    (∀ sql, HasToken marker sql → Marks marker sql) ↔ IsWordLike marker := by
  constructor
  · intro always
    have alone : (Occurrence.self marker (Text.sameLetters_of_capitals rfl)).IsToken :=
      ⟨rfl, nofun, nofun⟩
    obtain ⟨occurrence, bounded⟩ := always marker ⟨_, alone⟩
    obtain ⟨before, here, after⟩ := occurrence.eq_self
    have token : occurrence.IsToken := by
      refine ⟨by rw [here], ?_, ?_⟩
      · rw [before]
        exact nofun
      · rw [after]
        exact nofun
    exact token.isBounded_iff.mp bounded
  · rintro wordLike sql ⟨occurrence, token⟩
    exact ⟨occurrence, token.isBounded_iff.mpr wordLike⟩

end Marker
end PooledQuery
