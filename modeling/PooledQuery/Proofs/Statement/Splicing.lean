/-
Fragments that are spliced into statements.

A driver of the format style interpolates a whole statement, with all that was spliced into it.
Every percent sign of a rendered fragment is doubled, so interpolation gives back the fragment as
it was rendered: it takes no parameter of the statement around it, and no percent sign is lost or
left over.
-/
import PooledQuery.Proofs.Statement.Interpolation
import PooledQuery.Statement.Fragment

namespace PooledQuery

namespace Interpolation

/-- Whether a text between two parts of a statement becomes another one when the driver
interpolates the whole, where each of the parts has parameters of its own. -/
def ComesOutAs (literal : Value → Text) (spliced shown : Text) : Prop :=
  ∀ first second params others, HasHoles first params.length → HasHoles second others.length →
    ∃ text later, interpolate literal first params = some text ∧
      interpolate literal second others = some later ∧
      interpolate literal (first ++ spliced ++ second) (params ++ others) =
        some (text ++ shown ++ later)

variable {literal : Value → Text}

theorem comesOutAs_of_interpolate {spliced shown : Text}
    (alone : interpolate literal spliced [] = some shown) : ComesOutAs literal spliced shown := by
  intro first second params others holes laterHoles
  obtain ⟨text, fills⟩ := holes.exists_interpolate literal params rfl
  obtain ⟨later, fillsLater⟩ := laterHoles.exists_interpolate literal others rfl
  have opened := interpolate_append _ _ _ _ _ _ fills alone
  rw [List.append_nil] at opened
  exact ⟨text, later, fills, fillsLater, interpolate_append _ _ _ _ _ _ opened fillsLater⟩

open Fragment

private theorem piecesFrom_doubledPercents (text : Text) :
    piecesFrom false (doubledPercents text) = some (text.map .copied) := by
  induction text with
  | nil => rfl
  | cons point rest ih =>
      by_cases percent : point = .char '%'
      · subst percent
        change piecesFrom false (.char '%' :: .char '%' :: doubledPercents rest) = _
        rw [piecesFrom_percent, piecesFrom_doubled, ih]
        rfl
      · have single : doubledPercents (point :: rest) = point :: doubledPercents rest := by
          simp [doubledPercents, percent]
        rw [single, piecesFrom_plain point _ percent, ih]
        rfl

theorem fill_copied (text : Text) : fill literal (text.map .copied) [] = some text := by
  induction text with
  | nil => rfl
  | cons point rest ih =>
      rw [List.map_cons, fill, ih]
      rfl

theorem interpolate_doubledPercents (text : Text) :
    interpolate literal (doubledPercents text) [] = some text := by
  unfold interpolate
  rw [piecesFrom_doubledPercents]
  exact fill_copied text

end Interpolation

namespace Fragment

open Interpolation

variable {dialect : Dialect} {fragment rendered : Text} {values patterns : List Value}

theorem spliced_of_format (format : dialect.usesFormat = true)
    (renders : Template.render (some dialect) fragment values = .ok rendered) :
    spliced (some dialect) fragment values = .ok (doubledPercents rendered) := by
  unfold spliced
  rw [renders]
  simp [bind, Except.bind, pure, Except.pure, format]

private theorem whenPresent_of_present (present : values.any isPresent = true)
    (format : dialect.usesFormat = true)
    (renders : Template.render (some dialect) fragment values = .ok rendered) :
    whenPresent (some dialect) fragment values = .ok (doubledPercents rendered) := by
  rw [whenPresent, if_pos present, spliced_of_format format renders]

private theorem likeWhenPresent_of_present (present : values.any isPresent = true)
    (format : dialect.usesFormat = true) (wrapped : values.mapM pattern = .ok patterns)
    (renders : Template.render (some dialect) fragment patterns = .ok rendered) :
    likeWhenPresent (some dialect) fragment values = .ok (doubledPercents rendered) := by
  rw [likeWhenPresent, if_pos present, wrapped]
  exact spliced_of_format format renders

/-- Fragments come out of the driver's interpolation as they were rendered, whatever percent
signs they and their values have; the comment in place of an absent one comes out as it is. -/
theorem comesOut_of_format (literal : Value → Text) (format : dialect.usesFormat = true)
    (fragment : Text) (values : List Value) :
    (values.any isPresent = true →
      (∀ rendered, Template.render (some dialect) fragment values = .ok rendered →
        ∃ text, whenPresent (some dialect) fragment values = .ok text ∧
          ComesOutAs literal text rendered) ∧
      ∀ patterns rendered, values.mapM pattern = .ok patterns →
        Template.render (some dialect) fragment patterns = .ok rendered →
          ∃ text, likeWhenPresent (some dialect) fragment values = .ok text ∧
            ComesOutAs literal text rendered) ∧
    (values.any isPresent = false →
      ∃ text likeText, whenPresent (some dialect) fragment values = .ok text ∧
        likeWhenPresent (some dialect) fragment values = .ok likeText ∧
        HasHoles text 0 ∧ ComesOutAs literal text text ∧
        HasHoles likeText 0 ∧ ComesOutAs literal likeText likeText) := by
  constructor
  · intro present
    constructor
    · intro rendered renders
      exact ⟨_, whenPresent_of_present present format renders,
        comesOutAs_of_interpolate (interpolate_doubledPercents rendered)⟩
    · intro patterns rendered wrapped renders
      exact ⟨_, likeWhenPresent_of_present present format wrapped renders,
        comesOutAs_of_interpolate (interpolate_doubledPercents rendered)⟩
  · intro absent
    have nothing : whenPresent (some dialect) fragment values = .ok "-- calTo" := by
      rw [whenPresent, absent, if_neg Bool.false_ne_true]
    have nothingAlike : likeWhenPresent (some dialect) fragment values = .ok "/* calTo */" := by
      rw [likeWhenPresent, absent, if_neg Bool.false_ne_true]
    exact ⟨_, _, nothing, nothingAlike, ⟨_, rfl, by decide⟩,
      comesOutAs_of_interpolate (interpolate_plain _ (by decide)), ⟨_, rfl, by decide⟩,
      comesOutAs_of_interpolate (interpolate_plain _ (by decide))⟩

/-- A value with percent signs, a placeholder without a value, and a search pattern, between
parts that have parameters of their own. -/
theorem unfilled_fragment_comesOut :
    (∃ text, whenPresent (some .mysql) "AND a = %s OR b = %s" [.text "5%s%"] = .ok text ∧
      interpolate (fun _ => "7") ("SELECT '%%', %s " ++ text ++ " LIMIT %s") [.null, .null] =
        some "SELECT '%', 7 AND a = '5%s%' OR b = %s LIMIT 7") ∧
    ∃ text, likeWhenPresent (some .mysql) "AND a LIKE %s" [.text "5%s"] = .ok text ∧
      interpolate (fun _ => "7") ("SELECT '%%', %s " ++ text ++ " LIMIT %s") [.null, .null] =
        some "SELECT '%', 7 AND a LIKE '%5%s%' LIMIT 7" := by
  have holes : HasHoles "SELECT '%%', %s " 1 := ⟨_, rfl, by decide⟩
  have laterHoles : HasHoles " LIMIT %s" 1 := ⟨_, rfl, by decide⟩
  have within {spliced shown : Text} (comesOut : ComesOutAs (fun _ => "7") spliced shown) :
      interpolate (fun _ => "7") ("SELECT '%%', %s " ++ spliced ++ " LIMIT %s") [.null, .null] =
        some ("SELECT '%', 7 " ++ shown ++ " LIMIT 7") := by
    obtain ⟨text, later, fills, fillsLater, whole⟩ :=
      comesOut _ _ [.null] [.null] holes laterHoles
    cases fills
    cases fillsLater
    exact whole
  have plain := comesOut_of_format (fun _ => "7") (rfl : Dialect.mysql.usesFormat = true)
    "AND a = %s OR b = %s" [.text "5%s%"]
  have alike := comesOut_of_format (fun _ => "7") (rfl : Dialect.mysql.usesFormat = true)
    "AND a LIKE %s" [.text "5%s"]
  obtain ⟨text, given, comesOut⟩ :=
    (plain.1 rfl).1 "AND a = '5%s%' OR b = %s" rfl
  obtain ⟨likeText, givenLike, comesOutLike⟩ :=
    (alike.1 rfl).2 [.text "%5%s%"] "AND a LIKE '%5%s%'" rfl rfl
  exact ⟨⟨text, given, within comesOut⟩, likeText, givenLike, within comesOutLike⟩

end Fragment
end PooledQuery
