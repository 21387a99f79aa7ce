/-
Outcomes that can be written.

A value with a JSON form contains nothing that cannot be duplicated.  So a summary can be
written if its insert id has a JSON form and its counts are not too long.
-/
import PooledQuery.Proofs.Rows.Visits
import PooledQuery.Proofs.Failure
import PooledQuery.Proofs.Value.Written
import PooledQuery.Rows.Outcome

namespace PooledQuery

namespace ChangeSummary

theorem countTexts_of_short {summary : ChangeSummary}
    (affected : summary.affected.natAbs < Number.unwritable)
    (changed : summary.changed.natAbs < Number.unwritable) :
    ∃ texts, summary.countTexts = .ok texts := by
  unfold countTexts
  rw [Number.integerText_of_short affected, Number.integerText_of_short changed]
  exact ⟨_, rfl⟩

private theorem uncopyable?_of_fieldName {key : Value} {name : Text}
    (named : key.fieldName = .ok name) :
    uncopyable? key = none := by
  cases key with
  | null => rfl
  | number n => rfl
  | text content => rfl
  | _ => cases named

mutual

theorem uncopyable?_of_ofValue :
    ∀ {value : Value} {json : Json}, Json.ofValue true value = .ok json → uncopyable? value = none
  | .null, _, _ => rfl
  | .number _, _, _ => rfl
  | .text _, _, _ => rfl
  | .list _, _, formed => by
      obtain ⟨_, items, _⟩ := Failure.bind_pure_ok formed
      exact uncopyableItem?_of_ofValues items
  | .tuple _, _, formed => by
      obtain ⟨_, items, _⟩ := Failure.bind_pure_ok formed
      exact uncopyableItem?_of_ofValues items
  | .table false _, _, formed => by
      obtain ⟨_, entries, _⟩ := Failure.bind_pure_ok formed
      exact uncopyableInTable?_of_ofEntries entries
  | .table true _, _, formed => nomatch formed
  | .bytes _ _, _, formed => nomatch formed
  | .date _, _, _ => rfl
  | .time _, _, _ => rfl
  | .moment _ _ _, _, _ => rfl
  | .duration _, _, _ => rfl
  | .uuid _, _, _ => rfl
  | .member _ _ _, _, _ => rfl
  | .set _ _, _, formed => nomatch formed
  | .record _, _, formed => nomatch formed
  | .blank, _, _ => rfl

theorem uncopyableItem?_of_ofValues :
    ∀ {items : List Value} {jsons : List Json}, Json.ofValues true items = .ok jsons →
      uncopyableItem? items = none
  | [], _, _ => rfl
  | _ :: _, _, formed => by
      obtain ⟨_, first, rest⟩ := Failure.bind_ok formed
      obtain ⟨_, rest, _⟩ := Failure.bind_pure_ok rest
      rw [uncopyableItem?, uncopyable?_of_ofValue first, uncopyableItem?_of_ofValues rest]
      rfl

theorem uncopyableInTable?_of_ofEntries :
    ∀ {entries : List (Value × Value)} {fields : List (Text × Json)},
      Json.ofEntries true entries = .ok fields → uncopyableInTable? entries = none
  | [], _, _ => rfl
  | (_, _) :: _, _, formed => by
      obtain ⟨_, named, rest⟩ := Failure.bind_ok formed
      obtain ⟨_, value, rest⟩ := Failure.bind_ok rest
      obtain ⟨_, rest, _⟩ := Failure.bind_pure_ok rest
      rw [uncopyableInTable?, uncopyable?_of_fieldName named, uncopyable?_of_ofValue value,
        uncopyableInTable?_of_ofEntries rest]
      rfl

end

theorem insertId_of_table {view : Bool} {entries : Entries} {summary : ChangeSummary}
    (made : ofResponse (.table view entries) = .ok summary) :
    summary.insertId = (Entries.get? entries (.text "insert_id")).getD .null := by
  obtain ⟨affected, _, made⟩ := Failure.bind_ok made
  obtain ⟨changed, _, made⟩ := Failure.bind_ok made
  cases made
  rfl

/-- The counts of a summary are short enough to be written, and its insert id has a JSON
form. -/
structure IsWritable (summary : ChangeSummary) : Prop where
  counts : ∃ texts, summary.countTexts = .ok texts
  insertId : ∃ json, Json.ofValue true summary.insertId = .ok json

namespace IsWritable

variable {summary : ChangeSummary} (writable : summary.IsWritable)

include writable

theorem written : ∃ line, summary.written = .ok line := by
  obtain ⟨texts, counted⟩ := writable.counts
  obtain ⟨json, formed⟩ := writable.insertId
  unfold ChangeSummary.written
  rw [uncopyable?_of_ofValue formed, counted, formed]
  exact ⟨_, rfl⟩

end IsWritable
end ChangeSummary

namespace Outcome

theorem ofResponse_change {transform : Transform} {response : Value} {summary : ChangeSummary}
    (made : (ofResponse transform response).outcome.1 = .ok (.change summary)) :
    ChangeSummary.ofResponse response = .ok summary := by
  have ensures : Visit.Ensures (ofResponse transform response) fun outcome =>
      ∀ summary, outcome = .change summary → ChangeSummary.ofResponse response = .ok summary := by
    unfold ofResponse
    split
    · rename_i items
      refine (Visit.Ensures.anything _).bind fun rows _any => Visit.Ensures.pure ?_
      intro summary same
      cases same
    · have counts : Visit.Ensures (Visit.ofExcept (ChangeSummary.ofResponse response))
          fun summary => ChangeSummary.ofResponse response = .ok summary :=
        Visit.Ensures.ofExcept fun summary counted => counted
      refine counts.bind fun counted amounts => Visit.Ensures.pure ?_
      intro summary same
      cases same
      exact amounts
  exact ensures.outcome made summary rfl

/-- Whether an outcome can be written: rows always can. -/
def IsWritable : Outcome → Prop
  | .rows _ => True
  | .change summary => summary.IsWritable

theorem IsWritable.written {outcome : Outcome} (writable : outcome.IsWritable) :
    ∃ line, outcome.written = .ok line := by
  cases outcome with
  | rows items => exact ⟨_, rfl⟩
  | change summary => exact ChangeSummary.IsWritable.written writable

end Outcome
end PooledQuery
