/-
Statements that have a fingerprint.

A text has a UTF-8 form exactly if it has no surrogates; otherwise its first run of them is
reported.  So of the statements that can be rendered those have a fingerprint whose rendered
text has no surrogates.
-/
import PooledQuery.Fingerprint.Basic
import PooledQuery.Proofs.Failure

namespace PooledQuery

namespace Text

/-- Whether a text has a UTF-8 form. -/
def IsEncodable (text : Text) : Prop :=
  ∀ point ∈ text, isSurrogate point = false

private theorem isEncodable_cons {point : CodePoint} {rest : Text} :
    IsEncodable (point :: rest) ↔ isSurrogate point = false ∧ IsEncodable rest :=
  List.forall_mem_cons

private theorem utf8From_ok_iff {start : Nat} {text : Text} :
    (∃ bytes, utf8From start text = .ok bytes) ↔ text.IsEncodable := by
  induction text generalizing start with
  | nil =>
      constructor
      · intro _encoded point member
        cases member
      · intro _lacks
        exact ⟨[], rfl⟩
  | cons point rest ih =>
      rw [isEncodable_cons]
      cases point with
      | surrogate offset =>
          constructor
          · rintro ⟨bytes, encoded⟩
            cases encoded
          · rintro ⟨lacks, _others⟩
            cases lacks
      | char c =>
          rw [utf8From]
          constructor
          · rintro ⟨bytes, encoded⟩
            cases following : utf8From (start + 1) rest with
            | ok others => exact ⟨rfl, ih.mp ⟨others, following⟩⟩
            | error run =>
                rw [following] at encoded
                cases encoded
          · rintro ⟨_lacks, others⟩
            obtain ⟨bytes, following⟩ := ih.mpr others
            rw [following]
            exact ⟨_, rfl⟩

theorem utf8_ok_iff {text : Text} : (∃ bytes, utf8 text = .ok bytes) ↔ text.IsEncodable :=
  utf8From_ok_iff

theorem utf8_of_not_encodable {text : Text} (surrogates : ¬ text.IsEncodable) :
    ∃ run, utf8 text = .error run := by
  cases encoded : utf8 text with
  | ok bytes => exact absurd (utf8_ok_iff.mp ⟨bytes, encoded⟩) surrogates
  | error run => exact ⟨run, rfl⟩

end Text

namespace Fingerprint

variable {dialect : Option Dialect} {sql text : Text} {params : List Value}

theorem ofStatement_of_rendered (rendered : Template.render dialect sql params = .ok text) :
    ofStatement dialect sql params = ofText text := by
  rw [ofStatement, rendered, Failure.ok_bind]

theorem ofStatement_of_unencodable {run : Text.UnencodableRun}
    (rendered : Template.render dialect sql params = .ok text)
    (unencodable : Text.utf8 text = .error run) :
    ofStatement dialect sql params = .error (.unencodable run) := by
  rw [ofStatement_of_rendered rendered, ofText, unencodable]

/-- A statement that can be rendered has a fingerprint exactly if its rendered text has a
UTF-8 form. -/
theorem ofStatement_ok_iff (rendered : Template.render dialect sql params = .ok text) :
    (∃ key, ofStatement dialect sql params = .ok key) ↔ text.IsEncodable := by
  rw [ofStatement_of_rendered rendered, ← Text.utf8_ok_iff, ofText]
  cases Text.utf8 text with
  | ok bytes => exact ⟨fun _keyed => ⟨bytes, rfl⟩, fun _encoded => ⟨_, rfl⟩⟩
  | error run =>
      constructor
      · rintro ⟨key, keyed⟩
        cases keyed
      · rintro ⟨bytes, encoded⟩
        cases encoded

end Fingerprint
end PooledQuery
