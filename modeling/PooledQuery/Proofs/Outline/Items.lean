/-
Items of a list.

The items of texts that are joined by commas are these texts, trimmed, as long as none of them
has a comma outside parentheses and quotes.  A list on one line has the squeezed items.
-/
import PooledQuery.Proofs.Outline.Skipping

namespace PooledQuery

open Keyword

namespace Nesting

theorem commaPiecesFrom_ne_nil (nesting : Nesting) (text : Text) :
    commaPiecesFrom nesting text ≠ [] := by
  cases text with
  | nil => simp [commaPiecesFrom]
  | cons point rest =>
      rw [commaPiecesFrom]
      split
      · simp
      · split <;> simp

variable {nesting : Nesting} {point : CodePoint} {rest first : Text} {others : List Text}

theorem commaPiecesFrom_cons (within : ¬(point = .char ',' ∧ nesting.isTop point = true))
    (split : commaPiecesFrom (nesting.step point) rest = first :: others) :
    commaPiecesFrom nesting (point :: rest) = (point :: first) :: others := by
  rw [commaPiecesFrom, split]
  simp only [within, if_false]

private theorem commaPiecesFrom_comma (rest : Text) :
    commaPiecesFrom .top (.char ',' :: rest) = [] :: commaPiecesFrom .top rest := rfl

theorem commaPiecesFrom_append {before : Option CodePoint} {text following : Text}
    (passes : Passes (mark ',') following before nesting text)
    (split : commaPiecesFrom (nesting.after text) following = first :: others) :
    commaPiecesFrom nesting (text ++ following) = (text ++ first) :: others := by
  induction text generalizing before nesting with
  | nil => exact split
  | cons point rest ih =>
      obtain ⟨here, later⟩ := passes
      have within : ¬(point = .char ',' ∧ nesting.isTop point = true) := by
        rintro ⟨rfl, top⟩
        have marked := here top
        simp [mark] at marked
      exact commaPiecesFrom_cons within (ih later split)

/-- The first piece of a squeezed text begins where the text does, and the other ones begin after
a comma. -/
theorem commaPiecesFrom_squeezedFrom {afterBlank : Bool} {text : Text}
    (sound : nesting.quoting.IsSound) (settled : afterBlank = true → nesting.IsSettled)
    (split : commaPiecesFrom nesting text = first :: others) :
    commaPiecesFrom nesting (Text.squeezedFrom afterBlank text) =
      Text.squeezedFrom afterBlank first :: others.map (Text.squeezedFrom false) := by
  -- After white space the reader is settled, so the white space that is dropped does not move him.
  induction text generalizing nesting afterBlank first others with
  | nil =>
      cases split
      rfl
  | cons point rest ih =>
      have following := isSound_step sound point
      obtain ⟨piece, pieces, later⟩ :=
        List.exists_cons_of_ne_nil (commaPiecesFrom_ne_nil (nesting.step point) rest)
      by_cases comma : point = .char ',' ∧ nesting.isTop point = true
      · obtain ⟨rfl, top⟩ := comma
        have unblank : (CodePoint.char ',').isBlank = false := by decide
        rw [commaPiecesFrom, if_pos ⟨rfl, top⟩] at split
        obtain ⟨rfl, rfl⟩ := List.cons.inj split
        rw [Text.squeezedFrom_cons_unblank unblank, commaPiecesFrom, if_pos ⟨rfl, top⟩, later,
          ih following (by simp) later]
        rfl
      · rw [commaPiecesFrom_cons comma later] at split
        obtain ⟨rfl, rfl⟩ := List.cons.inj split
        cases blank : point.isBlank with
        | false =>
            rw [Text.squeezedFrom_cons_unblank blank, Text.squeezedFrom_cons_unblank blank]
            exact commaPiecesFrom_cons comma (ih following (by simp) later)
        | true =>
            obtain ⟨alike, settles⟩ := step_blank blank sound
            rw [Text.squeezedFrom_cons_blank blank, Text.squeezedFrom_cons_blank blank]
            cases afterBlank with
            | false =>
                rw [if_neg Bool.false_ne_true, if_neg Bool.false_ne_true]
                apply commaPiecesFrom_cons (by simp)
                rw [← alike]
                exact ih following (fun _passed => settles) later
            | true =>
                have still : nesting.step point = nesting := alike.trans (settled rfl)
                rw [still] at later
                rw [if_pos rfl, if_pos rfl]
                exact ih sound (fun _passed => settled rfl) later

end Nesting

namespace Text

theorem passes_comma_of_blank {margin : Text} (blank : margin.IsBlank) :
    Passes (mark ',') [] none .top margin := by
  apply passes_mark_of_not_mem
  intro member
  cases blank _ member

theorem commaItems_joined {texts : List Text} (nonempty : texts ≠ [])
    (each : ∀ text ∈ texts, Skips (mark ',') text) {margin : Text} (blank : margin.IsBlank) :
    commaItems (joined [.char ','] texts ++ margin) = texts.map trim := by
  unfold commaItems
  induction texts with
  | nil => exact absurd rfl nonempty
  | cons text others ih =>
      obtain ⟨skips, later⟩ := List.forall_mem_cons.mp each
      cases others with
      | nil =>
          have last : Nesting.commaPiecesFrom (Nesting.top.after text) margin = [margin] := by
            rw [skips.balanced.after_top]
            have alone := Nesting.commaPiecesFrom_append (passes_comma_of_blank blank) (rfl :
              Nesting.commaPiecesFrom (Nesting.top.after margin) [] = [[]])
            simpa using alone
          have whole : joined [.char ','] [text] = text := by simp [joined]
          rw [whole, Nesting.commaPiecesFrom_append skips.passes.extend_mark last]
          simp [trim_append_of_blank blank]
      | cons next more =>
          have whole : joined [.char ','] (text :: next :: more) ++ margin =
              text ++ .char ',' :: (joined [.char ','] (next :: more) ++ margin) := by
            simp [joined, List.intercalate_cons_cons]
          have comma : Nesting.commaPiecesFrom (Nesting.top.after text)
              (.char ',' :: (joined [.char ','] (next :: more) ++ margin)) =
                [] :: Nesting.commaPiecesFrom .top (joined [.char ','] (next :: more) ++ margin) := by
            rw [skips.balanced.after_top]
            exact Nesting.commaPiecesFrom_comma _
          rw [whole, Nesting.commaPiecesFrom_append skips.passes.extend_mark comma, List.map_cons,
            ih (by simp) later, List.append_nil]
          rfl

theorem commaItems_squeezedFrom (text : Text) :
    commaItems (squeezedFrom true text) = (commaItems text).map (squeezedFrom true) := by
  obtain ⟨first, others, split⟩ :=
    List.exists_cons_of_ne_nil (Nesting.commaPiecesFrom_ne_nil .top text)
  have squeezed : Nesting.commaPiecesFrom .top (squeezedFrom true text) =
      squeezedFrom true first :: others.map (squeezedFrom false) :=
    Nesting.commaPiecesFrom_squeezedFrom Quoting.isSound_outside (fun _passed => rfl) split
  unfold commaItems
  rw [squeezed, split]
  simp [trim_squeezedFrom]

end Text

namespace Keyword

theorem skips_joined {keyword : Text} (isKeyword : keyword.IsKeyword) {sign : Char}
    (plain : (CodePoint.char sign).isWord = false) (inert : (CodePoint.char sign).isInert = true)
    {texts : List Text} (each : ∀ text ∈ texts, Skips (word keyword) text) :
    Skips (word keyword) (Text.joined [.char sign] texts) := by
  induction texts with
  | nil => exact ⟨rfl, trivial⟩
  | cons text others ih =>
      obtain ⟨skips, later⟩ := List.forall_mem_cons.mp each
      cases others with
      | nil => simpa [Text.joined] using skips
      | cons next more =>
          have separator : Skips (word keyword) [.char sign] :=
            ⟨Nesting.balancedFrom_of_inert (List.forall_mem_singleton.mpr inert),
              passes_of_not_isWord isKeyword (List.forall_mem_singleton.mpr plain)⟩
          have following := separator.append isKeyword (ih later) (Or.inl plain)
          have whole : Text.joined [.char sign] (text :: next :: more) =
              text ++ ([.char sign] ++ Text.joined [.char sign] (next :: more)) := by
            simp [Text.joined, List.intercalate_cons_cons]
          rw [whole]
          exact skips.append isKeyword following (Or.inr plain)

end Keyword
end PooledQuery
