/-
Passing over texts in search of a keyword.

A recognizer passes over a text, given what follows the text, if it recognizes nothing that
begins in it.  Whether a word is passed over can be seen from the text alone, as long as no word
goes on from the text into what follows, and it is the same for the squeezed text.
-/
import PooledQuery.Proofs.Outline.Keyword
import PooledQuery.Proofs.Outline.Nesting

namespace PooledQuery

namespace Keyword

variable {keyword : Text} {before : Option CodePoint} {nesting : Nesting}
  {text following rest : Text}

/-- Whether a recognizer recognizes nothing that begins in a text, outside parentheses and
quotes, when something else follows the text. -/
def Passes (recognize : Recognizer) (following : Text) (before : Option CodePoint)
    (nesting : Nesting) : Text → Prop
  | [] => True
  | point :: rest =>
      (nesting.isTop point = true → recognize before (point :: rest ++ following) = none) ∧
        Passes recognize following (some point) (nesting.step point) rest

/-- The code point before what comes after a text. -/
def lastOr (before : Option CodePoint) (text : Text) : Option CodePoint :=
  text.getLast?.or before

@[simp] theorem lastOr_nil (before : Option CodePoint) : lastOr before [] = before := rfl

@[simp] theorem lastOr_cons (before : Option CodePoint) (point : CodePoint) (rest : Text) :
    lastOr before (point :: rest) = lastOr (some point) rest := by
  unfold lastOr
  cases rest with
  | nil => rfl
  | cons next others =>
      rw [List.getLast?_cons_cons]
      cases last : (next :: others).getLast? with
      | none => simp at last
      | some point => rfl

variable {recognize : Recognizer}

theorem Passes.append {first second : Text}
    (former : Passes recognize (second ++ following) before nesting first)
    (latter : Passes recognize following (lastOr before first) (nesting.after first) second) :
    Passes recognize following before nesting (first ++ second) := by
  induction first generalizing before nesting with
  | nil => exact latter
  | cons point rest ih =>
      obtain ⟨here, later⟩ := former
      rw [lastOr_cons] at latter
      refine ⟨?_, ih later latter⟩
      simpa using here

theorem firstFrom_cons_of_none {point : CodePoint}
    (nothing : nesting.isTop point = true → recognize before (point :: text) = none) :
    firstFrom recognize before nesting (point :: text) =
      (firstFrom recognize (some point) (nesting.step point) text).map fun found =>
        { found with before := point :: found.before } := by
  rw [firstFrom]
  by_cases atTop : nesting.isTop point = true
  · simp [atTop, nothing atTop]
  · simp [atTop]

theorem firstFrom_cons_of_some {point : CodePoint} {after : Text}
    (atTop : nesting.isTop point = true) (found : recognize before (point :: text) = some after) :
    firstFrom recognize before nesting (point :: text) = some ⟨[], point :: text, after⟩ := by
  rw [firstFrom, if_pos atTop, found]

theorem Passes.firstFrom_append (passes : Passes recognize following before nesting text) :
    firstFrom recognize before nesting (text ++ following) =
      (firstFrom recognize (lastOr before text) (nesting.after text) following).map fun found =>
        { found with before := text ++ found.before } := by
  induction text generalizing before nesting with
  | nil => simp
  | cons point rest ih =>
      obtain ⟨here, later⟩ := passes
      rw [List.cons_append] at here ⊢
      rw [firstFrom_cons_of_none here, ih later, lastOr_cons, Option.map_map]
      rfl

theorem passes_of_firstFrom_eq_none (nothing : firstFrom recognize before nesting text = none) :
    Passes recognize [] before nesting text := by
  induction text generalizing before nesting with
  | nil => trivial
  | cons point rest ih =>
      have here : nesting.isTop point = true → recognize before (point :: rest) = none := by
        intro atTop
        rw [firstFrom, if_pos atTop] at nothing
        cases found : recognize before (point :: rest) with
        | none => rfl
        | some after =>
            rw [found] at nothing
            cases nothing
      rw [firstFrom_cons_of_none here, Option.map_eq_none_iff] at nothing
      exact ⟨by simpa using here, ih nothing⟩

theorem Passes.first?_eq_none (passes : Passes recognize [] none .top text) :
    first? recognize text = none := by
  have search := passes.firstFrom_append
  rwa [List.append_nil] at search

private theorem firstFrom_eq_some {found : Occurrence}
    (first : firstFrom recognize before nesting text = some found) :
    text = found.before ++ found.here ∧ ∃ point others, found.here = point :: others ∧
      (nesting.after found.before).isTop point = true ∧
      recognize (lastOr before found.before) found.here = some found.after := by
  induction text generalizing before nesting found with
  | nil => cases first
  | cons point rest ih =>
      by_cases nothing : nesting.isTop point = true → recognize before (point :: rest) = none
      · rw [firstFrom_cons_of_none nothing] at first
        obtain ⟨later, search, rfl⟩ := Option.map_eq_some_iff.mp first
        obtain ⟨whole, next, others, opened, atTop, recognized⟩ := ih search
        refine ⟨congrArg (point :: ·) whole, next, others, opened, atTop, ?_⟩
        rwa [lastOr_cons]
      · obtain ⟨atTop, something⟩ := Classical.not_imp.mp nothing
        obtain ⟨after, here⟩ := Option.ne_none_iff_exists'.mp something
        rw [firstFrom_cons_of_some atTop here] at first
        cases first
        exact ⟨rfl, point, rest, rfl, atTop, here⟩

theorem first?_word_eq_some (isKeyword : Text.IsKeyword keyword) {found : Occurrence}
    (first : first? (word keyword) text = some found) :
    text = found.before ++ found.here ∧ Nesting.top.after found.before = .top ∧
      ∃ spelled, (∀ point ∈ spelled, point.isWord = true) ∧ found.here = spelled ++ found.after := by
  obtain ⟨whole, point, others, opened, atTop, recognized⟩ := firstFrom_eq_some first
  obtain ⟨_begins, ⟨spelled, same, here⟩, _ends⟩ := word_eq_some_iff.mp recognized
  rw [opened] at recognized
  have inert := CodePoint.isInert_of_isWord (isWord_of_word isKeyword recognized)
  exact ⟨whole, (Nesting.isTop_iff_of_inert inert _).mp atTop, spelled,
    Text.isWord_of_sameLetters isKeyword.2 same, here⟩

theorem Passes.of_append {first second : Text}
    (passes : Passes recognize following before nesting (first ++ second)) :
    Passes recognize following (lastOr before first) (nesting.after first) second := by
  induction first generalizing before nesting with
  | nil => exact passes
  | cons point rest ih =>
      rw [lastOr_cons]
      exact ih passes.2

theorem passes_raised (balanced : nesting.balancedFrom text = true) {floor : Nat}
    (within : 0 < floor) : Passes recognize following before (nesting.raised floor) text := by
  induction text generalizing before nesting with
  | nil => trivial
  | cons point rest ih =>
      obtain ⟨opened, others⟩ := Nesting.balancedFrom_cons_iff.mp balanced
      refine ⟨?_, ?_⟩
      · intro atTop
        rw [Nesting.isTop_raised opened within] at atTop
        cases atTop
      · rw [Nesting.step_raised opened]
        exact ih others

theorem passes_of_not_isWord (isKeyword : Text.IsKeyword keyword)
    (plain : ∀ point ∈ text, point.isWord = false) :
    Passes (word keyword) following before nesting text := by
  induction text generalizing before nesting with
  | nil => trivial
  | cons point rest ih =>
      obtain ⟨first, others⟩ := List.forall_mem_cons.mp plain
      exact ⟨fun _atTop => word_of_not_isWord isKeyword first, ih others⟩

/-- Nothing begins within a word. -/
theorem passes_within_word (inWord : endsWord before = true)
    (words : ∀ point ∈ text, point.isWord = true) :
    Passes (word keyword) following before nesting text := by
  induction text generalizing before nesting with
  | nil => trivial
  | cons point rest ih =>
      obtain ⟨first, others⟩ := List.forall_mem_cons.mp words
      refine ⟨fun _atTop => ?_, ih (by simpa using first) others⟩
      cases found : word keyword before (point :: rest ++ following) with
      | none => rfl
      | some after =>
          rw [(word_eq_some_iff.mp found).1] at inWord
          cases inWord

/-- Whether no word goes on from one text into another. -/
def Separated (first second : Text) : Prop :=
  endsWord first.getLast? = false ∨ endsWord second.head? = false

theorem separated_of_blank (blank : second.IsBlank) : Separated first second :=
  Or.inr (endsWord_head?_of_blank blank)

theorem separated_after_blank (blank : first.IsBlank) : Separated first second :=
  Or.inl (endsWord_getLast?_of_blank blank)

theorem Separated.append_front {third : Text} (nonempty : second ≠ [])
    (separated : Separated second third) : Separated (first ++ second) third := by
  obtain ⟨last, isLast⟩ := List.getLast?_isSome.mpr nonempty |> Option.isSome_iff_exists.mp
  unfold Separated at separated ⊢
  rw [List.getLast?_append, isLast]
  rwa [isLast] at separated

theorem Separated.append_blank {margin : Text} (separated : Separated first second)
    (blank : margin.IsBlank) : Separated (first ++ margin) second := by
  by_cases nothing : margin = []
  · rwa [nothing, List.append_nil]
  · exact (separated_after_blank blank).append_front nothing

theorem separated_enclosed (first second : Text) : Separated first second.enclosed :=
  Or.inr (by rfl)

theorem enclosed_separated (first second : Text) : Separated first.enclosed second := by
  left
  have last : first.enclosed.getLast? = some (.char ')') := by
    unfold Text.enclosed
    exact List.getLast?_concat
  rw [last]
  rfl

theorem word_of_append (isKeyword : Text.IsKeyword keyword) {point : CodePoint}
    (separated : Separated (point :: text) following)
    (found : word keyword before (point :: text ++ following) = some rest) :
    ∃ others, word keyword before (point :: text) = some others := by
  obtain ⟨begins, ⟨spelled, same, whole⟩, endsAfter⟩ := word_eq_some_iff.mp found
  have words := Text.isWord_of_sameLetters isKeyword.2 same
  rcases List.append_eq_append_iff.mp whole with ⟨extra, longer, split⟩ | ⟨others, shorter, split⟩
  · cases extra with
    | nil =>
        rw [List.append_nil] at longer
        refine ⟨[], word_eq_some_iff.mpr ⟨begins, ⟨spelled, same, ?_⟩, rfl⟩⟩
        rw [longer, List.append_nil]
    | cons next more =>
        -- The word would go on from the text into what follows it.
        have last := List.getLast_mem (List.cons_ne_nil point text)
        rw [Separated, List.getLast?_eq_some_getLast (List.cons_ne_nil point text), split,
          List.cons_append, List.head?_cons, endsWord_some, endsWord_some,
          words next (by simp [longer]), words _ (by rw [longer]; exact List.mem_append_left _ last)]
          at separated
        simp at separated
  · refine ⟨others, word_eq_some_iff.mpr ⟨begins, ⟨spelled, same, shorter⟩, ?_⟩⟩
    cases others with
    | nil => rfl
    | cons next more =>
        rw [split] at endsAfter
        exact endsAfter

theorem Passes.extend (isKeyword : Text.IsKeyword keyword) (separated : Separated text following)
    (passes : Passes (word keyword) [] before nesting text) :
    Passes (word keyword) following before nesting text := by
  induction text generalizing before nesting with
  | nil => trivial
  | cons point rest ih =>
      obtain ⟨here, later⟩ := passes
      refine ⟨?_, ?_⟩
      · intro atTop
        cases found : word keyword before (point :: rest ++ following) with
        | none => rfl
        | some after =>
            obtain ⟨others, alone⟩ := word_of_append isKeyword separated found
            have nothing := here atTop
            rw [List.append_nil, alone] at nothing
            cases nothing
      · cases rest with
        | nil => trivial
        | cons next others => exact ih (by simpa [Separated] using separated) later

theorem Passes.of_none (passes : Passes (word keyword) following none nesting text) :
    Passes (word keyword) following before nesting text := by
  cases text with
  | nil => trivial
  | cons point rest =>
      obtain ⟨here, later⟩ := passes
      refine ⟨fun atTop => ?_, later⟩
      cases found : word keyword before (point :: rest ++ following) with
      | none => rfl
      | some after =>
          have begins := (word_eq_some_iff.mp found).1
          have same : endsWord before = endsWord none := begins
          rw [word_congr_before same, here atTop] at found
          cases found

theorem passes_of_identifier (words : ∀ point ∈ text, point.isWord = true)
    (other : Text.sameLetters keyword text = false) :
    Passes (word keyword) [] before nesting text := by
  cases text with
  | nil => trivial
  | cons point rest =>
      obtain ⟨first, others⟩ := List.forall_mem_cons.mp words
      refine ⟨fun _atTop => ?_, passes_within_word (by simpa using first) others⟩
      cases found : word keyword before (point :: rest ++ []) with
      | none => rfl
      | some after =>
          obtain ⟨_begins, ⟨spelled, same, whole⟩, endsAfter⟩ := word_eq_some_iff.mp found
          rw [List.append_nil] at whole
          cases after with
          | nil =>
              rw [List.append_nil] at whole
              rw [whole, same] at other
              cases other
          | cons next more =>
              have inWord : next.isWord = true := words next (by simp [whole])
              simp [inWord] at endsAfter

/-! ### Single characters -/

theorem mark_of_append {sign : Char} {point : CodePoint} (rest : Text) :
    mark sign before (point :: rest ++ following) = none ↔
      mark sign before (point :: rest) = none := by
  by_cases same : point = .char sign
  · simp [mark, same]
  · simp [mark, same]

theorem Passes.extend_mark {sign : Char} (passes : Passes (mark sign) [] before nesting text) :
    Passes (mark sign) following before nesting text := by
  induction text generalizing before nesting with
  | nil => trivial
  | cons point rest ih =>
      obtain ⟨here, later⟩ := passes
      rw [List.append_nil] at here
      exact ⟨fun atTop => (mark_of_append rest).mpr (here atTop), ih later⟩

theorem passes_mark_of_not_mem {sign : Char} (absent : .char sign ∉ text) :
    Passes (mark sign) following before nesting text := by
  induction text generalizing before nesting with
  | nil => trivial
  | cons point rest ih =>
      rw [List.mem_cons, not_or] at absent
      obtain ⟨other, later⟩ := absent
      refine ⟨fun _atTop => ?_, ih later⟩
      simp [mark, Ne.symm other]

theorem Passes.of_none_mark (passes : Passes (mark sign) following none nesting text) :
    Passes (mark sign) following before nesting text := by
  cases text with
  | nil => trivial
  | cons point rest => exact passes

/-! ### Squeezed texts -/

/-- Whether a recognizer begins at no white space and does not see how wide it is. -/
structure IgnoresSpacing (recognize : Recognizer) : Prop where
  blank : ∀ before point rest, point.isBlank = true → recognize before (point :: rest) = none
  squeezed : ∀ before other point rest, endsWord other = endsWord before →
    point.isBlank = false → recognize before (point :: rest) = none →
      recognize other (point :: Text.squeezedFrom false rest) = none

theorem squeezedFrom_eq_append {spelled rest : Text} (unbroken : Text.IsUnbroken spelled)
    (whole : Text.squeezedFrom false text = spelled ++ rest) :
    ∃ others, text = spelled ++ others ∧ rest = Text.squeezedFrom false others := by
  induction spelled generalizing text with
  | nil => exact ⟨text, rfl, whole.symm⟩
  | cons point more ih =>
      obtain ⟨unblank, later⟩ := unbroken.of_cons
      cases text with
      | nil => cases whole
      | cons first following =>
          cases blank : first.isBlank with
          | true =>
              rw [Text.squeezedFrom_cons_blank blank, if_neg Bool.false_ne_true] at whole
              obtain ⟨rfl, _split⟩ := List.cons.inj whole
              cases unblank
          | false =>
              rw [Text.squeezedFrom_cons_unblank blank] at whole
              obtain ⟨rfl, split⟩ := List.cons.inj whole
              obtain ⟨others, rfl, same⟩ := ih later split
              exact ⟨others, rfl, same⟩

theorem endsWord_head?_squeezedFrom (text : Text) :
    endsWord (Text.squeezedFrom false text).head? = endsWord text.head? := by
  cases text with
  | nil => rfl
  | cons point rest =>
      cases blank : point.isBlank with
      | false => rw [Text.squeezedFrom_cons_unblank blank]; rfl
      | true =>
          rw [Text.squeezedFrom_cons_blank blank, if_neg Bool.false_ne_true]
          rw [List.head?_cons, List.head?_cons, endsWord_some, endsWord_some,
            CodePoint.isWord_of_isBlank blank]
          decide

theorem word_ignoresSpacing (isKeyword : Text.IsKeyword keyword) :
    IgnoresSpacing (word keyword) where
  blank := by
    intro before point rest blank
    exact word_of_not_isWord isKeyword (CodePoint.isWord_of_isBlank blank)
  squeezed := by
    intro before other point rest same unblank nothing
    rw [word_congr_before same]
    cases found : word keyword before (point :: Text.squeezedFrom false rest) with
    | none => rfl
    | some after =>
        obtain ⟨begins, ⟨spelled, alike, whole⟩, ends⟩ := word_eq_some_iff.mp found
        have unbroken := Text.isUnbroken_of_isWord (Text.isWord_of_sameLetters isKeyword.2 alike)
        rw [← Text.squeezedFrom_cons_unblank unblank false] at whole
        obtain ⟨others, split, rfl⟩ := squeezedFrom_eq_append unbroken whole
        rw [endsWord_head?_squeezedFrom] at ends
        rw [word_eq_some_iff.mpr ⟨begins, ⟨spelled, alike, split⟩, ends⟩] at nothing
        cases nothing

theorem Passes.squeezedFrom (ignores : IgnoresSpacing recognize) {other : Option CodePoint}
    {afterBlank : Bool} (same : endsWord other = endsWord before) (sound : nesting.quoting.IsSound)
    (settled : afterBlank = true → nesting.IsSettled ∧ endsWord before = false)
    (passes : Passes recognize [] before nesting text) :
    Passes recognize [] other nesting (Text.squeezedFrom afterBlank text) := by
  induction text generalizing before other nesting afterBlank with
  | nil => trivial
  | cons point rest ih =>
      obtain ⟨here, later⟩ := passes
      have following := Nesting.isSound_step sound point
      cases blank : point.isBlank with
      | false =>
          rw [Text.squeezedFrom_cons_unblank blank]
          refine ⟨?_, ih rfl following (by simp) later⟩
          intro atTop
          have nothing := here atTop
          rw [List.append_nil] at nothing ⊢
          exact ignores.squeezed before other point rest same blank nothing
      | true =>
          obtain ⟨alike, settles⟩ := Nesting.step_blank blank sound
          have outside : endsWord (some point) = false := CodePoint.isWord_of_isBlank blank
          have space : endsWord (some (.char ' ')) = endsWord (some point) := by
            rw [outside]
            decide
          rw [Text.squeezedFrom_cons_blank blank]
          cases afterBlank with
          | false =>
              rw [if_neg Bool.false_ne_true]
              refine ⟨fun _atTop => ignores.blank _ _ _ (by decide), ?_⟩
              rw [← alike]
              exact ih space following (fun _passed => ⟨settles, outside⟩) later
          | true =>
              -- The white space is dropped, and it moves neither reader.
              obtain ⟨settled', notWord⟩ := settled rfl
              have still : nesting.step point = nesting := alike.trans settled'
              rw [still] at later following settles
              rw [if_pos rfl]
              refine ih ?_ sound (fun _passed => ⟨settled', outside⟩) later
              rw [same, notWord, outside]

theorem endsWord_lastOr_squeezedFrom {other : Option CodePoint} {afterBlank : Bool}
    (same : endsWord other = endsWord before)
    (settled : afterBlank = true → endsWord before = false) :
    endsWord (lastOr other (Text.squeezedFrom afterBlank text)) = endsWord (lastOr before text) := by
  induction text generalizing before other afterBlank with
  | nil => exact same
  | cons point rest ih =>
      rw [lastOr_cons]
      cases blank : point.isBlank with
      | false =>
          rw [Text.squeezedFrom_cons_unblank blank, lastOr_cons]
          exact ih rfl (by simp)
      | true =>
          have outside : endsWord (some point) = false := CodePoint.isWord_of_isBlank blank
          rw [Text.squeezedFrom_cons_blank blank]
          cases afterBlank with
          | false =>
              rw [if_neg Bool.false_ne_true, lastOr_cons]
              exact ih (by rw [outside]; decide) fun _passed => outside
          | true =>
              rw [if_pos rfl]
              exact ih (by rw [same, settled rfl, outside]) fun _passed => outside

end Keyword
end PooledQuery
