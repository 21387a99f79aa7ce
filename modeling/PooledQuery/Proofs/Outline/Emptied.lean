/-
Texts without the contents of their quotes.

An emptied text keeps everything outside quotes and the quotes themselves.  Two texts that
differ in the contents of quoted segments only are the same when emptied.  White space and the
end of a text are treated alike before and after it is emptied, and a reader of the emptied text
stands where a reader of the text stands, but for a backslash that was just read.
-/
import PooledQuery.Proofs.Outline.Writing

namespace PooledQuery

namespace Quoting

/-- The same place without the backslash that was just read. -/
def calmed : Quoting → Quoting
  | .outside => .outside
  | .inside quote _ => .inside quote false

/-- A reader is outside quotes before or after a code point, or he is inside the same quotes
before and after it. -/
theorem step_cases (quoting : Quoting) (point : CodePoint) :
    ((quoting = .outside ∨ quoting.step point = .outside) ∧ quoting.calmed = quoting ∧
        (quoting.step point).calmed = quoting.step point) ∨
      (¬(quoting = .outside ∨ quoting.step point = .outside) ∧
        (quoting.step point).calmed = quoting.calmed) := by
  cases quoting with
  | outside =>
      left
      refine ⟨Or.inl rfl, rfl, ?_⟩
      rw [Quoting.step]
      split <;> rfl
  | inside quote escaped =>
      -- Nothing closes the quotes right after a backslash, which backticks do not heed.
      cases escaped with
      | true =>
          right
          exact ⟨by simp [Quoting.step], rfl⟩
      | false =>
          by_cases escapes : point = .char '\\' ∧ quote ≠ Text.backtick
          · right
            rw [Quoting.step, if_pos escapes]
            exact ⟨by simp, rfl⟩
          · by_cases closes : point = .char quote
            · left
              rw [Quoting.step, if_neg escapes, if_pos closes]
              exact ⟨Or.inr rfl, rfl, rfl⟩
            · right
              rw [Quoting.step, if_neg escapes, if_neg closes]
              exact ⟨by simp, rfl⟩

end Quoting

namespace Nesting

def calmed (nesting : Nesting) : Nesting :=
  ⟨nesting.depth, nesting.quoting.calmed⟩

theorem outside_of_isTop {nesting : Nesting} {point : CodePoint}
    (top : nesting.isTop point = true) : nesting.quoting = .outside := by
  obtain ⟨depth, quoting⟩ := nesting
  cases quoting with
  | outside => rfl
  | inside quote escaped => cases top

theorem step_cases (nesting : Nesting) (point : CodePoint) :
    ((nesting.quoting = .outside ∨ nesting.quoting.step point = .outside) ∧
        nesting.calmed = nesting ∧ (nesting.step point).calmed = nesting.step point) ∨
      (¬(nesting.quoting = .outside ∨ nesting.quoting.step point = .outside) ∧
        (nesting.step point).calmed = nesting.calmed ∧ nesting.isTop point = false) := by
  rcases Quoting.step_cases nesting.quoting point with ⟨kept, calm, calm'⟩ | ⟨dropped, same⟩
  · left
    refine ⟨kept, ?_, ?_⟩
    · rw [calmed, calm]
    · rw [calmed, quoting_step, calm', ← quoting_step]
  · right
    refine ⟨dropped, ?_⟩
    obtain ⟨depth, quoting⟩ := nesting
    cases quoting with
    | outside => exact absurd (Or.inl rfl) dropped
    | inside quote escaped => exact ⟨congrArg (Nesting.mk depth) same, rfl⟩

end Nesting

namespace Text

/-- The text without the contents of its quoted segments, for a reader who stands at the given
place. -/
def emptiedFrom (quoting : Quoting) : Text → Text
  | [] => []
  | point :: rest =>
      if quoting = .outside ∨ quoting.step point = .outside then
        point :: emptiedFrom (quoting.step point) rest
      else emptiedFrom (quoting.step point) rest

def emptied (text : Text) : Text :=
  emptiedFrom .outside text

section Equations

variable {quoting : Quoting} {point : CodePoint} {rest : Text}

theorem emptiedFrom_kept (kept : quoting = .outside ∨ quoting.step point = .outside) :
    emptiedFrom quoting (point :: rest) = point :: emptiedFrom (quoting.step point) rest := by
  rw [emptiedFrom, if_pos kept]

theorem emptiedFrom_dropped (dropped : ¬(quoting = .outside ∨ quoting.step point = .outside)) :
    emptiedFrom quoting (point :: rest) = emptiedFrom (quoting.step point) rest := by
  rw [emptiedFrom, if_neg dropped]

private theorem emptied_nil : emptied [] = [] := rfl

theorem emptied_cons (point : CodePoint) (rest : Text) :
    emptied (point :: rest) = point :: emptiedFrom (Quoting.outside.step point) rest :=
  emptiedFrom_kept (Or.inl rfl)

theorem emptied_cons_inert (inert : point.isInert = true) :
    emptied (point :: rest) = point :: emptied rest := by
  rw [emptied_cons, Quoting.step_outside inert]
  rfl

end Equations

private theorem emptied_eq_nil_iff (text : Text) : emptied text = [] ↔ text = [] := by
  cases text with
  | nil => simp [emptied_nil]
  | cons point rest => simp [emptied_cons]

theorem head?_emptied (text : Text) : (emptied text).head? = text.head? := by
  cases text with
  | nil => rfl
  | cons point rest => rw [emptied_cons]; rfl

theorem emptiedFrom_append (quoting : Quoting) (first second : Text) :
    emptiedFrom quoting (first ++ second) =
      emptiedFrom quoting first ++ emptiedFrom (quoting.after first) second := by
  induction first generalizing quoting with
  | nil => rfl
  | cons point rest ih =>
      have following : quoting.after (point :: rest) = (quoting.step point).after rest := rfl
      rw [List.cons_append, following]
      by_cases kept : quoting = .outside ∨ quoting.step point = .outside
      · rw [emptiedFrom_kept kept, emptiedFrom_kept kept, ih]
        rfl
      · rw [emptiedFrom_dropped kept, emptiedFrom_dropped kept, ih]

def IsQuoteFree (text : Text) : Prop :=
  ∀ point ∈ text, Quoting.quote? point = none

instance (text : Text) : Decidable (IsQuoteFree text) :=
  inferInstanceAs (Decidable (∀ point ∈ text, Quoting.quote? point = none))

theorem eq_emptied_of_quoteFree {text : Text} (free : IsQuoteFree (emptied text)) :
    emptied text = text := by
  induction text with
  | nil => rfl
  | cons point rest ih =>
      rw [emptied_cons] at free ⊢
      obtain ⟨plain, others⟩ := List.forall_mem_cons.mp free
      have stays : Quoting.outside.step point = .outside := by
        simp [Quoting.step, plain]
      rw [stays] at others ⊢
      rw [show emptiedFrom .outside rest = rest from ih others]

/-! ### Ends and white space -/

theorem emptiedFrom_cutEnd {drops : CodePoint → Bool}
    (keeps : ∀ point, (Quoting.quote? point).isSome = true → drops point = false)
    (quoting : Quoting) (text : Text) :
    emptiedFrom quoting (cutEnd drops text) = cutEnd drops (emptiedFrom quoting text) := by
  induction text generalizing quoting with
  | nil => rfl
  | cons point rest ih =>
      have following := ih (quoting.step point)
      by_cases kept : quoting = .outside ∨ quoting.step point = .outside
      · -- The code point can be cut only where nothing is left of what follows it.
        rw [emptiedFrom_kept kept, cutEnd_cons, cutEnd_cons]
        by_cases nothing : cutEnd drops rest = []
        · have nothing' : cutEnd drops (emptiedFrom (quoting.step point) rest) = [] := by
            rw [← following, nothing]
            rfl
          rw [if_pos nothing, if_pos nothing']
          split
          · rfl
          · exact emptiedFrom_kept kept
        · rw [if_neg nothing, emptiedFrom_kept kept, following]
          by_cases opens : (Quoting.quote? point).isSome = true
          · -- All of an unclosed segment may be cut, but not the quote before it.
            rw [keeps point opens]
            split
            · rename_i cut
              rw [cut]
              rfl
            · rfl
          · have closed : quoting.step point = .outside := by
              rcases kept with outside | closed
              · rw [outside, Quoting.step, Option.not_isSome_iff_eq_none.mp opens]
              · exact closed
            rw [closed] at following ⊢
            have something : cutEnd drops (emptiedFrom .outside rest) ≠ [] := by
              rw [← following]
              exact fun none => nothing ((emptied_eq_nil_iff _).mp none)
            rw [if_neg something]
      · rw [emptiedFrom_dropped kept, cutEnd_cons, ← following]
        by_cases nothing : cutEnd drops rest = []
        · rw [if_pos nothing, nothing]
          split
          · rfl
          · exact emptiedFrom_dropped kept
        · rw [if_neg nothing, emptiedFrom_dropped kept]

private theorem isBlank_of_quote {point : CodePoint}
    (quote : (Quoting.quote? point).isSome = true) :
    point.isBlank = false := by
  cases blank : point.isBlank with
  | false => rfl
  | true =>
      have inert := CodePoint.isInert_of_isBlank blank
      simp only [CodePoint.isInert, Bool.and_eq_true, Option.isNone_iff_eq_none] at inert
      rw [inert.1.1] at quote
      cases quote

theorem emptied_trimEnd (text : Text) : emptied (trimEnd text) = trimEnd (emptied text) :=
  emptiedFrom_cutEnd (fun _point quote => isBlank_of_quote quote) .outside text

theorem emptied_trimStart (text : Text) : emptied (trimStart text) = trimStart (emptied text) := by
  induction text with
  | nil => rfl
  | cons point rest ih =>
      cases blank : point.isBlank with
      | false =>
          rw [trimStart_cons_of_unblank blank, emptied_cons, trimStart_cons_of_unblank blank]
      | true =>
          rw [emptied_cons_inert (CodePoint.isInert_of_isBlank blank)]
          simpa [trimStart, blank] using ih

theorem emptied_trim (text : Text) : emptied (trim text) = trim (emptied text) := by
  rw [trim, emptied_trimEnd, emptied_trimStart, trim]

private theorem emptied_withoutEnding (text : Text) :
    emptied (withoutEnding text) = withoutEnding (emptied text) := by
  have semicolon : ∀ point, (Quoting.quote? point).isSome = true →
      (point == CodePoint.char ';') = false := by
    intro point quote
    cases same : point == CodePoint.char ';' with
    | false => rfl
    | true =>
        rw [eq_of_beq same] at quote
        cases quote
  have cut (text : Text) : emptied (cutEnd (· == .char ';') text) =
      cutEnd (· == .char ';') (emptied text) :=
    emptiedFrom_cutEnd semicolon .outside text
  rw [withoutEnding, emptied_trimEnd, cut, emptied_trimEnd, withoutEnding]

/-- Squeezing a text commutes with emptying it. -/
theorem emptiedFrom_squeezedFrom {quoting : Quoting} {afterBlank : Bool} (sound : quoting.IsSound)
    (settled : afterBlank = true → quoting.step (.char ' ') = quoting) (text : Text) :
    emptiedFrom quoting (squeezedFrom afterBlank text) =
      squeezedFrom (afterBlank && quoting = .outside) (emptiedFrom quoting text) := by
  induction text generalizing quoting afterBlank with
  | nil => rfl
  | cons point rest ih =>
      have following := sound.step point
      cases blank : point.isBlank with
      | false =>
          rw [squeezedFrom_cons_unblank blank]
          have later : emptiedFrom (quoting.step point) (squeezedFrom false rest) =
              squeezedFrom false (emptiedFrom (quoting.step point) rest) := ih following (by simp)
          by_cases kept : quoting = .outside ∨ quoting.step point = .outside
          · rw [emptiedFrom_kept kept, emptiedFrom_kept kept, squeezedFrom_cons_unblank blank, later]
          · have within : quoting ≠ .outside := fun outside => kept (Or.inl outside)
            rw [emptiedFrom_dropped kept, emptiedFrom_dropped kept, later]
            simp [within]
      | true =>
          obtain ⟨alike, settles⟩ := Quoting.step_blank blank sound
          have later : emptiedFrom (quoting.step point) (squeezedFrom true rest) =
              squeezedFrom (true && quoting.step point = .outside)
                (emptiedFrom (quoting.step point) rest) := ih following fun _passed => settles
          rw [squeezedFrom_cons_blank blank]
          -- White space within quotes is dropped, so none stands before what follows there.
          cases quoting with
          | outside =>
              have stays := Quoting.step_outside (CodePoint.isInert_of_isBlank blank)
              rw [stays] at alike later
              rw [emptiedFrom_kept (Or.inl rfl), squeezedFrom_cons_blank blank, stays]
              cases afterBlank with
              | true => exact later
              | false =>
                  rw [if_neg Bool.false_ne_true, emptiedFrom_kept (Or.inl rfl), ← alike, later]
                  rfl
          | inside quote escaped =>
              rw [Quoting.step_inside blank sound] at alike later
              have dropped : ¬(Quoting.inside quote escaped = .outside ∨
                  (Quoting.inside quote escaped).step point = .outside) := by
                rw [Quoting.step_inside blank sound]
                simp
              rw [emptiedFrom_dropped dropped, Quoting.step_inside blank sound]
              cases afterBlank with
              | true =>
                  rw [if_pos rfl, ← settled rfl, ← alike, later]
              | false =>
                  rw [if_neg Bool.false_ne_true, emptiedFrom_dropped (by rw [← alike]; simp),
                    ← alike, later]
                  rfl

end Text

namespace SelectOutline

theorem emptied_normalized (statement : Text) :
    (normalized statement).emptied = normalized statement.emptied := by
  have squeezed : (Text.squeezedFrom true statement).emptied =
      Text.squeezedFrom true statement.emptied :=
    Text.emptiedFrom_squeezedFrom Quoting.isSound_outside (fun _passed => rfl) statement
  rw [normalized_eq, Text.emptied_withoutEnding, squeezed, ← normalized_eq]

end SelectOutline
end PooledQuery
