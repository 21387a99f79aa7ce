/-
Balanced texts.

A text is balanced if a reader who starts at its beginning never meets a closing parenthesis
without an opening one and is back outside parentheses and quotes at its end.  A reader who
comes to a balanced text within parentheses is as deep after it as before, and never less deep
in between.  White space moves no reader, so squeezed texts are balanced as they were before.
-/
import PooledQuery.Outline.Nesting
import PooledQuery.Proofs.Text.Letters
import PooledQuery.Proofs.Text.Spacing

namespace PooledQuery

namespace CodePoint

/-- Code points other than parentheses and quotes. -/
def isInert (point : CodePoint) : Bool :=
  (Quoting.quote? point).isNone && point != .char '(' && point != .char ')'

theorem isInert_of_class {inClass : CodePoint → Bool}
    (outside : [Text.singleQuote, Text.doubleQuote, Text.backtick, '(', ')'].all
      (fun c => !inClass (char c)) = true) {point : CodePoint} (member : inClass point = true) :
    point.isInert = true := by
  have other : ∀ c ∈ [Text.singleQuote, Text.doubleQuote, Text.backtick, '(', ')'],
      point ≠ char c := by
    rintro c listed rfl
    have without := List.all_eq_true.mp outside c listed
    rw [member] at without
    cases without
  simp only [List.forall_mem_cons, List.not_mem_nil, false_imp_iff, implies_true, and_true] at other
  cases point with
  | surrogate offset => rfl
  | char c => simp_all [isInert, Quoting.quote?]

theorem isInert_of_isWord {point : CodePoint} (word : point.isWord = true) :
    point.isInert = true :=
  isInert_of_class (by decide) word

theorem isInert_of_isBlank {point : CodePoint} (blank : point.isBlank = true) :
    point.isInert = true :=
  isInert_of_class (by decide) blank

end CodePoint

namespace Nesting

@[simp] theorem after_nil (nesting : Nesting) : nesting.after [] = nesting := rfl

@[simp] theorem after_cons (nesting : Nesting) (point : CodePoint) (rest : Text) :
    nesting.after (point :: rest) = (nesting.step point).after rest := rfl

@[simp] theorem after_append (nesting : Nesting) (first second : Text) :
    nesting.after (first ++ second) = (nesting.after first).after second :=
  List.foldl_append

theorem step_inert {point : CodePoint} (inert : point.isInert = true) (depth : Nat) :
    (⟨depth, .outside⟩ : Nesting).step point = ⟨depth, .outside⟩ := by
  simp only [CodePoint.isInert, Bool.and_eq_true, Option.isNone_iff_eq_none, bne_iff_ne] at inert
  obtain ⟨⟨noQuote, notOpening⟩, notClosing⟩ := inert
  simp [step, notOpening, notClosing, Quoting.step, noQuote]

theorem after_inert {text : Text} (inert : ∀ point ∈ text, point.isInert = true) (depth : Nat) :
    (⟨depth, .outside⟩ : Nesting).after text = ⟨depth, .outside⟩ := by
  induction text with
  | nil => rfl
  | cons point rest ih =>
      obtain ⟨first, others⟩ := List.forall_mem_cons.mp inert
      rw [after_cons, step_inert first]
      exact ih others

theorem isTop_iff_of_inert {point : CodePoint} (inert : point.isInert = true)
    (nesting : Nesting) : nesting.isTop point = true ↔ nesting = .top := by
  simp only [CodePoint.isInert, Bool.and_eq_true, Option.isNone_iff_eq_none, bne_iff_ne] at inert
  obtain ⟨⟨noQuote, _notOpening⟩, notClosing⟩ := inert
  obtain ⟨depth, quoting⟩ := nesting
  cases quoting with
  | outside => simp [isTop, level, noQuote, notClosing, top]
  | inside quote escaped => simp [isTop, level, top]

/-! ### Balanced texts -/

/-- The same place with more parentheses around it. -/
def raised (floor : Nat) (nesting : Nesting) : Nesting :=
  ⟨nesting.depth + floor, nesting.quoting⟩

/-- Whether a reader meets no closing parenthesis without an opening one, and ends outside
parentheses and quotes. -/
def balancedFrom (nesting : Nesting) : Text → Bool
  | [] => nesting = .top
  | point :: rest =>
      !(nesting = .top && point = .char ')') && balancedFrom (nesting.step point) rest

theorem balancedFrom_cons_iff {nesting : Nesting} {point : CodePoint} {rest : Text} :
    nesting.balancedFrom (point :: rest) = true ↔
      ¬(nesting = .top ∧ point = .char ')') ∧ (nesting.step point).balancedFrom rest = true := by
  simp only [balancedFrom, Bool.and_eq_true, Bool.not_eq_true', Bool.and_eq_false_iff,
    decide_eq_false_iff_not, not_and_or]

theorem step_raised {nesting : Nesting} {point : CodePoint}
    (opened : ¬(nesting = .top ∧ point = .char ')')) (floor : Nat) :
    (nesting.raised floor).step point = (nesting.step point).raised floor := by
  obtain ⟨depth, quoting⟩ := nesting
  cases quoting with
  | inside quote escaped => rfl
  | outside =>
      by_cases opening : point = .char '('
      · simp [step, raised, opening]
        omega
      · by_cases closing : point = .char ')'
        · have deep : depth ≠ 0 := by
            rintro rfl
            exact opened ⟨rfl, closing⟩
          simp [step, raised, closing]
          omega
        · simp [step, raised, opening, closing]

theorem after_raised {nesting : Nesting} {text : Text}
    (balanced : nesting.balancedFrom text = true) (floor : Nat) :
    (nesting.raised floor).after text = raised floor .top := by
  induction text generalizing nesting with
  | nil =>
      have atTop : nesting = .top := by simpa [balancedFrom] using balanced
      rw [atTop]
      rfl
  | cons point rest ih =>
      obtain ⟨opened, others⟩ := balancedFrom_cons_iff.mp balanced
      rw [after_cons, step_raised opened]
      exact ih others

theorem isTop_raised {nesting : Nesting} {point : CodePoint}
    (opened : ¬(nesting = .top ∧ point = .char ')')) {floor : Nat} (within : 0 < floor) :
    (nesting.raised floor).isTop point = false := by
  obtain ⟨depth, quoting⟩ := nesting
  cases quoting with
  | inside quote escaped => rfl
  | outside =>
      by_cases quoted : (Quoting.quote? point).isSome = true
      · simp [isTop, level, raised, quoted]
      · by_cases closing : point = .char ')'
        · have deep : depth ≠ 0 := by
            rintro rfl
            exact opened ⟨rfl, closing⟩
          simp [isTop, level, raised, closing]
          omega
        · simp [isTop, level, raised, quoted, closing]
          omega

theorem balancedFrom_raised_append {nesting : Nesting} {first second : Text} {floor : Nat}
    (former : nesting.balancedFrom first = true)
    (latter : (top.raised floor).balancedFrom second = true) :
    (nesting.raised floor).balancedFrom (first ++ second) = true := by
  induction first generalizing nesting with
  | nil =>
      have atTop : nesting = .top := by simpa [balancedFrom] using former
      rwa [atTop]
  | cons point rest ih =>
      obtain ⟨opened, others⟩ := balancedFrom_cons_iff.mp former
      refine balancedFrom_cons_iff.mpr ⟨?_, ?_⟩
      · rintro ⟨atTop, closing⟩
        refine opened ⟨?_, closing⟩
        obtain ⟨depth, quoting⟩ := nesting
        simp_all [raised, top]
      · rw [step_raised opened]
        exact ih others

theorem balancedFrom_of_inert {text : Text} (inert : ∀ point ∈ text, point.isInert = true) :
    top.balancedFrom text = true := by
  induction text with
  | nil => rfl
  | cons point rest ih =>
      obtain ⟨first, others⟩ := List.forall_mem_cons.mp inert
      have stays : top.step point = .top := step_inert first 0
      have open_point : point ≠ .char ')' := by
        rintro rfl
        cases first
      refine balancedFrom_cons_iff.mpr ⟨fun closing => open_point closing.2, ?_⟩
      rw [stays]
      exact ih others

end Nesting

namespace Text

def IsBalanced (text : Text) : Prop :=
  Nesting.top.balancedFrom text = true

instance (text : Text) : Decidable (IsBalanced text) :=
  inferInstanceAs (Decidable (_ = true))

variable {text first second : Text}

theorem IsBalanced.append (former : IsBalanced first) (latter : IsBalanced second) :
    IsBalanced (first ++ second) := by
  change (Nesting.top.raised 0).balancedFrom (first ++ second) = true
  exact Nesting.balancedFrom_raised_append former latter

def enclosed (text : Text) : Text :=
  .char '(' :: text ++ [.char ')']

theorem IsBalanced.enclosed (balanced : IsBalanced text) : IsBalanced text.enclosed := by
  refine Nesting.balancedFrom_cons_iff.mpr ⟨by decide, ?_⟩
  change (Nesting.top.raised 1).balancedFrom (text ++ [.char ')']) = true
  exact Nesting.balancedFrom_raised_append balanced rfl

private theorem IsBalanced.after_eq (balanced : IsBalanced text) (depth : Nat) :
    (⟨depth, .outside⟩ : Nesting).after text = ⟨depth, .outside⟩ := by
  have reached := Nesting.after_raised balanced depth
  simpa [Nesting.raised, Nesting.top] using reached

theorem IsBalanced.after_top (balanced : IsBalanced text) : Nesting.top.after text = .top :=
  balanced.after_eq 0

theorem IsBlank.isBalanced (blank : IsBlank text) : IsBalanced text :=
  Nesting.balancedFrom_of_inert fun point member => CodePoint.isInert_of_isBlank (blank point member)

theorem isBalanced_of_isWord (word : ∀ point ∈ text, point.isWord = true) : IsBalanced text :=
  Nesting.balancedFrom_of_inert fun point member => CodePoint.isInert_of_isWord (word point member)

end Text

/-! ### Squeezed texts -/

namespace Quoting

/-- A place whose quote, if there is one, can open a quoted segment. -/
def IsSound (quoting : Quoting) : Prop :=
  ∀ quote escaped, quoting = .inside quote escaped → quote? (.char quote) = some quote

theorem isSound_outside : outside.IsSound := by
  intro quote escaped within
  cases within

private theorem quote?_idem {point : CodePoint} {quote : Char} (opens : quote? point = some quote) :
    quote? (.char quote) = some quote := by
  cases point with
  | surrogate offset => cases opens
  | char c =>
      have same : c = quote := by
        simp only [quote?] at opens
        split at opens
        · exact Option.some.inj opens
        · cases opens
      rwa [same] at opens

theorem IsSound.step {quoting : Quoting} (sound : quoting.IsSound) (point : CodePoint) :
    (quoting.step point).IsSound := by
  intro quote escaped within
  cases quoting with
  | outside =>
      simp only [Quoting.step] at within
      split at within
      · rename_i opens
        cases within
        exact quote?_idem opens
      · cases within
  | inside opened openedEscape =>
      have real := sound opened openedEscape rfl
      cases openedEscape with
      | true =>
          cases within
          exact real
      | false =>
          simp only [Quoting.step] at within
          split at within
          · cases within
            exact real
          · split at within <;> cases within
            exact real

private theorem quote?_of_closing {quoting : Quoting} {point : CodePoint} (sound : quoting.IsSound)
    (within : quoting ≠ .outside) (closes : quoting.step point = .outside) :
    (quote? point).isSome = true := by
  cases quoting with
  | outside => exact absurd rfl within
  | inside quote escaped =>
      cases escaped with
      | true => cases closes
      | false =>
          simp only [Quoting.step] at closes
          split at closes
          · cases closes
          · split at closes
            · rename_i same
              rw [same, sound quote false rfl]
              rfl
            · cases closes

theorem step_outside {point : CodePoint} (inert : point.isInert = true) :
    outside.step point = outside := by
  simp only [CodePoint.isInert, Bool.and_eq_true, Option.isNone_iff_eq_none] at inert
  simp [Quoting.step, inert.1.1]

theorem step_inside {point : CodePoint} (blank : point.isBlank = true) {quote : Char}
    {escaped : Bool} (sound : (inside quote escaped).IsSound) :
    (inside quote escaped).step point = inside quote false := by
  have inert := CodePoint.isInert_of_isBlank blank
  have other : point ≠ .char quote := by
    rintro rfl
    simp [CodePoint.isInert, sound quote escaped rfl] at inert
  have plain : point ≠ .char '\\' := by
    rintro rfl
    cases blank
  cases escaped with
  | true => rfl
  | false => simp [Quoting.step, plain, other]

theorem step_blank {point : CodePoint} (blank : point.isBlank = true) {quoting : Quoting}
    (sound : quoting.IsSound) :
    quoting.step point = quoting.step (.char ' ') ∧
      (quoting.step point).step (.char ' ') = quoting.step point := by
  have space : (CodePoint.char ' ').isBlank = true := by decide
  cases quoting with
  | outside =>
      rw [step_outside (CodePoint.isInert_of_isBlank blank),
        step_outside (CodePoint.isInert_of_isBlank space)]
      exact ⟨rfl, rfl⟩
  | inside quote escaped =>
      have following := sound.step point
      rw [step_inside blank sound] at following ⊢
      rw [step_inside space sound, step_inside space following]
      exact ⟨rfl, rfl⟩

end Quoting

namespace Nesting

/-- Parentheses are no quotes, so a reader of quotes alone keeps up. -/
theorem quoting_step (nesting : Nesting) (point : CodePoint) :
    (nesting.step point).quoting = nesting.quoting.step point := by
  obtain ⟨depth, quoting⟩ := nesting
  cases quoting with
  | inside quote escaped => rfl
  | outside =>
      by_cases opening : point = .char '('
      · subst opening
        rfl
      · by_cases closing : point = .char ')'
        · subst closing
          rfl
        · simp [step, opening, closing]

theorem isSound_step {nesting : Nesting} (sound : nesting.quoting.IsSound) (point : CodePoint) :
    (nesting.step point).quoting.IsSound := by
  rw [quoting_step]
  exact sound.step point

theorem eq_top_of_after {nesting : Nesting} {text : Text}
    (inert : ∀ point ∈ text, point.isInert = true) (sound : nesting.quoting.IsSound)
    (reaches : nesting.after text = .top) : nesting = .top := by
  induction text generalizing nesting with
  | nil => exact reaches
  | cons point rest ih =>
      obtain ⟨first, others⟩ := List.forall_mem_cons.mp inert
      have following := isSound_step sound point
      have top := ih others following reaches
      by_cases outside : nesting.quoting = .outside
      · obtain ⟨depth, quoting⟩ := nesting
        subst outside
        rwa [step_inert first] at top
      · have closes : nesting.quoting.step point = .outside := by
          rw [← quoting_step, top]
          rfl
        have quote := Quoting.quote?_of_closing sound outside closes
        simp only [CodePoint.isInert, Bool.and_eq_true, Option.isNone_iff_eq_none] at first
        rw [first.1.1] at quote
        cases quote

theorem balancedFrom_of_append {nesting : Nesting} {first second : Text}
    (inert : ∀ point ∈ second, point.isInert = true) (sound : nesting.quoting.IsSound)
    (balanced : nesting.balancedFrom (first ++ second) = true) :
    nesting.balancedFrom first = true := by
  induction first generalizing nesting with
  | nil =>
      have reaches := after_raised balanced 0
      have top := eq_top_of_after inert sound reaches
      simpa [balancedFrom] using top
  | cons point rest ih =>
      obtain ⟨opened, others⟩ := balancedFrom_cons_iff.mp balanced
      have following := isSound_step sound point
      exact balancedFrom_cons_iff.mpr ⟨opened, ih following others⟩

theorem balancedFrom_of_inert_append {first second : Text}
    (inert : ∀ point ∈ first, point.isInert = true)
    (balanced : top.balancedFrom (first ++ second) = true) :
    top.balancedFrom second = true := by
  induction first with
  | nil => exact balanced
  | cons point rest ih =>
      obtain ⟨plain, others⟩ := List.forall_mem_cons.mp inert
      have later := (balancedFrom_cons_iff.mp balanced).2
      rw [show top.step point = top from step_inert plain 0] at later
      exact ih others later

theorem balancedFrom_after {nesting : Nesting} {first second : Text}
    (balanced : nesting.balancedFrom (first ++ second) = true) :
    (nesting.after first).balancedFrom second = true := by
  induction first generalizing nesting with
  | nil => exact balanced
  | cons point rest ih => exact ih (balancedFrom_cons_iff.mp balanced).2

theorem step_of_blank {point : CodePoint} (blank : point.isBlank = true) (nesting : Nesting) :
    nesting.step point = ⟨nesting.depth, nesting.quoting.step point⟩ := by
  obtain ⟨depth, quoting⟩ := nesting
  cases quoting with
  | inside quote escaped => rfl
  | outside =>
      have inert := CodePoint.isInert_of_isBlank blank
      rw [step_inert inert, Quoting.step_outside inert]

theorem step_blank {point : CodePoint} (blank : point.isBlank = true) {nesting : Nesting}
    (sound : nesting.quoting.IsSound) :
    nesting.step point = nesting.step (.char ' ') ∧
      (nesting.step point).step (.char ' ') = nesting.step point := by
  have space : (CodePoint.char ' ').isBlank = true := by decide
  obtain ⟨alike, settles⟩ := Quoting.step_blank blank sound
  rw [step_of_blank blank, step_of_blank space, step_of_blank space, ← alike, settles]
  exact ⟨rfl, rfl⟩

/-- Where a reader stands who has just read white space. -/
def IsSettled (nesting : Nesting) : Prop :=
  nesting.step (.char ' ') = nesting

private theorem balancedFrom_squeezedFrom {nesting : Nesting} {afterBlank : Bool} {text : Text}
    (sound : nesting.quoting.IsSound) (settled : afterBlank = true → nesting.IsSettled)
    (balanced : nesting.balancedFrom text = true) :
    nesting.balancedFrom (Text.squeezedFrom afterBlank text) = true := by
  induction text generalizing nesting afterBlank with
  | nil => exact balanced
  | cons point rest ih =>
      obtain ⟨opened, others⟩ := balancedFrom_cons_iff.mp balanced
      have following := isSound_step sound point
      cases blank : point.isBlank with
      | false =>
          rw [Text.squeezedFrom_cons_unblank blank]
          exact balancedFrom_cons_iff.mpr ⟨opened, ih following (by simp) others⟩
      | true =>
          obtain ⟨alike, settles⟩ := step_blank blank sound
          have rested : (nesting.step point).balancedFrom (Text.squeezedFrom true rest) = true :=
            ih following (fun _passed => settles) others
          rw [Text.squeezedFrom_cons_blank blank]
          cases afterBlank with
          | false =>
              rw [if_neg Bool.false_ne_true, balancedFrom_cons_iff, ← alike]
              exact ⟨by simp, rested⟩
          | true =>
              have still : nesting.step point = nesting := alike.trans (settled rfl)
              rwa [if_pos rfl, ← still]

end Nesting

theorem Text.IsBalanced.squeezedFrom {text : Text} (balanced : text.IsBalanced)
    (afterBlank : Bool) : Text.IsBalanced (Text.squeezedFrom afterBlank text) :=
  Nesting.balancedFrom_squeezedFrom Quoting.isSound_outside (fun _passed => rfl) balanced

theorem Text.IsBalanced.trim {text : Text} (balanced : text.IsBalanced) :
    Text.IsBalanced (Text.trim text) := by
  obtain ⟨before, after, blankBefore, blankAfter, whole, _flush⟩ := Text.exists_trim text
  have inert {margin : Text} (blank : margin.IsBlank) : ∀ point ∈ margin, point.isInert = true :=
    fun point member => CodePoint.isInert_of_isBlank (blank point member)
  unfold IsBalanced at balanced
  rw [whole, List.append_assoc] at balanced
  exact Nesting.balancedFrom_of_append (inert blankAfter) Quoting.isSound_outside
    (Nesting.balancedFrom_of_inert_append (inert blankBefore) balanced)

end PooledQuery
