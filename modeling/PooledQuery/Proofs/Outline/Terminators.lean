/-
Terminators of statements.

What follows a statement may be any white space and semicolons.  On one line such an ending loses
its last run of semicolons and the white space around it, but the runs before stay, with single
spaces between them.  So an outline is the same behind one run of semicolons as behind none, and
every further run becomes part of the statement.
-/
import Mathlib.Data.List.DropRight
import PooledQuery.Proofs.Outline.Writing
import PooledQuery.Proofs.Text.Words

namespace PooledQuery

def CodePoint.isTerminator (point : CodePoint) : Bool :=
  point.isBlank || point == .char ';'

namespace Text

def IsTerminating (text : Text) : Prop :=
  ∀ point ∈ text, point.isTerminator = true

instance (text : Text) : Decidable (IsTerminating text) :=
  inferInstanceAs (Decidable (∀ point ∈ text, point.isTerminator = true))

/-- The longest end of a text that consists of white space and semicolons. -/
def ending (text : Text) : Text :=
  text.rtakeWhile CodePoint.isTerminator

/-- How many runs of semicolons, with white space between them, a text ends with. -/
def terminators (text : Text) : Nat :=
  (words (ending text)).length

section Ending

variable {text following : Text}

private theorem isTerminating_ending (text : Text) : IsTerminating (ending text) :=
  fun _point member => List.mem_rtakeWhile_imp member

private theorem cutEnd_append_ending (text : Text) :
    cutEnd CodePoint.isTerminator text ++ ending text = text :=
  List.rdropWhile_append_rtakeWhile

theorem ending_append (terminating : IsTerminating following) :
    ending (text ++ following) = ending text ++ following := by
  have reversed : ∀ point ∈ following.reverse, point.isTerminator = true :=
    fun point member => terminating point (List.mem_reverse.mp member)
  rw [ending, List.rtakeWhile, List.reverse_append, List.takeWhile_append_of_pos reversed,
    List.reverse_append, List.reverse_reverse]
  rfl

private theorem cutEnd_append_of_isTerminating (terminating : IsTerminating following) :
    cutEnd CodePoint.isTerminator (text ++ following) = cutEnd CodePoint.isTerminator text := by
  rw [cutEnd_append, if_pos (cutEnd_eq_nil terminating)]

private theorem eq_of_mem_word (terminating : IsTerminating text) {word : Text}
    (listed : word ∈ words text) :
    ∀ point ∈ word, (point == CodePoint.char ';') = true := by
  intro point within
  have unblank := (of_mem_words listed).2 point within
  have terminator := terminating point (mem_of_mem_words listed within)
  simpa [CodePoint.isTerminator, unblank] using terminator

end Ending

/-! ### Endings on one line -/

variable {text : Text}

private theorem squeezedFrom_false (text : Text) :
    squeezedFrom false text =
      (if text.head?.any CodePoint.isBlank then [.char ' '] else []) ++ squeezedFrom true text := by
  cases text with
  | nil => rfl
  | cons point rest =>
      cases blank : point.isBlank with
      | true => simp [squeezedFrom_cons_blank blank, blank]
      | false => simp [squeezedFrom_cons_unblank blank, blank]

def keptRuns (text : Text) : List Text :=
  (words text).dropLast

theorem of_mem_keptRuns (text : Text) : ∀ run ∈ keptRuns text, run ≠ [] ∧ IsUnbroken run :=
  fun _run member => of_mem_words (List.dropLast_subset _ member)

private theorem withoutEnding_squeezedFrom_true (terminating : IsTerminating text) :
    withoutEnding (squeezedFrom true text) = joined [.char ' '] (keptRuns text) := by
  have line : trimEnd (squeezedFrom true text) = joined [.char ' '] (words text) :=
    (singleSpaced_eq text).symm
  have flush := isFlush_joined (of_mem_keptRuns text)
  unfold keptRuns at flush ⊢
  rw [withoutEnding, line]
  rcases List.eq_nil_or_concat (words text) with nothing | ⟨runs, last, split⟩
  · rw [nothing]
    rfl
  · rw [List.concat_eq_append] at split
    have cut : cutEnd (· == CodePoint.char ';') last = [] :=
      cutEnd_eq_nil (eq_of_mem_word terminating (by simp [split]))
    rw [split, List.dropLast_concat] at flush ⊢
    by_cases single : runs = []
    · subst single
      have alone : joined [.char ' '] ([] ++ [last]) = last := by simp [joined]
      rw [alone, cut]
      rfl
    · have kept := @cutEnd_append_kept (· == .char ';') (.char ' ') (by decide)
        (joined [.char ' '] runs) last
      rw [joined_concat single, List.singleton_append, kept, cut]
      exact flush.trimEnd_append (by decide)

private theorem withoutEnding_append_of_blank {margin : Text} (blank : IsBlank margin)
    (nothing : withoutEnding text = []) : withoutEnding (margin ++ text) = [] := by
  have trimmed {part : Text} (within : part <+: margin) : trimEnd part = [] :=
    cutEnd_eq_nil fun point member => blank point (within.subset member)
  unfold withoutEnding at nothing ⊢
  rw [trimEnd_eq_cutEnd (margin ++ text), cutEnd_append, ← trimEnd_eq_cutEnd, ← trimEnd_eq_cutEnd]
  split
  · rw [trimmed List.prefix_rfl]
    rfl
  · rw [cutEnd_append]
    split
    · exact trimmed (cutEnd_isPrefix margin)
    · rw [trimEnd_eq_cutEnd, cutEnd_append, ← trimEnd_eq_cutEnd, if_pos nothing]
      exact trimmed List.prefix_rfl

def endingLine (afterBlank : Bool) (text : Text) : Text :=
  withoutEnding (squeezedFrom afterBlank text)

theorem endingLine_eq (terminating : IsTerminating text) (afterBlank : Bool) :
    endingLine afterBlank text =
      if keptRuns text = [] then []
      else (if !afterBlank && text.head?.any CodePoint.isBlank then [.char ' '] else []) ++
        joined [.char ' '] (keptRuns text) := by
  have line := withoutEnding_squeezedFrom_true terminating
  have visible : joined [.char ' '] (keptRuns text) = [] ↔ keptRuns text = [] := by
    constructor
    · intro nothing
      have runs := words_joined (of_mem_keptRuns text)
      rw [nothing] at runs
      exact runs.symm
    · intro nothing
      rw [nothing]
      rfl
  unfold endingLine
  cases afterBlank with
  | true =>
      rw [line]
      by_cases nothing : keptRuns text = []
      · rw [if_pos nothing, nothing]
        rfl
      · rw [if_neg nothing]
        rfl
  | false =>
      rw [squeezedFrom_false]
      by_cases nothing : keptRuns text = []
      · rw [if_pos nothing]
        apply withoutEnding_append_of_blank
        · split <;> decide
        · rw [line, visible.mpr nothing]
      · have kept : withoutEnding (squeezedFrom true text) ≠ [] := by
          rw [line]
          exact fun none => nothing (visible.mp none)
        rw [if_neg nothing, withoutEnding_append_of_ne_nil kept, line]
        rfl

theorem words_endingLine (terminating : IsTerminating text) (afterBlank : Bool) :
    words (endingLine afterBlank text) = keptRuns text := by
  have runs := words_joined (of_mem_keptRuns text)
  rw [endingLine_eq terminating]
  split
  · rename_i nothing
    rw [nothing]
    rfl
  · rw [words_append_of_blank (by split <;> decide), runs]

variable {following : Text}

/-- The runs that stay are the same exactly when there is no further run, or only a first one. -/
theorem keptRuns_append_iff :
    keptRuns (text ++ following) = keptRuns text ↔
      (words (text ++ following)).length ≤ max 1 (words text).length := by
  have longer := length_words_le text following
  have length (text : Text) : (keptRuns text).length = (words text).length - 1 :=
    List.length_dropLast
  constructor
  · intro same
    have lengths := congrArg List.length same
    rw [length, length] at lengths
    omega
  · intro few
    have front : keptRuns text <+: keptRuns (text ++ following) := by
      apply List.prefix_of_prefix_length_le (dropLast_words_isPrefix text following)
        (List.dropLast_prefix _)
      change (keptRuns text).length ≤ (keptRuns (text ++ following)).length
      rw [length, length]
      omega
    apply (front.eq_of_length _).symm
    rw [length, length]
    omega

private theorem endingLine_append_iff (terminating : IsTerminating text)
    (terminating' : IsTerminating following) (afterBlank : Bool) :
    endingLine afterBlank (text ++ following) = endingLine afterBlank text ↔
      (words (text ++ following)).length ≤ max 1 (words text).length := by
  have all : IsTerminating (text ++ following) :=
    List.forall_mem_append.mpr ⟨terminating, terminating'⟩
  rw [← keptRuns_append_iff]
  constructor
  · intro same
    rw [← words_endingLine all afterBlank, same, words_endingLine terminating]
  · intro same
    rw [endingLine_eq all, endingLine_eq terminating, same]
    cases text with
    | nil => rfl
    | cons point rest => rfl

end Text

namespace SelectOutline

theorem normalized_eq_ending (statement : Text) :
    normalized statement =
      Text.squeezedFrom true (Text.cutEnd CodePoint.isTerminator statement) ++
        Text.endingLine (Text.cutEnd CodePoint.isTerminator statement).isEmpty
          (Text.ending statement) := by
  have ends : ∀ point ∈ (Text.cutEnd CodePoint.isTerminator statement).getLast?,
      point.isTerminator = false := by
    obtain ⟨_after, _terminating, _whole, ends⟩ :=
      @Text.exists_cutEnd CodePoint.isTerminator statement
    exact ends
  have whole := Text.cutEnd_append_ending statement
  generalize Text.cutEnd CodePoint.isTerminator statement = core at ends whole ⊢
  generalize Text.ending statement = ending at whole ⊢
  subst whole
  rw [normalized_eq]
  rcases List.eq_nil_or_concat core with rfl | ⟨front, last, rfl⟩
  · rfl
  · rw [List.concat_eq_append] at ends ⊢
    have kept := ends last List.getLast?_concat
    simp only [CodePoint.isTerminator, Bool.or_eq_false_iff, beq_eq_false_iff_ne] at kept
    obtain ⟨unblank, other⟩ := kept
    have visible : (front ++ [last]).isEmpty = false := by cases front <;> rfl
    rw [visible, List.append_assoc, List.singleton_append, Text.squeezedFrom_append,
      Text.squeezedFrom_cons_unblank unblank, Text.withoutEnding_append_kept unblank other,
      Text.squeezedFrom_append, Text.squeezedFrom_cons_unblank unblank]
    simp [Text.endingLine]

private theorem normalized_append_iff {statement ending : Text}
    (terminating : ending.IsTerminating) :
    normalized (statement ++ ending) = normalized statement ↔
      (statement ++ ending).terminators ≤ max 1 statement.terminators := by
  rw [normalized_eq_ending, normalized_eq_ending statement,
    Text.cutEnd_append_of_isTerminating terminating, List.append_cancel_left_eq,
    Text.ending_append terminating, Text.endingLine_append_iff (Text.isTerminating_ending _)
      terminating, Text.terminators, Text.terminators, Text.ending_append terminating]

/-- White space and semicolons behind a statement leave the outline as it is, unless they add a
run of semicolons that another one follows.  Such a run stays on the line from which the outline
is read. -/
theorem ofStatement_terminated {statement ending : Text} (terminating : ending.IsTerminating) :
    ((statement ++ ending).terminators ≤ max 1 statement.terminators →
        ofStatement (statement ++ ending) = ofStatement statement) ∧
      (normalized (statement ++ ending) = normalized statement ↔
        (statement ++ ending).terminators ≤ max 1 statement.terminators) := by
  have line := @normalized_append_iff statement ending terminating
  refine ⟨?_, line⟩
  intro few
  unfold ofStatement
  rw [line.mpr few]

/-- Semicolons that go on with a run are no further run. -/
theorem ofStatement_terminated_twice :
    ofStatement "SELECT id FROM t; ;;\n" = ofStatement "SELECT id FROM t; ;" := by
  have whole : Text.ofString "SELECT id FROM t; ;" ++ ";\n" = "SELECT id FROM t; ;;\n" := by
    decide +kernel
  have few : Text.terminators (Text.ofString "SELECT id FROM t; ;" ++ ";\n") ≤
      max 1 (Text.terminators "SELECT id FROM t; ;") := by decide +kernel
  have terminating : Text.IsTerminating ";\n" := by decide +kernel
  have same := (ofStatement_terminated terminating).1 few
  rwa [whole] at same

/-- Two runs of semicolons leave one of them at the table, or at the last column. -/
theorem ofStatement_of_separated_terminators :
    Text.IsTerminating "; ;" ∧
      ofStatement "SELECT id FROM t" = ⟨["id"], "t"⟩ ∧
      ofStatement (Text.ofString "SELECT id FROM t" ++ "; ;") = ⟨["id"], "t;"⟩ ∧
      ofStatement "SELECT 1" = ⟨["1"], ""⟩ ∧
      ofStatement (Text.ofString "SELECT 1" ++ "; ;") = ⟨["1;"], ""⟩ := by
  decide +kernel

end SelectOutline
end PooledQuery
