/-
White space in texts.

A text with single spaces is its squeezed form, in which every run of white space has become
one space, without the space at its end.  Squeezing passes over a concatenation part by part,
and what is cut from the end of a text leaves everything before the last kept code point.
-/
import Mathlib.Data.List.TakeWhile
import PooledQuery.Text.Words

namespace PooledQuery

namespace Text

/-- A text of white space only, which may be empty. -/
def IsBlank (text : Text) : Prop :=
  ∀ point ∈ text, point.isBlank = true

instance (text : Text) : Decidable (IsBlank text) :=
  inferInstanceAs (Decidable (∀ point ∈ text, point.isBlank = true))

def IsUnbroken (text : Text) : Prop :=
  ∀ point ∈ text, point.isBlank = false

instance (text : Text) : Decidable (IsUnbroken text) :=
  inferInstanceAs (Decidable (∀ point ∈ text, point.isBlank = false))

section Parts

variable {text first second : Text}

theorem IsBlank.append (former : IsBlank first) (latter : IsBlank second) :
    IsBlank (first ++ second) := by
  intro point member
  rcases List.mem_append.mp member with earlier | later
  · exact former point earlier
  · exact latter point later

theorem IsUnbroken.append (former : IsUnbroken first) (latter : IsUnbroken second) :
    IsUnbroken (first ++ second) := by
  intro point member
  rcases List.mem_append.mp member with earlier | later
  · exact former point earlier
  · exact latter point later

theorem IsBlank.of_cons {point : CodePoint} (blank : IsBlank (point :: text)) :
    point.isBlank = true ∧ IsBlank text :=
  List.forall_mem_cons.mp blank

theorem IsUnbroken.of_cons {point : CodePoint} (unbroken : IsUnbroken (point :: text)) :
    point.isBlank = false ∧ IsUnbroken text :=
  List.forall_mem_cons.mp unbroken

end Parts

/-! ### Both ends -/

theorem trimStart_append_of_blank {margin : Text} (blank : IsBlank margin) (text : Text) :
    trimStart (margin ++ text) = trimStart text := by
  induction margin with
  | nil => rfl
  | cons point rest ih =>
      obtain ⟨isBlank, others⟩ := blank.of_cons
      simp only [trimStart, List.cons_append, List.dropWhile_cons, isBlank, if_true]
      exact ih others

theorem trimStart_cons_of_unblank {point : CodePoint} (unblank : point.isBlank = false)
    (rest : Text) : trimStart (point :: rest) = point :: rest := by
  simp [trimStart, unblank]

theorem trimStart_of_blank {margin : Text} (blank : IsBlank margin) : trimStart margin = [] := by
  have trimmed := trimStart_append_of_blank blank []
  rwa [List.append_nil] at trimmed

theorem trimStart_append_of_not_blank {text : Text} (visible : ¬text.IsBlank) (following : Text) :
    trimStart (text ++ following) = trimStart text ++ following := by
  have something : (text.dropWhile CodePoint.isBlank).isEmpty = false := by
    cases nothing : (text.dropWhile CodePoint.isBlank).isEmpty with
    | false => rfl
    | true =>
        rw [List.isEmpty_iff, List.dropWhile_eq_nil_iff] at nothing
        exact absurd nothing visible
  rw [trimStart, List.dropWhile_append, something, if_neg Bool.false_ne_true]
  rfl

theorem exists_trimStart (text : Text) : ∃ margin, IsBlank margin ∧ text = margin ++ trimStart text :=
  ⟨text.takeWhile CodePoint.isBlank, fun _point member => List.mem_takeWhile_imp member,
    List.takeWhile_append_dropWhile.symm⟩

/-- The text without the longest end that consists of dropped code points. -/
def cutEnd (drops : CodePoint → Bool) (text : Text) : Text :=
  (text.reverse.dropWhile drops).reverse

variable {drops : CodePoint → Bool}

theorem trimEnd_eq_cutEnd (text : Text) : trimEnd text = cutEnd CodePoint.isBlank text := rfl

@[simp] theorem cutEnd_nil : cutEnd drops [] = [] := rfl

theorem cutEnd_append (first second : Text) :
    cutEnd drops (first ++ second) =
      if cutEnd drops second = [] then cutEnd drops first else first ++ cutEnd drops second := by
  unfold cutEnd
  rw [List.reverse_append, List.dropWhile_append]
  by_cases nothing : second.reverse.dropWhile drops = []
  · simp [nothing]
  · simp [nothing]

theorem cutEnd_cons (point : CodePoint) (rest : Text) :
    cutEnd drops (point :: rest) =
      if cutEnd drops rest = [] then if drops point then [] else [point]
      else point :: cutEnd drops rest := by
  have whole : cutEnd drops ([point] ++ rest) = _ := cutEnd_append [point] rest
  cases dropped : drops point with
  | true => simpa [cutEnd, dropped] using whole
  | false => simpa [cutEnd, dropped] using whole

theorem cutEnd_cons_of_kept {point : CodePoint} (kept : drops point = false) (rest : Text) :
    cutEnd drops (point :: rest) = point :: cutEnd drops rest := by
  rw [cutEnd_cons]
  by_cases nothing : cutEnd drops rest = []
  · simp [nothing, kept]
  · simp [nothing]

theorem cutEnd_eq_nil {text : Text} (all : ∀ point ∈ text, drops point = true) :
    cutEnd drops text = [] := by
  induction text with
  | nil => rfl
  | cons point rest ih =>
      obtain ⟨dropped, others⟩ := List.forall_mem_cons.mp all
      simp [cutEnd_cons, ih others, dropped]

theorem cutEnd_append_kept {point : CodePoint} (kept : drops point = false)
    (first second : Text) :
    cutEnd drops (first ++ point :: second) = first ++ point :: cutEnd drops second := by
  rw [cutEnd_append, cutEnd_cons_of_kept kept]
  simp

theorem cutEnd_isPrefix (text : Text) : cutEnd drops text <+: text := by
  induction text with
  | nil => exact List.prefix_rfl
  | cons point rest ih =>
      rw [cutEnd_cons]
      by_cases nothing : cutEnd drops rest = []
      · by_cases dropped : drops point = true
        · simp [nothing, dropped]
        · simp [nothing, dropped]
      · simpa [nothing] using ih

/-- A text that neither begins nor ends with white space. -/
structure IsFlush (text : Text) : Prop where
  starts : ∀ point ∈ text.head?, point.isBlank = false
  ends : ∀ point ∈ text.getLast?, point.isBlank = false

theorem IsFlush.trimStart_append {core : Text} (flush : IsFlush core) (nonempty : core ≠ [])
    (after : Text) : trimStart (core ++ after) = core ++ after := by
  obtain ⟨point, rest, rfl⟩ := List.exists_cons_of_ne_nil nonempty
  exact trimStart_cons_of_unblank (flush.starts point rfl) _

theorem IsFlush.trimEnd_append {core after : Text} (flush : IsFlush core)
    (blank : IsBlank after) : trimEnd (core ++ after) = core := by
  rw [trimEnd_eq_cutEnd, cutEnd_append, if_pos (cutEnd_eq_nil blank)]
  rcases List.eq_nil_or_concat core with rfl | ⟨front, last, rfl⟩
  · rfl
  · have unblank : last.isBlank = false := flush.ends last (by simp)
    simpa using cutEnd_append_kept unblank front []

theorem IsFlush.trim_between {before core after : Text} (flush : IsFlush core)
    (blankBefore : IsBlank before) (blankAfter : IsBlank after) :
    trim (before ++ core ++ after) = core := by
  unfold trim
  rw [List.append_assoc, trimStart_append_of_blank blankBefore]
  by_cases nothing : core = []
  · subst nothing
    rw [List.nil_append, trimStart_of_blank blankAfter]
    rfl
  · rw [flush.trimStart_append nothing, flush.trimEnd_append blankAfter]

theorem IsFlush.trim_append {core : Text} (flush : core.IsFlush) (nonempty : core ≠ [])
    (tail : Text) : trim (core ++ tail) = core ++ trimEnd tail := by
  have kept : trimEnd core = core := by
    have alone := flush.trimEnd_append (List.forall_mem_nil _)
    rwa [List.append_nil] at alone
  rw [trim, flush.trimStart_append nonempty, trimEnd_eq_cutEnd, cutEnd_append]
  split
  · rename_i nothing
    rw [← trimEnd_eq_cutEnd, kept, trimEnd_eq_cutEnd, nothing, List.append_nil]
  · rfl

theorem IsFlush.of_unbroken {text : Text} (unbroken : IsUnbroken text) : IsFlush text where
  starts := fun point first => unbroken point (List.mem_of_mem_head? first)
  ends := fun point last => unbroken point (List.mem_of_mem_getLast? last)

theorem IsFlush.around {first last : Text} (former : IsFlush first) (latter : IsFlush last)
    (begun : first ≠ []) (ended : last ≠ []) (middle : Text) :
    IsFlush (first ++ (middle ++ last)) where
  starts := by
    obtain ⟨point, rest, rfl⟩ := List.exists_cons_of_ne_nil begun
    exact former.starts
  ends := by
    obtain ⟨point, isLast⟩ := Option.isSome_iff_exists.mp (List.getLast?_isSome.mpr ended)
    have unblank := latter.ends point isLast
    rw [← List.append_assoc, List.getLast?_append, isLast]
    rintro _ ⟨⟩
    exact unblank

theorem IsFlush.trim_eq {core : Text} (flush : IsFlush core) : trim core = core := by
  have trimmed : trim ([] ++ core ++ []) = core :=
    flush.trim_between (by simp [IsBlank]) (by simp [IsBlank])
  simpa using trimmed

theorem exists_cutEnd (text : Text) :
    ∃ after, (∀ point ∈ after, drops point = true) ∧ text = cutEnd drops text ++ after ∧
      ∀ point ∈ (cutEnd drops text).getLast?, drops point = false := by
  refine ⟨(text.reverse.takeWhile drops).reverse, ?_, ?_, ?_⟩
  · intro point member
    exact List.mem_takeWhile_imp (List.mem_reverse.mp member)
  · rw [cutEnd, ← List.reverse_append, List.takeWhile_append_dropWhile, List.reverse_reverse]
  · intro point last
    rw [cutEnd, List.getLast?_reverse] at last
    have unmet := List.head?_dropWhile_not drops text.reverse
    rw [Option.mem_def.mp last] at unmet
    simpa using unmet

theorem exists_trim (text : Text) :
    ∃ before after, IsBlank before ∧ IsBlank after ∧ text = before ++ trim text ++ after ∧
      IsFlush (trim text) := by
  obtain ⟨before, blankBefore, whole⟩ := exists_trimStart text
  obtain ⟨after, blankAfter, split, ends⟩ := @exists_cutEnd CodePoint.isBlank (trimStart text)
  have starts : ∀ point ∈ (trimStart text).head?, point.isBlank = false := by
    intro point first
    have unmet := List.head?_dropWhile_not CodePoint.isBlank text
    rw [trimStart] at first
    rw [Option.mem_def.mp first] at unmet
    exact unmet
  refine ⟨before, after, blankBefore, blankAfter, ?_, ⟨?_, ends⟩⟩
  · rw [List.append_assoc]
    exact whole.trans (congrArg (before ++ ·) split)
  · intro point first
    apply starts
    rw [split, List.head?_append]
    rw [show (cutEnd CodePoint.isBlank (trimStart text)).head? = some point from first]
    rfl

theorem isFlush_trim (text : Text) : IsFlush (trim text) := by
  obtain ⟨_before, _after, _blankBefore, _blankAfter, _whole, flush⟩ := exists_trim text
  exact flush

theorem trim_ne_nil {text : Text} (visible : ¬IsBlank text) : trim text ≠ [] := by
  obtain ⟨before, after, blankBefore, blankAfter, whole, _flush⟩ := exists_trim text
  intro nothing
  rw [nothing, List.append_nil] at whole
  apply visible
  rw [whole]
  exact blankBefore.append blankAfter

theorem trim_append_of_blank {margin : Text} (blank : IsBlank margin) (text : Text) :
    trim (text ++ margin) = trim text := by
  obtain ⟨before, after, blankBefore, blankAfter, whole, flush⟩ := exists_trim text
  have longer : text ++ margin = before ++ trim text ++ (after ++ margin) := by
    rw [← List.append_assoc, ← whole]
  rw [longer, flush.trim_between blankBefore (blankAfter.append blank)]

/-! ### Words -/

theorem pieces_ne_nil (separates : CodePoint → Bool) (text : Text) : pieces separates text ≠ [] := by
  cases text with
  | nil => simp [pieces]
  | cons point rest =>
      rw [pieces]
      split
      · simp
      · split <;> simp

theorem pieces_cons_of_not {separates : CodePoint → Bool} {point : CodePoint}
    (within : separates point = false) {rest first : Text} {others : List Text}
    (split : pieces separates rest = first :: others) :
    pieces separates (point :: rest) = (point :: first) :: others := by
  simp [pieces, within, split]

private theorem pieces_append {separates : CodePoint → Bool} {point : CodePoint}
    (separator : separates point = true) (first second : Text) :
    pieces separates (first ++ point :: second) =
      pieces separates first ++ pieces separates second := by
  induction first with
  | nil => simp [pieces, separator]
  | cons other rest ih =>
      cases separated : separates other with
      | true => simp [pieces, separated, ih]
      | false =>
          obtain ⟨piece, others, split⟩ :=
            List.exists_cons_of_ne_nil (pieces_ne_nil separates rest)
          rw [split, List.cons_append] at ih
          rw [List.cons_append, pieces_cons_of_not separated ih, pieces_cons_of_not separated split]
          rfl

theorem words_append_blank {point : CodePoint} (blank : point.isBlank = true)
    (first second : Text) : words (first ++ point :: second) = words first ++ words second := by
  unfold words
  rw [pieces_append blank, List.filter_append]

theorem words_cons_blank {point : CodePoint} (blank : point.isBlank = true) (text : Text) :
    words (point :: text) = words text :=
  words_append_blank blank [] text

theorem words_append_of_blank {margin : Text} (blank : IsBlank margin) (text : Text) :
    words (margin ++ text) = words text := by
  induction margin with
  | nil => rfl
  | cons point rest ih =>
      obtain ⟨isBlank, others⟩ := blank.of_cons
      rw [List.cons_append, words_cons_blank isBlank]
      exact ih others

private theorem pieces_of_unbroken {word : Text} (unbroken : IsUnbroken word) :
    pieces CodePoint.isBlank word = [word] := by
  induction word with
  | nil => rfl
  | cons point rest ih =>
      obtain ⟨unblank, others⟩ := unbroken.of_cons
      exact pieces_cons_of_not unblank (ih others)

theorem words_of_unbroken {word : Text} (nonempty : word ≠ []) (unbroken : IsUnbroken word) :
    words word = [word] := by
  simp [words, pieces_of_unbroken unbroken, nonempty]

theorem words_append_gap {word gap : Text} (nonempty : word ≠ []) (unbroken : IsUnbroken word)
    (open_gap : gap ≠ []) (blank : IsBlank gap) (text : Text) :
    words (word ++ gap ++ text) = word :: words text := by
  obtain ⟨point, rest, rfl⟩ := List.exists_cons_of_ne_nil open_gap
  obtain ⟨isBlank, others⟩ := blank.of_cons
  rw [List.append_assoc, List.cons_append, words_append_blank isBlank,
    words_of_unbroken nonempty unbroken, words_append_of_blank others]
  rfl

theorem words_append_of_opens {tail : Text} (opens : ∀ point ∈ tail.head?, point.isBlank = true)
    (text : Text) : words (text ++ tail) = words text ++ words tail := by
  cases tail with
  | nil => simp [words, pieces]
  | cons point rest =>
      have blank := opens point rfl
      rw [words_append_blank blank, words_cons_blank blank]

theorem words_trimEnd (text : Text) : words (trimEnd text) = words text := by
  obtain ⟨after, blank, whole, _ends⟩ := @exists_cutEnd CodePoint.isBlank text
  have opens : ∀ point ∈ after.head?, point.isBlank = true :=
    fun point first => blank point (List.mem_of_mem_head? first)
  have nothing : words after = [] := by
    have alone := words_append_of_blank blank []
    rwa [List.append_nil] at alone
  have split := words_append_of_opens opens (trimEnd text)
  rw [nothing, List.append_nil] at split
  rw [← split, trimEnd_eq_cutEnd, ← whole]

theorem words_cons_ne_nil {point : CodePoint} (unblank : point.isBlank = false) (rest : Text) :
    words (point :: rest) ≠ [] := by
  obtain ⟨first, others, split⟩ :=
    List.exists_cons_of_ne_nil (pieces_ne_nil CodePoint.isBlank rest)
  simp [words, pieces_cons_of_not unblank split]

/-! ### Squeezed texts -/

/-- The text with one space for every run of white space; a run that began before the text
has its space already. -/
def squeezedFrom (afterBlank : Bool) : Text → Text
  | [] => []
  | point :: rest =>
      if point.isBlank then
        if afterBlank then squeezedFrom true rest else .char ' ' :: squeezedFrom true rest
      else point :: squeezedFrom false rest

/-- Whether white space is what comes last after a text. -/
def endsBlank (afterBlank : Bool) (text : Text) : Bool :=
  (text.getLast?.map CodePoint.isBlank).getD afterBlank

@[simp] theorem squeezedFrom_nil (afterBlank : Bool) : squeezedFrom afterBlank [] = [] := rfl

theorem squeezedFrom_cons_blank {point : CodePoint} (blank : point.isBlank = true)
    (afterBlank : Bool) (rest : Text) :
    squeezedFrom afterBlank (point :: rest) =
      if afterBlank then squeezedFrom true rest else .char ' ' :: squeezedFrom true rest := by
  rw [squeezedFrom, if_pos blank]

theorem squeezedFrom_cons_unblank {point : CodePoint} (unblank : point.isBlank = false)
    (afterBlank : Bool) (rest : Text) :
    squeezedFrom afterBlank (point :: rest) = point :: squeezedFrom false rest := by
  simp [squeezedFrom, unblank]

private theorem endsBlank_cons (afterBlank : Bool) (point : CodePoint) (rest : Text) :
    endsBlank afterBlank (point :: rest) = endsBlank point.isBlank rest := by
  unfold endsBlank
  cases rest with
  | nil => rfl
  | cons next others =>
      rw [List.getLast?_cons_cons]
      cases last : (next :: others).getLast? with
      | none => simp at last
      | some point => rfl

theorem squeezedFrom_append (afterBlank : Bool) (first second : Text) :
    squeezedFrom afterBlank (first ++ second) =
      squeezedFrom afterBlank first ++ squeezedFrom (endsBlank afterBlank first) second := by
  induction first generalizing afterBlank with
  | nil => rfl
  | cons point rest ih =>
      rw [endsBlank_cons]
      cases blank : point.isBlank with
      | true =>
          rw [List.cons_append, squeezedFrom_cons_blank blank, squeezedFrom_cons_blank blank, ih]
          cases afterBlank <;> rfl
      | false =>
          rw [List.cons_append, squeezedFrom_cons_unblank blank, squeezedFrom_cons_unblank blank,
            ih]
          rfl

theorem squeezedFrom_of_unbroken {text : Text} (unbroken : IsUnbroken text) (afterBlank : Bool) :
    squeezedFrom afterBlank text = text := by
  induction text generalizing afterBlank with
  | nil => rfl
  | cons point rest ih =>
      obtain ⟨unblank, others⟩ := unbroken.of_cons
      rw [squeezedFrom_cons_unblank unblank, ih others]

theorem squeezedFrom_append_of_unbroken {word : Text} (nonempty : word ≠ [])
    (unbroken : IsUnbroken word) (afterBlank : Bool) (rest : Text) :
    squeezedFrom afterBlank (word ++ rest) = word ++ squeezedFrom false rest := by
  have ends : endsBlank afterBlank word = false := by
    rw [endsBlank, List.getLast?_eq_some_getLast nonempty]
    exact unbroken _ (List.getLast_mem nonempty)
  rw [squeezedFrom_append, squeezedFrom_of_unbroken unbroken, ends]

theorem squeezedFrom_of_blank {margin : Text} (blank : IsBlank margin) (afterBlank : Bool) :
    squeezedFrom afterBlank margin = if afterBlank ∨ margin = [] then [] else [.char ' '] := by
  induction margin generalizing afterBlank with
  | nil => simp
  | cons point rest ih =>
      obtain ⟨isBlank, others⟩ := blank.of_cons
      rw [squeezedFrom_cons_blank isBlank, ih others]
      cases afterBlank <;> simp

theorem isBlank_squeezedFrom {margin : Text} (blank : IsBlank margin) (afterBlank : Bool) :
    IsBlank (squeezedFrom afterBlank margin) := by
  rw [squeezedFrom_of_blank blank]
  split
  · intro point member
    cases member
  · decide

theorem trimStart_squeezedFrom_true (text : Text) :
    trimStart (squeezedFrom true text) = squeezedFrom true text := by
  induction text with
  | nil => rfl
  | cons point rest ih =>
      cases blank : point.isBlank with
      | true => simpa [squeezedFrom_cons_blank blank] using ih
      | false => rw [squeezedFrom_cons_unblank blank, trimStart_cons_of_unblank blank]

theorem IsFlush.squeezedFrom {core : Text} (flush : IsFlush core) (afterBlank : Bool) :
    IsFlush (squeezedFrom afterBlank core) where
  starts := by
    cases core with
    | nil => simp
    | cons point rest =>
        have unblank := flush.starts point rfl
        rw [squeezedFrom_cons_unblank unblank]
        simpa using unblank
  ends := by
    rcases List.eq_nil_or_concat core with rfl | ⟨front, last, rfl⟩
    · simp
    · have unblank := flush.ends last (by simp)
      rw [List.concat_eq_append, squeezedFrom_append, squeezedFrom_cons_unblank unblank]
      simpa using unblank

theorem IsFlush.squeezedFrom_eq {core : Text} (flush : IsFlush core) (afterBlank : Bool) :
    Text.squeezedFrom afterBlank core = Text.squeezedFrom true core := by
  cases core with
  | nil => rfl
  | cons point rest =>
      have unblank := flush.starts point rfl
      rw [squeezedFrom_cons_unblank unblank, squeezedFrom_cons_unblank unblank]

theorem squeezedFrom_append_of_blank {margin : Text} (blank : IsBlank margin) (text : Text) :
    squeezedFrom true (margin ++ text) = squeezedFrom true text := by
  induction margin with
  | nil => rfl
  | cons point rest ih =>
      obtain ⟨isBlank, others⟩ := blank.of_cons
      rw [List.cons_append, squeezedFrom_cons_blank isBlank, if_pos rfl]
      exact ih others

theorem IsFlush.squeezedFrom_append {core : Text} (flush : IsFlush core) (nonempty : core ≠ [])
    (afterBlank : Bool) (rest : Text) :
    Text.squeezedFrom afterBlank (core ++ rest) =
      Text.squeezedFrom true core ++ Text.squeezedFrom false rest := by
  have ends : endsBlank afterBlank core = false := by
    have unblank := flush.ends
    rw [List.getLast?_eq_some_getLast nonempty] at unblank
    rw [endsBlank, List.getLast?_eq_some_getLast nonempty]
    exact unblank _ rfl
  rw [Text.squeezedFrom_append, ends, flush.squeezedFrom_eq]

theorem trim_squeezedFrom (afterBlank : Bool) (text : Text) :
    trim (squeezedFrom afterBlank text) = squeezedFrom true (trim text) := by
  obtain ⟨before, after, blankBefore, blankAfter, whole, flush⟩ := exists_trim text
  have squeezed := squeezedFrom_append afterBlank (before ++ trim text) after
  rw [← whole, squeezedFrom_append afterBlank before] at squeezed
  rw [squeezed, (flush.squeezedFrom _).trim_between (isBlank_squeezedFrom blankBefore _)
    (isBlank_squeezedFrom blankAfter _), flush.squeezedFrom_eq]

theorem squeezedFrom_trim_ne_nil {text : Text} (visible : ¬IsBlank text) :
    squeezedFrom true (trim text) ≠ [] := by
  have flush := isFlush_trim text
  obtain ⟨point, rest, opened⟩ := List.exists_cons_of_ne_nil (trim_ne_nil visible)
  rw [opened] at flush
  have unblank := flush.starts point rfl
  rw [opened, squeezedFrom_cons_unblank unblank]
  exact List.cons_ne_nil _ _

theorem joined_cons (separator first : Text) (others : List Text) :
    joined separator (first :: others) = first ++ others.flatMap (separator ++ ·) := by
  induction others generalizing first with
  | nil => simp [joined]
  | cons next others ih =>
      have following := ih next
      unfold joined at following ⊢
      rw [List.intercalate_cons_cons, following]
      simp

/-- Words with a space before each of them. -/
def spaced (words : List Text) : Text :=
  words.flatMap ([.char ' '] ++ ·)

private theorem spaced_words (text : Text) :
    spaced (words text) =
      if joined [.char ' '] (words text) = [] then []
      else .char ' ' :: joined [.char ' '] (words text) := by
  cases parts : words text with
  | nil => rfl
  | cons word others =>
      have member : word ∈ words text := by simp [parts]
      have nonempty : word ≠ [] := by simpa using (List.mem_filter.mp member).2
      rw [joined_cons, if_neg (by simp [nonempty])]
      rfl

/-- Squeezing and trimming spaces the words of a text, at its start and within a word. -/
private theorem joined_words (text : Text) :
    joined [.char ' '] (words text) = trimEnd (squeezedFrom true text) ∧
      ∀ first others, pieces CodePoint.isBlank text = first :: others →
        first ++ spaced (others.filter fun piece => !piece.isEmpty) =
          trimEnd (squeezedFrom false text) := by
  -- The two facts need each other: a word ends at white space, and another one begins after it.
  induction text with
  | nil =>
      refine ⟨rfl, ?_⟩
      intro first others split
      cases split
      rfl
  | cons point rest ih =>
      obtain ⟨atBreak, within⟩ := ih
      obtain ⟨first, others, split⟩ :=
        List.exists_cons_of_ne_nil (pieces_ne_nil CodePoint.isBlank rest)
      cases blank : point.isBlank with
      | true =>
          have whole : pieces CodePoint.isBlank (point :: rest) =
              [] :: pieces CodePoint.isBlank rest := by
            simp [pieces, blank]
          rw [words_cons_blank blank, squeezedFrom_cons_blank blank, whole]
          refine ⟨atBreak, ?_⟩
          intro piece pieces' same
          cases same
          change spaced (words rest) = _
          rw [spaced_words, atBreak, squeezedFrom_cons_blank blank, if_neg Bool.false_ne_true,
            trimEnd_eq_cutEnd, trimEnd_eq_cutEnd, cutEnd_cons]
          rfl
      | false =>
          have whole := pieces_cons_of_not blank split
          have following := within first others split
          rw [squeezedFrom_cons_unblank blank, squeezedFrom_cons_unblank blank, trimEnd_eq_cutEnd,
            cutEnd_cons_of_kept blank, ← trimEnd_eq_cutEnd, ← following]
          refine ⟨?_, ?_⟩
          · simp [words, whole, joined_cons, spaced]
          · intro piece pieces' same
            rw [whole] at same
            cases same
            rfl

theorem singleSpaced_eq (text : Text) : singleSpaced text = trimEnd (squeezedFrom true text) :=
  (joined_words text).1

end Text
end PooledQuery
