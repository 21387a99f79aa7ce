/-
Words of texts.

The words of a text are determined one by one from its start, so only the last one can change when
the text goes on.  Words that are joined by single spaces are read back, and a text is a single
word when it has no white space.
-/
import Mathlib.Data.List.Basic
import PooledQuery.Proofs.Text.Spacing

namespace PooledQuery.Text

theorem isUnbroken_or_exists_blank (text : Text) :
    IsUnbroken text ∨ ∃ front blank last, text = front ++ blank :: last ∧
      blank.isBlank = true ∧ IsUnbroken last := by
  induction text with
  | nil => exact Or.inl (List.forall_mem_nil _)
  | cons point rest ih =>
      rcases ih with unbroken | ⟨front, blank, last, rfl, isBlank, unbroken⟩
      · cases blank : point.isBlank with
        | true => exact Or.inr ⟨[], point, rest, rfl, blank, unbroken⟩
        | false => exact Or.inl (List.forall_mem_cons.mpr ⟨blank, unbroken⟩)
      · exact Or.inr ⟨point :: front, blank, last, rfl, isBlank, unbroken⟩

private theorem words_eq_nil_iff {text : Text} : words text = [] ↔ IsBlank text := by
  constructor
  · intro nothing
    induction text with
    | nil => exact List.forall_mem_nil _
    | cons point rest ih =>
        cases blank : point.isBlank with
        | true =>
            rw [words_cons_blank blank] at nothing
            exact List.forall_mem_cons.mpr ⟨blank, ih nothing⟩
        | false => exact absurd nothing (words_cons_ne_nil blank rest)
  · intro blank
    have alone := words_append_of_blank blank []
    rwa [List.append_nil] at alone

theorem words_unbroken {text : Text} (unbroken : IsUnbroken text) :
    words text = if text = [] then [] else [text] := by
  split
  · rename_i nothing
    rw [nothing]
    rfl
  · rename_i nonempty
    exact words_of_unbroken nonempty unbroken

theorem of_mem_pieces {separates : CodePoint → Bool} {text piece : Text}
    (member : piece ∈ pieces separates text) :
    ∀ point ∈ piece, separates point = false ∧ point ∈ text := by
  induction text generalizing piece with
  | nil =>
      rw [pieces, List.mem_singleton] at member
      rw [member]
      exact List.forall_mem_nil _
  | cons first rest ih =>
      have later {piece : Text} (listed : piece ∈ pieces separates rest) :
          ∀ point ∈ piece, separates point = false ∧ point ∈ first :: rest :=
        fun point within => (ih listed point within).imp_right (List.mem_cons_of_mem _)
      cases separated : separates first with
      | true =>
          simp only [pieces, separated, if_true, List.mem_cons] at member
          rcases member with rfl | listed
          · exact List.forall_mem_nil _
          · exact later listed
      | false =>
          obtain ⟨piece', others, split⟩ :=
            List.exists_cons_of_ne_nil (pieces_ne_nil separates rest)
          rw [split] at later
          rw [pieces_cons_of_not separated split, List.mem_cons] at member
          rcases member with rfl | listed
          · exact List.forall_mem_cons.mpr
              ⟨⟨separated, List.mem_cons_self⟩, later List.mem_cons_self⟩
          · exact later (List.mem_cons_of_mem _ listed)

theorem of_mem_words {text word : Text} (member : word ∈ words text) :
    word ≠ [] ∧ IsUnbroken word := by
  obtain ⟨listed, visible⟩ := List.mem_filter.mp member
  exact ⟨by simpa using visible, fun point within => (of_mem_pieces listed point within).1⟩

theorem mem_of_mem_words {text word : Text} {point : CodePoint} (member : word ∈ words text)
    (within : point ∈ word) : point ∈ text :=
  (of_mem_pieces (List.mem_filter.mp member).1 point within).2

/-- Words that are joined by single spaces are the words of the joined text. -/
theorem words_joined {texts : List Text} (each : ∀ text ∈ texts, text ≠ [] ∧ IsUnbroken text) :
    words (joined [.char ' '] texts) = texts := by
  induction texts with
  | nil => rfl
  | cons text others ih =>
      obtain ⟨⟨nonempty, unbroken⟩, later⟩ := List.forall_mem_cons.mp each
      cases others with
      | nil => simpa [joined] using words_of_unbroken nonempty unbroken
      | cons next more =>
          have space : IsBlank [.char ' '] := by decide
          have whole : joined [.char ' '] (text :: next :: more) =
              text ++ [.char ' '] ++ joined [.char ' '] (next :: more) := by
            simp [joined, List.intercalate_cons_cons]
          rw [whole, words_append_gap nonempty unbroken (List.cons_ne_nil _ _) space, ih later]

theorem joined_concat {texts : List Text} (nonempty : texts ≠ []) (separator text : Text) :
    joined separator (texts ++ [text]) = joined separator texts ++ (separator ++ text) := by
  obtain ⟨first, others, rfl⟩ := List.exists_cons_of_ne_nil nonempty
  rw [List.cons_append, joined_cons, joined_cons]
  simp

theorem isFlush_joined {texts : List Text} (each : ∀ text ∈ texts, text ≠ [] ∧ IsUnbroken text) :
    IsFlush (joined [.char ' '] texts) := by
  rcases List.eq_nil_or_concat texts with rfl | ⟨others, last, rfl⟩
  · exact ⟨nofun, nofun⟩
  · rw [List.concat_eq_append] at each ⊢
    have ended := each last (by simp)
    cases others with
    | nil => simpa [joined] using IsFlush.of_unbroken ended.2
    | cons first more =>
        have begun := each first (by simp)
        constructor
        · intro point start
          rw [List.cons_append, joined_cons, List.head?_append_of_ne_nil _ begun.1] at start
          exact begun.2 point (List.mem_of_mem_head? start)
        · intro point finish
          rw [joined_concat (List.cons_ne_nil _ _), ← List.append_assoc,
            List.getLast?_append_of_ne_nil _ ended.1] at finish
          exact ended.2 point (List.mem_of_mem_getLast? finish)

theorem dropLast_words_isPrefix (text following : Text) :
    (words text).dropLast <+: words (text ++ following) := by
  rcases isUnbroken_or_exists_blank text with unbroken | ⟨front, blank, last, rfl, isBlank, unbroken⟩
  · rw [words_unbroken unbroken]
    split <;> exact List.nil_prefix
  · rw [List.append_assoc, List.cons_append, words_append_blank isBlank,
      words_append_blank isBlank, words_unbroken unbroken]
    split
    · rw [List.append_nil]
      exact (List.dropLast_prefix _).trans (List.prefix_append _ _)
    · rw [List.dropLast_concat]
      exact List.prefix_append _ _

theorem length_words_le (text following : Text) :
    (words text).length ≤ (words (text ++ following)).length := by
  have visible {text : Text} (nonempty : text ≠ []) (unbroken : IsUnbroken text) :
      0 < (words (text ++ following)).length := by
    obtain ⟨point, rest, rfl⟩ := List.exists_cons_of_ne_nil nonempty
    exact List.length_pos_iff.mpr (words_cons_ne_nil unbroken.of_cons.1 _)
  rcases isUnbroken_or_exists_blank text with unbroken | ⟨front, blank, last, rfl, isBlank, unbroken⟩
  · rw [words_unbroken unbroken]
    split
    · exact Nat.zero_le _
    · rename_i nonempty
      exact visible nonempty unbroken
  · rw [List.append_assoc, List.cons_append, words_append_blank isBlank,
      words_append_blank isBlank, List.length_append, List.length_append, words_unbroken unbroken]
    split
    · simp
    · rename_i nonempty
      exact Nat.add_le_add_left (visible nonempty unbroken) _

/-- A text that ends with no white space, but has some, ends with its last word, which follows
other words. -/
theorem exists_last_word {text : Text} (flush : IsFlush text) (broken : ¬IsUnbroken text) :
    ∃ first others last, words text = first :: (others ++ [last]) ∧ last.getLast? = text.getLast? := by
  rcases isUnbroken_or_exists_blank text with unbroken | ⟨front, blank, last, rfl, isBlank, unbroken⟩
  · exact absurd unbroken broken
  · have ended : last ≠ [] := by
      rintro rfl
      have unblank := flush.ends blank List.getLast?_concat
      rw [isBlank] at unblank
      cases unblank
    have begun : words front ≠ [] := by
      intro nothing
      have margin := words_eq_nil_iff.mp nothing
      cases front with
      | nil =>
          have unblank := flush.starts blank rfl
          rw [isBlank] at unblank
          cases unblank
      | cons point rest =>
          have unblank := flush.starts point rfl
          rw [margin.of_cons.1] at unblank
          cases unblank
    obtain ⟨first, others, split⟩ := List.exists_cons_of_ne_nil begun
    refine ⟨first, others, last, ?_, ?_⟩
    · rw [words_append_blank isBlank, split, words_of_unbroken ended unbroken, List.cons_append]
    · rw [List.getLast?_append, List.getLast?_cons, List.getLast?_eq_some_getLast ended]
      rfl

/-! ### Squeezed texts -/

theorem mem_of_mem_squeezedFrom {point : CodePoint} {afterBlank : Bool} {text : Text}
    (member : point ∈ squeezedFrom afterBlank text) : point ∈ text ∨ point = .char ' ' := by
  induction text generalizing afterBlank with
  | nil => cases member
  | cons first rest ih =>
      have later {afterBlank : Bool} (within : point ∈ squeezedFrom afterBlank rest) :
          point ∈ first :: rest ∨ point = .char ' ' :=
        (ih within).imp_left (List.mem_cons_of_mem _)
      cases blank : first.isBlank with
      | false =>
          rw [squeezedFrom_cons_unblank blank, List.mem_cons] at member
          rcases member with rfl | within
          · exact Or.inl List.mem_cons_self
          · exact later within
      | true =>
          rw [squeezedFrom_cons_blank blank] at member
          split at member
          · exact later member
          · rcases List.mem_cons.mp member with space | within
            · exact Or.inr space
            · exact later within

theorem isUnbroken_squeezedFrom_iff {text : Text} :
    IsUnbroken (squeezedFrom false text) ↔ IsUnbroken text := by
  constructor
  · intro unbroken
    induction text with
    | nil => exact List.forall_mem_nil _
    | cons point rest ih =>
        cases blank : point.isBlank with
        | true =>
            rw [squeezedFrom_cons_blank blank, if_neg Bool.false_ne_true] at unbroken
            cases unbroken.of_cons.1
        | false =>
            rw [squeezedFrom_cons_unblank blank] at unbroken
            exact List.forall_mem_cons.mpr ⟨blank, ih unbroken.of_cons.2⟩
  · intro unbroken
    rwa [squeezedFrom_of_unbroken unbroken]

end PooledQuery.Text
