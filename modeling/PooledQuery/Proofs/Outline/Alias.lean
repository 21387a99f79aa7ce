/-
Aliases of columns.

The last alias keyword of a column decides on its label.  What is found in front of that keyword
ends in front of it, since the text there neither ends with white space nor has an alias keyword
outside parentheses and quotes.
-/
import PooledQuery.Proofs.Outline.Writing

namespace PooledQuery

open Keyword

namespace Text

variable {text : Text}

theorem between?_eq_none {opening closing : Char} (other : text.head? ≠ some (.char opening)) :
    between? opening closing text = none := by
  unfold between?
  split
  · rename_i first second rest
    have differs : first ≠ opening := by
      rintro rfl
      exact other rfl
    simp [differs]
  · rfl

theorem unquoted_of_flush (flush : IsFlush text)
    (bare : ∀ opening ∈ [backtick, doubleQuote, '['], text.head? ≠ some (.char opening)) :
    unquoted text = text := by
  unfold unquoted
  rw [flush.trim_eq]
  dsimp only
  rw [between?_eq_none (bare backtick (by decide)), between?_eq_none (bare doubleQuote (by decide)),
    between?_eq_none (bare '[' (by decide))]
  rfl

theorem unquoted_of_unbroken (unbroken : IsUnbroken text)
    (begins : ∀ point ∈ text.head?, point.isWord = true) : unquoted text = text := by
  apply unquoted_of_flush (.of_unbroken unbroken)
  intro opening listed first
  have other : [backtick, doubleQuote, '['].all (fun sign => !(CodePoint.char sign).isWord) = true := by
    decide
  have plain := List.all_eq_true.mp other opening listed
  rw [begins _ first] at plain
  cases plain

end Text

namespace Column

/-! ### Alias keywords -/

theorem afterAliasKeyword?_append (gap : Gap) (keyword : Spelling "AS") (margin : Gap)
    (text : Text) :
    afterAliasKeyword? (gap.text ++ (keyword.text ++ (margin.text ++ text))) =
      some (Text.trimStart text) := by
  have leading := SelectOutline.afterLeadingWord?_append keyword margin text
  have begins : Text.trimStart (keyword.text ++ (margin.text ++ text)) =
      keyword.text ++ (margin.text ++ text) :=
    (Text.IsFlush.of_unbroken keyword.isUnbroken).trimStart_append
      keyword.ne_nil _
  unfold afterAliasKeyword?
  rw [SelectOutline.afterBlanks?_append, begins]
  exact leading

theorem exists_of_afterAliasKeyword? {text rest : Text}
    (found : afterAliasKeyword? text = some rest) :
    ∃ (gap : Gap) (keyword : Spelling "AS") (margin : Gap),
      text = gap.text ++ (keyword.text ++ (margin.text ++ rest)) := by
  unfold afterAliasKeyword? at found
  obtain ⟨following, opens, leads⟩ := Option.bind_eq_some_iff.mp found
  obtain ⟨gap, rfl⟩ := SelectOutline.exists_of_afterBlanks? opens
  obtain ⟨keyword, margin, rfl⟩ := SelectOutline.exists_of_afterLeadingWord? Text.isKeyword_as leads
  exact ⟨gap, keyword, margin, rfl⟩

private theorem afterAliasKeyword?_of_unblank {point : CodePoint} (unblank : point.isBlank = false)
    (rest : Text) : afterAliasKeyword? (point :: rest) = none := by
  simp [afterAliasKeyword?, afterBlanks?, unblank]

variable {text following : Text} {before : Option CodePoint} {nesting : Nesting}

theorem not_passes_keyword (gap : Gap) (keyword : Spelling "AS") {rest : Text}
    (ends : endsWord (rest ++ following).head? = false) :
    ¬Passes (word "AS") following before .top (gap.text ++ (keyword.text ++ rest)) := by
  intro passes
  have inert : ∀ point ∈ gap.text, point.isInert = true :=
    fun point member => CodePoint.isInert_of_isBlank (gap.blank point member)
  -- The search would find the keyword where it begins.
  have here := passes.of_append
  rw [show Nesting.top.after gap.text = .top from Nesting.after_inert inert 0] at here
  have opened : endsWord (lastOr before gap.text) = false := by
    rw [lastOr, List.getLast?_eq_some_getLast gap.nonempty]
    exact CodePoint.isWord_of_isBlank (gap.blank _ (List.getLast_mem gap.nonempty))
  have found : word "AS" (lastOr before gap.text) (keyword.text ++ rest ++ following) =
      some (rest ++ following) :=
    word_eq_some_iff.mpr ⟨opened, ⟨keyword.text, keyword.same, List.append_assoc _ _ _⟩, ends⟩
  obtain ⟨point, others, spelled⟩ := List.exists_cons_of_ne_nil keyword.ne_nil
  have inert' : point.isInert = true :=
    CodePoint.isInert_of_isWord (keyword.isWord point (by rw [spelled]; exact List.mem_cons_self))
  rw [spelled, List.cons_append] at here found
  have nothing := here.1 ((Nesting.isTop_iff_of_inert inert' _).mpr rfl)
  rw [nothing] at found
  cases found

private theorem ne_gap_append_keyword (passes : Passes (word "AS") following before nesting text)
    (reaches : nesting.after text = .top) (sound : nesting.quoting.IsSound)
    (begins : endsWord following.head? = false) (gap : Gap) (keyword : Spelling "AS") :
    text ≠ gap.text ++ keyword.text := by
  rintro rfl
  have top : nesting = .top := by
    apply Nesting.eq_top_of_after _ sound reaches
    exact List.forall_mem_append.mpr
      ⟨fun point member => CodePoint.isInert_of_isBlank (gap.blank point member),
        fun point member => CodePoint.isInert_of_isWord (keyword.isWord point member)⟩
  subst top
  rw [← List.append_nil keyword.text] at passes
  have ends : endsWord (([] : Text) ++ following).head? = false := begins
  exact not_passes_keyword gap keyword ends passes

/-- What follows an alias keyword that begins in such a text is no shorter than what follows the
text, if the text does not end with white space and white space follows it. -/
theorem length_le_of_afterAliasKeyword?
    (passes : Passes (word "AS") following before nesting text)
    (reaches : nesting.after text = .top) (sound : nesting.quoting.IsSound) (nonempty : text ≠ [])
    (ends : ∀ point ∈ text.getLast?, point.isBlank = false)
    (begins : ∀ point ∈ following.head?, point.isBlank = true) {tail : Text}
    (found : afterAliasKeyword? (text ++ following) = some tail) :
    following.length ≤ tail.length := by
  obtain ⟨gap, keyword, margin, whole⟩ := exists_of_afterAliasKeyword? found
  have words := keyword.isUnbroken
  have outside : endsWord following.head? = false := by
    cases following with
    | nil => rfl
    | cons point rest => exact CodePoint.isWord_of_isBlank (begins point rfl)
  have differs := ne_gap_append_keyword passes reaches sound outside gap keyword
  have unended {front part : Text} (blank : part.IsBlank) (open_part : part ≠ []) :
      text ≠ front ++ part := by
    rintro rfl
    rw [List.getLast?_append, List.getLast?_eq_some_getLast open_part] at ends
    have unblank := ends _ rfl
    rw [blank _ (List.getLast_mem open_part)] at unblank
    cases unblank
  rw [← List.append_assoc] at whole
  rcases List.append_eq_append_iff.mp whole with ⟨extra, longer, split⟩ | ⟨others, shorter, split⟩
  · -- The keyword would end in what follows the text.
    cases extra with
    | nil => exact absurd (by simpa using longer.symm) differs
    | cons point more =>
        have blank : point.isBlank = true := begins point (by rw [split]; rfl)
        rcases List.append_eq_append_iff.mp longer with
          ⟨part, opened, spelled⟩ | ⟨part, opened, spelled⟩
        · have unblank := words point (by simp [spelled])
          rw [blank] at unblank
          cases unblank
        · have within : text.IsBlank := fun point member =>
            gap.blank point (by rw [opened]; exact List.mem_append_left _ member)
          exact absurd (List.nil_append text).symm (unended within nonempty)
  · rcases List.append_eq_append_iff.mp split with ⟨part, spaced, rest⟩ | ⟨part, spaced, rest⟩
    · rw [rest, List.length_append]
      exact Nat.le_add_left _ _
    · -- The white space after the keyword would end in what follows the text.
      cases others with
      | nil => exact absurd (by simpa using shorter) differs
      | cons first more =>
          have within : Text.IsBlank (first :: more) := fun point member =>
            margin.blank point (by rw [spaced]; exact List.mem_append_left _ member)
          exact absurd shorter (unended within (List.cons_ne_nil _ _))

@[simp] theorem aliasTails_nil (skipped : Nat) (nesting : Nesting) :
    aliasTails skipped nesting [] = [] := by
  with_unfolding_all rfl

theorem aliasTails_succ (remaining : Nat) (nesting : Nesting) (point : CodePoint) (rest : Text) :
    aliasTails (remaining + 1) nesting (point :: rest) =
      aliasTails remaining (nesting.step point) rest := by
  with_unfolding_all rfl

theorem aliasTails_zero (nesting : Nesting) (point : CodePoint) (rest : Text) :
    aliasTails 0 nesting (point :: rest) =
      match afterAliasKeyword? (point :: rest) with
      | none => aliasTails 0 (nesting.step point) rest
      | some tail =>
          let others := aliasTails (rest.length - tail.length) (nesting.step point) rest
          if nesting.isTop point then tail :: others else others := by
  with_unfolding_all rfl

private theorem aliasTails_append (passes : Passes (word "AS") following before nesting text)
    (reaches : nesting.after text = .top) (sound : nesting.quoting.IsSound)
    (ends : ∀ point ∈ text.getLast?, point.isBlank = false)
    (begins : ∀ point ∈ following.head?, point.isBlank = true) {skipped : Nat}
    (few : skipped ≤ text.length) :
    ∃ earlier, aliasTails skipped nesting (text ++ following) =
      earlier ++ aliasTails 0 .top following := by
  -- A match may skip code points of the text, but none of what follows the text.
  induction text generalizing before nesting skipped with
  | nil =>
      have none : skipped = 0 := Nat.le_zero.mp few
      have top : nesting = .top := reaches
      subst none top
      exact ⟨[], rfl⟩
  | cons point rest ih =>
      have sound' := Nesting.isSound_step sound point
      have ends' : ∀ point ∈ rest.getLast?, point.isBlank = false := by
        intro last isLast
        apply ends
        cases rest with
        | nil => cases isLast
        | cons next others => rwa [List.getLast?_cons_cons]
      rw [List.cons_append]
      cases skipped with
      | succ remaining =>
          rw [aliasTails_succ]
          exact ih passes.2 reaches sound' ends' (Nat.le_of_succ_le_succ few)
      | zero =>
          cases found : afterAliasKeyword? (point :: (rest ++ following)) with
          | none =>
              rw [aliasTails_zero, found]
              exact ih passes.2 reaches sound' ends' (Nat.zero_le _)
          | some tail =>
              have short := length_le_of_afterAliasKeyword? passes reaches sound
                (List.cons_ne_nil _ _) ends begins found
              have few' : (rest ++ following).length - tail.length ≤ rest.length := by
                rw [List.length_append]
                omega
              obtain ⟨earlier, later⟩ := ih passes.2 reaches sound' ends' few'
              rw [aliasTails_zero, found]
              dsimp only
              rw [later]
              split
              · exact ⟨tail :: earlier, rfl⟩
              · exact ⟨earlier, rfl⟩

private theorem aliasTails_skipped (nesting : Nesting) (text following : Text) :
    aliasTails text.length nesting (text ++ following) =
      aliasTails 0 (nesting.after text) following := by
  induction text generalizing nesting with
  | nil => rfl
  | cons point rest ih =>
      rw [List.cons_append, List.length_cons, aliasTails_succ, ih, Nesting.after_cons]

theorem aliasTails_of_unbroken (unbroken : text.IsUnbroken) (nesting : Nesting) :
    aliasTails 0 nesting text = [] := by
  induction text generalizing nesting with
  | nil => rw [aliasTails_nil]
  | cons point rest ih =>
      obtain ⟨unblank, others⟩ := unbroken.of_cons
      rw [aliasTails_zero, afterAliasKeyword?_of_unblank unblank]
      exact ih others _

private theorem aliasTails_gap (keyword : Spelling "AS") {name : Text} (flush : name.IsFlush)
    (nothing : aliasTails 0 .top name = []) :
    aliasTails 0 .top (Gap.space.text ++ (keyword.text ++ (Gap.space.text ++ name))) = [name] := by
  have found := afterAliasKeyword?_append .space keyword .space name
  have trimmed : Text.trimStart name = name := by
    cases name with
    | nil => rfl
    | cons point rest => exact Text.trimStart_cons_of_unblank (flush.starts point rfl) rest
  have inert : ∀ point ∈ keyword.text ++ Gap.space.text, point.isInert = true := by
    intro point member
    rcases List.mem_append.mp member with letter | space
    · exact CodePoint.isInert_of_isWord (keyword.isWord point letter)
    · exact CodePoint.isInert_of_isBlank (Gap.space.blank point space)
  have reached : Nesting.top.after (keyword.text ++ Gap.space.text) = .top :=
    Nesting.after_inert inert 0
  have later := aliasTails_skipped .top (keyword.text ++ Gap.space.text) name
  rw [reached, nothing, List.append_assoc] at later
  have skipped : (keyword.text ++ (Gap.space.text ++ name)).length - name.length =
      (keyword.text ++ Gap.space.text).length := by
    simp only [List.length_append]
    omega
  rw [trimmed] at found
  change aliasTails 0 .top (.char ' ' :: (keyword.text ++ (Gap.space.text ++ name))) = [name]
  change afterAliasKeyword? (.char ' ' :: (keyword.text ++ (Gap.space.text ++ name))) =
    some name at found
  rw [aliasTails_zero, found]
  dsimp only
  have stays : Nesting.top.step (.char ' ') = .top := rfl
  rw [skipped, stays, later]
  rfl

theorem aliasTails_of_passes (passes : Passes (word "AS") [] before nesting text) (skipped : Nat) :
    aliasTails skipped nesting text = [] := by
  induction text generalizing before nesting skipped with
  | nil => rw [aliasTails_nil]
  | cons point rest ih =>
      cases skipped with
      | succ remaining =>
          rw [aliasTails_succ]
          exact ih passes.2 remaining
      | zero =>
          rw [aliasTails_zero]
          cases found : afterAliasKeyword? (point :: rest) with
          | none => exact ih passes.2 0
          | some tail =>
              have notTop : nesting.isTop point = false := by
                by_contra atTop
                obtain ⟨gap, keyword, margin, whole⟩ := exists_of_afterAliasKeyword? found
                have blank : point.isBlank = true := by
                  obtain ⟨first, others, opened⟩ := List.exists_cons_of_ne_nil gap.nonempty
                  rw [opened] at whole
                  rw [(List.cons.inj whole).1]
                  exact gap.blank first (by rw [opened]; exact List.mem_cons_self)
                have top := (Nesting.isTop_iff_of_inert (CodePoint.isInert_of_isBlank blank) nesting).mp
                  (by simpa using atTop)
                rw [top, whole] at passes
                refine not_passes_keyword gap keyword ?_ passes
                rw [List.append_nil]
                exact margin.endsWord_head? tail
              dsimp only
              rw [notTop, if_neg Bool.false_ne_true]
              exact ih passes.2 _

theorem alias?_eq_none (lacks : text.LacksWord "AS") : alias? text = none := by
  unfold alias?
  rw [aliasTails_of_passes (passes_of_lacksWord Text.isKeyword_as lacks)]
  rfl

/-- A single word after the last alias keyword is the alias. -/
theorem alias?_append {core name : Text} (skips : Skips (word "AS") core) (flush : core.IsFlush)
    (keyword : Spelling "AS") (named : name.IsFlush) (nothing : aliasTails 0 .top name = []) :
    alias? (core ++ (Gap.space.text ++ (keyword.text ++ (Gap.space.text ++ name)))) =
      if (Text.words name).length = 1 then some (Text.unquoted name) else none := by
  have blank : ∀ point ∈ (Gap.space.text ++ (keyword.text ++ (Gap.space.text ++ name))).head?,
      point.isBlank = true := by
    intro point first
    cases first
    rfl
  obtain ⟨earlier, tails⟩ := aliasTails_append
    (skips.passes.extend Text.isKeyword_as (Or.inr rfl)) skips.balanced.after_top
    Quoting.isSound_outside flush.ends blank (Nat.zero_le _)
  have last : (aliasTails 0 .top (core ++ (Gap.space.text ++ (keyword.text ++
      (Gap.space.text ++ name))))).getLast? = some name := by
    rw [tails, aliasTails_gap keyword named nothing, List.getLast?_concat]
  simp only [alias?, last]
  rcases Text.words name with _ | ⟨word, _ | ⟨next, more⟩⟩
  · rfl
  · rfl
  · simp

theorem label_of_alias {core name : Text} (skips : Skips (word "AS") core) (flush : core.IsFlush)
    (keyword : Spelling "AS") (nonempty : name ≠ [])
    (words : ∀ point ∈ name, point.isWord = true) :
    label (core ++ (Gap.space.text ++ (keyword.text ++ (Gap.space.text ++ name)))) = name := by
  have unbroken := Text.isUnbroken_of_isWord words
  have found := alias?_append skips flush keyword (.of_unbroken unbroken)
    (aliasTails_of_unbroken unbroken .top)
  rw [Text.words_of_unbroken nonempty unbroken, if_pos List.length_singleton] at found
  unfold label
  rw [found]
  exact Text.unquoted_of_unbroken unbroken fun point first =>
    words point (List.mem_of_mem_head? first)

end Column
end PooledQuery
