/-
Calls among the columns.

A column without alias is labelled by a collapsed call when it is a function's name, perhaps
white space, and a text from an opening parenthesis to a closing one.  Whether these two
parentheses belong together is not looked at, so a sum of two calls counts as a call.
-/
import Mathlib.Data.List.Forall2
import PooledQuery.Proofs.Outline.Alias
import PooledQuery.Proofs.Outline.Requoting

namespace PooledQuery

open Keyword

namespace Text

variable {text content : Text}

theorem between?_eq_some_iff {opening closing : Char} :
    between? opening closing text = some content ↔
      text = .char opening :: (content ++ [.char closing]) := by
  constructor
  · intro found
    unfold between? at found
    split at found
    · rename_i first second rest
      split at found
      · rename_i ends
        obtain ⟨rfl, last⟩ := ends
        have whole := List.dropLast_append_getLast? _ last
        rw [← Option.some.inj found, whole]
      · cases found
    · cases found
  · rintro rfl
    cases content with
    | nil => simp [between?]
    | cons point rest =>
        have last : (point :: (rest ++ [CodePoint.char closing])).getLast? =
            some (.char closing) := by
          rw [← List.cons_append]
          exact List.getLast?_concat
        have dropped : (point :: (rest ++ [CodePoint.char closing])).dropLast = point :: rest := by
          rw [← List.cons_append]
          exact List.dropLast_concat
        simp [between?, last, dropped]

theorem isFlush_between {opening closing : Char} (opens : (CodePoint.char opening).isBlank = false)
    (closes : (CodePoint.char closing).isBlank = false) (content : Text) :
    IsFlush (.char opening :: (content ++ [.char closing])) where
  starts := by
    rintro point ⟨⟩
    exact opens
  ends := by
    intro point last
    rw [← List.cons_append, List.getLast?_concat] at last
    cases last
    exact closes

theorem unquoted_between {opening closing : Char}
    (pair : (opening, closing) ∈ [(backtick, backtick), (doubleQuote, doubleQuote), ('[', ']')])
    (content : Text) : unquoted (.char opening :: (content ++ [.char closing])) = content := by
  simp only [List.mem_cons, Prod.mk.injEq, List.not_mem_nil, or_false] at pair
  have flush : IsFlush (.char opening :: (content ++ [.char closing])) := by
    rcases pair with ⟨rfl, rfl⟩ | ⟨rfl, rfl⟩ | ⟨rfl, rfl⟩
    all_goals exact isFlush_between (by decide) (by decide) content
  have enclosed : between? opening closing (.char opening :: (content ++ [.char closing])) =
      some content := between?_eq_some_iff.mpr rfl
  have other {sign : Char} (differs : opening ≠ sign) :
      between? sign sign (.char opening :: (content ++ [.char closing])) = none := by
    apply between?_eq_none
    simpa using differs
  unfold unquoted
  rw [flush.trim_eq]
  dsimp only
  rcases pair with ⟨rfl, rfl⟩ | ⟨rfl, rfl⟩ | ⟨rfl, rfl⟩
  · rw [enclosed]
    rfl
  · rw [other (by decide), enclosed]
    rfl
  · rw [other (by decide), other (by decide), enclosed]
    rfl

theorem eq_of_unquoted_eq (flush : text.IsFlush) (same : unquoted text = content) :
    text = content ∨ text = content.quotedBy backtick ∨ text = content.quotedBy doubleQuote ∨
      text = .char '[' :: content ++ [.char ']'] := by
  unfold unquoted at same
  rw [flush.trim_eq] at same
  dsimp only at same
  cases backticks : between? backtick backtick text with
  | some inner =>
      rw [backticks] at same
      cases same
      exact Or.inr (Or.inl (between?_eq_some_iff.mp backticks))
  | none =>
      cases doubleQuotes : between? doubleQuote doubleQuote text with
      | some inner =>
          rw [backticks, doubleQuotes] at same
          cases same
          exact Or.inr (Or.inr (Or.inl (between?_eq_some_iff.mp doubleQuotes)))
      | none =>
          cases brackets : between? '[' ']' text with
          | some inner =>
              rw [backticks, doubleQuotes, brackets] at same
              cases same
              exact Or.inr (Or.inr (Or.inr (between?_eq_some_iff.mp brackets)))
          | none =>
              rw [backticks, doubleQuotes, brackets] at same
              exact Or.inl same

theorem mem_of_mem_unquoted {point : CodePoint} (member : point ∈ unquoted text) :
    point ∈ text := by
  obtain ⟨before, after, _blankBefore, _blankAfter, whole, flush⟩ := exists_trim text
  have trimmed : unquoted text = unquoted (trim text) := by
    unfold unquoted
    rw [flush.trim_eq]
  have within : point ∈ trim text := by
    rcases eq_of_unquoted_eq flush trimmed.symm with same | same | same | same
    all_goals
      rw [same]
      simp [quotedBy, member]
  rw [whole]
  simp [within]

theorem mem_unquoted {first last point : CodePoint} {middle : Text}
    (flush : IsFlush (first :: (middle ++ [last]))) (member : point ∈ middle) :
    point ∈ unquoted (first :: (middle ++ [last])) := by
  have within {opening closing : CodePoint}
      (whole : first :: (middle ++ [last]) =
        opening :: (unquoted (first :: (middle ++ [last])) ++ [closing])) :
      point ∈ unquoted (first :: (middle ++ [last])) := by
    rw [← (List.append_inj_left' (List.cons.inj whole).2 rfl)]
    exact member
  rcases eq_of_unquoted_eq flush rfl with same | same | same | same
  · rw [← same]
    simp [member]
  · exact within same
  · exact within same
  · exact within same

end Text

namespace Column

/-! ### Names and calls -/

/-- A text of letters, digits, underscores, dots and dollar signs. -/
structure IsName (name : Text) : Prop where
  nonempty : name ≠ []
  continues : ∀ point ∈ name, continuesName point = true

/-- What a call without alias is labelled by. -/
def collapsed (name : Text) : Text :=
  name ++ "(...)"

/-- A function's name, perhaps white space, and a text from an opening parenthesis to a closing
one. -/
def IsCallOf (name expression : Text) : Prop :=
  name.head?.any beginsName = true ∧
    ∃ gap inner : Text, gap.IsBlank ∧ expression = name ++ (gap ++ inner.enclosed)

/-- A call whose two parentheses belong together. -/
def IsSingleCallOf (name expression : Text) : Prop :=
  ∃ gap inner : Text, gap.IsBlank ∧ inner.IsBalanced ∧ expression = name ++ (gap ++ inner.enclosed)

/-- Identifiers with a collapsed call for a name. -/
def lookalikes (name : Text) : List Text :=
  [collapsed name, (collapsed name).quotedBy Text.backtick,
    (collapsed name).quotedBy Text.doubleQuote, .char '[' :: collapsed name ++ [.char ']']]

theorem continuesName_of_isBlank {point : CodePoint} (blank : point.isBlank = true) :
    continuesName point = false := by
  have dot : point ≠ .char '.' := by
    rintro rfl
    cases blank
  have dollar : point ≠ .char '$' := by
    rintro rfl
    cases blank
  simp [continuesName, CodePoint.isWord_of_isBlank blank, dot, dollar]

private theorem head?_gap_append_enclosed {gap : Text} (blank : gap.IsBlank) (inner : Text) :
    ∃ point rest, gap ++ inner.enclosed = point :: rest ∧ continuesName point = false := by
  cases gap with
  | nil => exact ⟨.char '(', _, rfl, by decide⟩
  | cons point rest => exact ⟨point, _, rfl, continuesName_of_isBlank blank.of_cons.1⟩

variable {name expression : Text}

namespace IsName

variable (isName : IsName name)
include isName

theorem isUnbroken : name.IsUnbroken := by
  intro point member
  cases blank : point.isBlank with
  | false => rfl
  | true =>
      have continues := isName.continues point member
      rw [continuesName_of_isBlank blank] at continues
      cases continues

private theorem isFlush_collapsed : (collapsed name).IsFlush := by
  have dots : Text.IsUnbroken "(...)" := by decide
  exact .of_unbroken (isName.isUnbroken.append dots)

private theorem not_mem {sign : Char} (plain : continuesName (.char sign) = false) :
    .char sign ∉ name := by
  intro member
  rw [isName.continues _ member] at plain
  cases plain

end IsName

theorem isCallOf_of_callee? (found : callee? expression = some name) :
    IsCallOf name expression := by
  cases expression with
  | nil => cases found
  | cons first rest =>
      simp only [callee?] at found
      split at found
      · rename_i begins
        split at found
        · rename_i inner opened
          split at found
          · rename_i last
            cases found
            obtain ⟨gap, blank, spaced⟩ := Text.exists_trimStart (rest.dropWhile continuesName)
            refine ⟨begins, gap, inner.dropLast, blank, ?_⟩
            have closed : inner.dropLast ++ [.char ')'] = inner :=
              List.dropLast_append_getLast? _ last
            have enclosed : Text.enclosed inner.dropLast = .char '(' :: inner := by
              rw [Text.enclosed, List.cons_append, closed]
            rw [enclosed, ← opened, ← spaced, List.cons_append, List.takeWhile_append_dropWhile]
          · cases found
        · cases found
      · cases found

theorem callee?_eq_some_iff (isName : IsName name) :
    callee? expression = some name ↔ IsCallOf name expression := by
  refine ⟨isCallOf_of_callee?, ?_⟩
  rintro ⟨begins, gap, inner, blank, rfl⟩
  obtain ⟨first, rest, rfl⟩ := List.exists_cons_of_ne_nil isName.nonempty
  obtain ⟨_, continues⟩ := List.forall_mem_cons.mp isName.continues
  obtain ⟨next, others, ended, stops⟩ := head?_gap_append_enclosed blank inner
  have begins : beginsName first = true := begins
  have taken : (rest ++ (gap ++ inner.enclosed)).takeWhile continuesName = rest := by
    rw [List.takeWhile_append_of_pos continues, ended, List.takeWhile_cons_of_neg (by simp [stops]),
      List.append_nil]
  have dropped : (rest ++ (gap ++ inner.enclosed)).dropWhile continuesName =
      gap ++ inner.enclosed := by
    rw [List.dropWhile_append_of_pos continues, ended, List.dropWhile_cons_of_neg (by simp [stops])]
  have opened : Text.trimStart (gap ++ inner.enclosed) = .char '(' :: (inner ++ [.char ')']) := by
    rw [Text.trimStart_append_of_blank blank]
    exact Text.trimStart_cons_of_unblank (by decide) _
  simp only [List.cons_append, callee?, begins, if_true, dropped, opened, taken,
    List.getLast?_concat]

private theorem IsCallOf.getLast?_eq (call : IsCallOf name expression) :
    expression.getLast? = some (.char ')') := by
  obtain ⟨_begins, gap, inner, _blank, rfl⟩ := call
  have whole : name ++ (gap ++ inner.enclosed) = (name ++ gap ++ .char '(' :: inner) ++ [.char ')'] := by
    simp [Text.enclosed]
  rw [whole, List.getLast?_concat]

theorem callee?_eq_none {last : CodePoint} (ends : expression.getLast? = some last)
    (other : last ≠ .char ')') : callee? expression = none := by
  cases called : callee? expression with
  | none => rfl
  | some name =>
      rw [(isCallOf_of_callee? called).getLast?_eq] at ends
      exact absurd (Option.some.inj ends).symm other

private theorem IsSingleCallOf.isCallOf (begins : name.head?.any beginsName = true)
    (single : IsSingleCallOf name expression) : IsCallOf name expression := by
  obtain ⟨gap, inner, blank, _balanced, whole⟩ := single
  exact ⟨begins, gap, inner, blank, whole⟩

private theorem callee?_collapsed (isName : IsName name) :
    callee? (collapsed name) = if name.head?.any beginsName then some name else none := by
  cases begins : name.head?.any beginsName with
  | true => exact (callee?_eq_some_iff isName).mpr ⟨begins, [], "...", by decide, rfl⟩
  | false =>
      obtain ⟨first, rest, rfl⟩ := List.exists_cons_of_ne_nil isName.nonempty
      have begins : beginsName first = false := by simpa using begins
      simp [collapsed, callee?, begins]

/-! ### Qualified names -/

theorem isQualifiedFrom_append_opening (continues : ∀ point ∈ name, continuesName point = true)
    (isFirst : Bool) {state : QualifiedState} (unquoted : state = .opening ∨ state = .bare)
    (rest : Text) : isQualifiedFrom isFirst state (name ++ .char '(' :: rest) = false := by
  induction name generalizing isFirst state with
  | nil =>
      have outside : continuesComponent isFirst (.char '(') = false := by
        cases isFirst <;> rfl
      rcases unquoted with rfl | rfl
      · simp [isQualifiedFrom, outside, Text.backtick, Text.doubleQuote]
      · simp [isQualifiedFrom, outside]
  | cons point others ih =>
      obtain ⟨first, later⟩ := List.forall_mem_cons.mp continues
      have noBacktick : point ≠ .char Text.backtick := by
        rintro rfl
        cases first
      have noDoubleQuote : point ≠ .char Text.doubleQuote := by
        rintro rfl
        cases first
      rcases unquoted with rfl | rfl
      · simp [isQualifiedFrom, noBacktick, noDoubleQuote, ih later isFirst (Or.inr rfl)]
      · simp [isQualifiedFrom, ih later false (Or.inl rfl), ih later isFirst (Or.inr rfl)]

theorem isQualifiedFrom_quoted {quote : Char} {content : Text} (plain : .char quote ∉ content)
    (filled : Bool) :
    isQualifiedFrom true (.quoted quote filled) (content ++ [.char quote]) = false := by
  induction content generalizing filled with
  | nil => simp [isQualifiedFrom]
  | cons point rest ih =>
      rw [List.mem_cons, not_or] at plain
      simp [isQualifiedFrom, Ne.symm plain.1, ih plain.2]

private theorem unquoted_afterLastDot_ne (name expression : Text) :
    Text.unquoted (afterLastDot expression) ≠ collapsed name := by
  intro same
  have dot : CodePoint.char '.' ∈ collapsed name := List.mem_append_right _ (by decide)
  rw [← same] at dot
  have within := List.mem_reverse.mp (Text.mem_of_mem_unquoted dot)
  have other := List.mem_takeWhile_imp within
  simp at other

/-! ### Labels -/

theorem unquoted_lookalike (isName : IsName name) (member : expression ∈ lookalikes name) :
    Text.unquoted expression = collapsed name := by
  simp only [lookalikes, List.mem_cons, List.not_mem_nil, or_false] at member
  rcases member with rfl | rfl | rfl | rfl
  · apply Text.unquoted_of_flush isName.isFlush_collapsed
    intro opening listed first
    rw [collapsed, List.head?_append_of_ne_nil _ isName.nonempty] at first
    have continues := isName.continues _ (List.mem_of_mem_head? first)
    have other : [Text.backtick, Text.doubleQuote, '['].all
        (fun sign => !continuesName (.char sign)) = true := by decide
    have plain := List.all_eq_true.mp other opening listed
    rw [continues] at plain
    cases plain
  all_goals exact Text.unquoted_between (by decide) _

private theorem callee?_lookalike (isName : IsName name) (member : expression ∈ lookalikes name)
    {other : Text}
    (called : callee? expression = some other) : other = name := by
  simp only [lookalikes, List.mem_cons, List.not_mem_nil, or_false] at member
  rcases member with rfl | rfl | rfl | rfl
  · rw [callee?_collapsed isName] at called
    split at called
    · exact (Option.some.inj called).symm
    · cases called
  all_goals cases called

private theorem isQualified_lookalike (isName : IsName name)
    (member : expression ∈ lookalikes name) :
    isQualified expression = false := by
  have plain {sign : Char} (stops : continuesName (.char sign) = false)
      (other : .char sign ∉ Text.ofString "(...)") : .char sign ∉ collapsed name := by
    intro within
    rcases List.mem_append.mp within with named | dots
    · exact isName.not_mem stops named
    · exact other dots
  simp only [lookalikes, List.mem_cons, List.not_mem_nil, or_false] at member
  rcases member with rfl | rfl | rfl | rfl
  · exact isQualifiedFrom_append_opening isName.continues true (Or.inl rfl) "...)"
  · exact isQualifiedFrom_quoted (plain (by decide) (by decide)) false
  · exact isQualifiedFrom_quoted (plain (by decide) (by decide)) false
  · rfl

private theorem label_eq_collapsed_iff (isName : IsName name) (flush : expression.IsFlush)
    (noAlias : alias? expression = none) :
    label expression = collapsed name ↔
      IsCallOf name expression ∨ expression ∈ lookalikes name := by
  unfold label
  rw [noAlias, ← callee?_eq_some_iff isName]
  dsimp only
  cases called : callee? expression with
  | some other =>
      dsimp only
      constructor
      · intro same
        exact Or.inl (congrArg some (List.append_cancel_right same))
      · rintro (same | listed)
        · rw [Option.some.inj same]
          rfl
        · rw [callee?_lookalike isName listed called]
          rfl
  | none =>
      dsimp only
      constructor
      · intro same
        right
        split at same
        · exact absurd same (unquoted_afterLastDot_ne name expression)
        · simpa [lookalikes] using Text.eq_of_unquoted_eq flush same
      · rintro (impossible | listed)
        · cases impossible
        · rw [isQualified_lookalike isName listed, unquoted_lookalike isName listed]
          rfl

end Column

open Column

private theorem Text.isFlush_of_mem_commaItems {text item : Text}
    (member : item ∈ commaItems text) :
    item.IsFlush := by
  obtain ⟨piece, _listed, rfl⟩ := List.mem_map.mp member
  exact isFlush_trim piece

namespace SelectOutline

/-- The expressions of the projection; each of them has a column. -/
def expressions (statement : Text) : List Text :=
  (Text.commaItems (projection statement)).filter fun item => !item.isEmpty

/-- An expression without alias is labelled by a collapsed call exactly when it is a name, perhaps
white space, and a text from an opening parenthesis to a closing one, or is itself an identifier
with that name.  The name has to begin with an ASCII letter or an underscore, and the two
parentheses need not belong together. -/
theorem columns_collapse (statement : Text) :
    List.Forall₂
      (fun expression column => alias? expression = none → ∀ name, IsName name →
        (column = collapsed name ↔ IsCallOf name expression ∨ expression ∈ lookalikes name))
      (expressions statement) (ofStatement statement).columns := by
  rw [columns_eq]
  change List.Forall₂ _ (expressions statement) ((expressions statement).map label)
  rw [List.forall₂_map_right_iff, List.forall₂_same]
  intro expression member noAlias name isName
  have flush := Text.isFlush_of_mem_commaItems (List.mem_filter.mp member).1
  exact label_eq_collapsed_iff isName flush noAlias

theorem columns_collapse_spaced :
    (ofStatement "SELECT UPPER (name) FROM t").columns = [collapsed "UPPER"] := by
  have listed : expressions "SELECT UPPER (name) FROM t" = ["UPPER (name)"] := by decide +kernel
  have each := columns_collapse "SELECT UPPER (name) FROM t"
  rw [listed] at each
  generalize (ofStatement "SELECT UPPER (name) FROM t").columns = columns at each ⊢
  cases each with
  | @cons _ column _ others first nothing =>
      cases nothing
      have noAlias : alias? "UPPER (name)" = none := by
        apply alias?_eq_none
        exact lacksWord_of_first?_eq_none Text.isKeyword_as (by decide +kernel)
      have isName : IsName "UPPER" := ⟨by decide, by decide⟩
      have single : IsSingleCallOf "UPPER" "UPPER (name)" :=
        ⟨" ", "name", by decide, by decide, by decide⟩
      have same := (first noAlias "UPPER" isName).mpr (Or.inl (single.isCallOf (by decide)))
      rw [same]

/-- A sum of two calls is no single call, but is labelled by the first one. -/
theorem columns_of_sum :
    expressions "SELECT COUNT(a) + SUM(b) FROM t" = ["COUNT(a) + SUM(b)"] ∧
      Text.LacksWord "COUNT(a) + SUM(b)" "AS" ∧
      ¬IsSingleCallOf "COUNT" "COUNT(a) + SUM(b)" ∧
      (ofStatement "SELECT COUNT(a) + SUM(b) FROM t").columns = [collapsed "COUNT"] := by
  refine ⟨by decide +kernel, ?_, ?_, by decide +kernel⟩
  · exact lacksWord_of_first?_eq_none Text.isKeyword_as (by decide +kernel)
  · rintro ⟨gap, inner, blank, balanced, whole⟩
    have split : Text.ofString "COUNT(a) + SUM(b)" =
        Text.ofString "COUNT" ++ Text.enclosed "a) + SUM(b" := by decide
    have rest : Text.enclosed "a) + SUM(b" = gap ++ inner.enclosed :=
      List.append_cancel_left (split.symm.trans whole)
    cases gap with
    | cons point others =>
        have opening := (List.cons.inj rest).1
        have isBlank := blank.of_cons.1
        rw [← opening] at isBlank
        cases isBlank
    | nil =>
        have content : Text.ofString "a) + SUM(b" = inner :=
          List.append_cancel_right (List.cons.inj rest).2
        rw [← content] at balanced
        exact absurd balanced (by decide)

end SelectOutline
end PooledQuery
