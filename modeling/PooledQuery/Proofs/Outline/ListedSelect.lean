/-
Statements that list their columns.

A SELECT lists items up to FROM or to the end of the statement.  An item is any text without a
comma and without FROM outside parentheses and quotes.  Every item is a column of the outline,
labelled as it stands on one line, and the table is read from what follows FROM.
-/
import PooledQuery.Proofs.Outline.Opacity
import PooledQuery.Proofs.Outline.TableExpressions

namespace PooledQuery

open Keyword

/-! ### Leading words -/

namespace Text

/-- Whether a text begins with a word, in any letter case, that white space follows, or nothing.
White space in front of the word does not matter. -/
def LeadsWith (text word : Text) : Prop :=
  ∃ spelled rest, trimStart text = spelled ++ rest ∧ sameLetters word spelled = true ∧
    ∀ point ∈ rest.head?, point.isBlank = true

private theorem leadsWith_iff {text word : Text} :
    text.LeadsWith word ↔
      ∃ rest ∈ afterWord? word (trimStart text), ∀ point ∈ rest.head?, point.isBlank = true := by
  constructor
  · rintro ⟨spelled, rest, whole, same, follows⟩
    exact ⟨rest, afterWord?_eq_some_iff.mpr ⟨spelled, same, whole⟩, follows⟩
  · rintro ⟨rest, leads, follows⟩
    obtain ⟨spelled, same, whole⟩ := afterWord?_eq_some_iff.mp leads
    exact ⟨spelled, rest, whole, same, follows⟩

instance (text word : Text) : Decidable (text.LeadsWith word) :=
  decidable_of_iff _ leadsWith_iff.symm

/-- A word that leads a text on one line, with white space behind it, leads the text itself, as
long as no word goes on from the text into what follows. -/
theorem leadsWith_of_squeezedFrom {keyword text following rest : Text} (visible : ¬text.IsBlank)
    (outside : endsWord following.head? = false) (leading : Spelling keyword) (gap : Gap)
    (whole : squeezedFrom true (text ++ following) = leading.text ++ (gap.text ++ rest)) :
    text.LeadsWith keyword := by
  obtain ⟨before, after, blankBefore, blankAfter, parts, flush⟩ := exists_trim text
  have nonempty := trim_ne_nil visible
  have outside' : endsWord (after ++ following).head? = false := by
    by_cases nothing : after = []
    · rwa [nothing]
    · rw [endsWord_head?_append_of_ne_nil nothing]
      exact endsWord_head?_of_blank blankAfter
  have squeezed : squeezedFrom false (trim text) ++ squeezedFrom false (after ++ following) =
      leading.text ++ (gap.text ++ rest) := by
    have longer : text ++ following = before ++ (trim text ++ (after ++ following)) := by
      calc
        text ++ following = before ++ trim text ++ after ++ following :=
          congrArg (· ++ following) parts
        _ = before ++ (trim text ++ (after ++ following)) := by simp only [List.append_assoc]
    rw [← whole, longer, squeezedFrom_append_of_blank blankBefore,
      flush.squeezedFrom_append nonempty, flush.squeezedFrom_eq]
  -- The word does not go on behind the text, so white space or nothing follows it there.
  obtain ⟨more, core, follows⟩ : ∃ more, squeezedFrom false (trim text) = leading.text ++ more ∧
      ∀ point ∈ more.head?, point.isBlank = true := by
    rcases List.append_eq_append_iff.mp squeezed with ⟨extra, longer, split⟩ | ⟨more, core, split⟩
    · cases extra with
      | nil => exact ⟨[], by rw [longer]; simp, nofun⟩
      | cons point others =>
          have word := leading.isWord point (by simp [longer])
          rw [← endsWord_head?_squeezedFrom, split, List.cons_append, List.head?_cons,
            endsWord_some, word] at outside'
          cases outside'
    · refine ⟨more, core, ?_⟩
      obtain ⟨blank, others, opened⟩ := List.exists_cons_of_ne_nil gap.nonempty
      intro point first
      have same : (more ++ squeezedFrom false (after ++ following)).head? = some point := by
        rw [List.head?_append, first]
        rfl
      rw [← split, opened] at same
      exact gap.blank point (by rw [opened, Option.some.inj same]; exact List.mem_cons_self)
  obtain ⟨others, spelled, rfl⟩ := squeezedFrom_eq_append leading.isUnbroken core
  have trimmed : trimStart text = trim text ++ after := by
    calc
      trimStart text = trimStart (before ++ trim text ++ after) := congrArg trimStart parts
      _ = trim text ++ after := by
        rw [List.append_assoc, trimStart_append_of_blank blankBefore,
          flush.trimStart_append nonempty]
  refine ⟨leading.text, others ++ after, ?_, leading.same, ?_⟩
  · rw [trimmed, spelled, List.append_assoc]
  · intro point first
    cases others with
    | nil => exact blankAfter point (List.mem_of_mem_head? first)
    | cons next more =>
        have same : next = point := Option.some.inj first
        cases blank : next.isBlank with
        | true => rwa [← same]
        | false =>
            rw [squeezedFrom_cons_unblank blank] at follows
            rw [← follows next rfl, same]

end Text

/-! ### The beginning of a SELECT -/

/-- How a SELECT says what becomes of rows that occur more than once. -/
inductive DuplicateHandling where
  | removed (keyword : Spelling "DISTINCT")
  | kept (keyword : Spelling "ALL")

structure SelectHead where
  before : Margin
  keyword : Spelling "SELECT"
  gap : Gap
  duplicates : Option (DuplicateHandling × Gap)

namespace SelectHead

def duplicateText : Option (DuplicateHandling × Gap) → Text
  | none => []
  | some (.removed keyword, gap) => keyword.text ++ gap.text
  | some (.kept keyword, gap) => keyword.text ++ gap.text

def text (head : SelectHead) : Text :=
  head.before.text ++ (head.keyword.text ++ (head.gap.text ++ duplicateText head.duplicates))

def duplicateWords : List Text :=
  ["DISTINCT", "ALL"]

def squeezed (head : SelectHead) : SelectHead where
  before := .empty
  keyword := head.keyword
  gap := .space
  duplicates := head.duplicates.map fun handling => (handling.1, .space)

variable (head : SelectHead)

theorem squeezedFrom_append (rest : Text) :
    Text.squeezedFrom true (head.text ++ rest) =
      head.squeezed.text ++ Text.squeezedFrom true rest := by
  have handled {keyword : Text} (spelling : Spelling keyword) (gap : Gap) :
      Text.squeezedFrom true (spelling.text ++ (gap.text ++ rest)) =
        spelling.text ++ (Gap.space.text ++ Text.squeezedFrom true rest) := by
    rw [Text.squeezedFrom_append_of_unbroken spelling.ne_nil spelling.isUnbroken,
      Text.squeezedFrom_gap]
  have opened (following : Text) :
      Text.squeezedFrom true (head.before.text ++ (head.keyword.text ++
        (head.gap.text ++ following))) =
          head.keyword.text ++ (Gap.space.text ++ Text.squeezedFrom true following) := by
    rw [Text.squeezedFrom_append_of_blank head.before.blank,
      Text.squeezedFrom_append_of_unbroken head.keyword.ne_nil head.keyword.isUnbroken,
      Text.squeezedFrom_gap]
  unfold text squeezed
  simp only [List.append_assoc, opened]
  rcases head.duplicates with _ | ⟨⟨keyword⟩ | ⟨keyword⟩, gap⟩
  · rfl
  · simp [duplicateText, handled, Margin.empty]
  · simp [duplicateText, handled, Margin.empty]

theorem withoutSelect_append {rest : Text} (trimmed : Text.trimStart rest = rest)
    (plain : head.duplicates = none → ∀ word ∈ duplicateWords,
      SelectOutline.afterLeadingWord? word rest = none) :
    SelectOutline.withoutSelect (head.squeezed.text ++ rest) = rest := by
  have opened (following : Text) :
      SelectOutline.afterLeadingWord? "SELECT"
        (head.keyword.text ++ (Gap.space.text ++ following)) = some (Text.trimStart following) :=
    SelectOutline.afterLeadingWord?_append head.keyword .space following
  have flush {keyword : Text} (spelling : Spelling keyword) (following : Text) :
      Text.trimStart (spelling.text ++ following) = spelling.text ++ following :=
    (Text.IsFlush.of_unbroken spelling.isUnbroken).trimStart_append spelling.ne_nil _
  unfold text squeezed SelectOutline.withoutSelect
  simp only [Margin.empty, List.nil_append, List.append_assoc, opened]
  rcases duplicates : head.duplicates with _ | ⟨⟨keyword⟩ | ⟨keyword⟩, gap⟩
  · have distinct := plain duplicates "DISTINCT" (by decide)
    have every := plain duplicates "ALL" (by decide)
    simp only [duplicateText, Option.map_none, List.nil_append, trimmed, distinct, every]
    rfl
  · have found := SelectOutline.afterLeadingWord?_append keyword .space rest
    simp only [duplicateText, Option.map_some, List.append_assoc, flush, found, trimmed]
    rfl
  · have found := SelectOutline.afterLeadingWord?_append keyword .space rest
    have other : SelectOutline.afterLeadingWord? "DISTINCT"
        (keyword.text ++ (Gap.space.text ++ rest)) = none := by
      cases leads : SelectOutline.afterLeadingWord? "DISTINCT"
          (keyword.text ++ (Gap.space.text ++ rest)) with
      | none => rfl
      | some after =>
          obtain ⟨leading, gap, whole⟩ :=
            SelectOutline.exists_of_afterLeadingWord? Text.isKeyword_distinct leads
          have skips : Skips (word "DISTINCT") keyword.text := keyword.skips (by decide)
          have nothing : word "DISTINCT" none (keyword.text ++ (Gap.space.text ++ rest)) = none :=
            skips.word_eq_none Text.isKeyword_distinct (Or.inr (Gap.space.endsWord_head? rest))
              keyword.ne_nil keyword.isWord
          have recognized : word "DISTINCT" none (keyword.text ++ (Gap.space.text ++ rest)) =
              some (gap.text ++ after) :=
            word_eq_some_iff.mpr
              ⟨rfl, ⟨leading.text, leading.same, whole⟩, gap.endsWord_head? after⟩
          rw [nothing] at recognized
          cases recognized
    simp only [duplicateText, Option.map_some, List.append_assoc, flush, found, other, trimmed]
    rfl

private theorem body_append {rest : Text} (visible : SelectOutline.normalized rest ≠ [])
    (plain : head.duplicates = none → ∀ word ∈ duplicateWords,
      SelectOutline.afterLeadingWord? word (SelectOutline.normalized rest) = none) :
    SelectOutline.body (head.text ++ rest) = SelectOutline.normalized rest := by
  have line : SelectOutline.normalized (head.text ++ rest) =
      head.squeezed.text ++ SelectOutline.normalized rest := by
    rw [SelectOutline.normalized_eq] at visible
    rw [SelectOutline.normalized_eq, SelectOutline.normalized_eq, head.squeezedFrom_append,
      Text.withoutEnding_append_of_ne_nil visible]
  have trimmed : Text.trimStart (SelectOutline.normalized rest) = SelectOutline.normalized rest := by
    rw [SelectOutline.normalized_eq]
    exact Text.trimStart_of_isPrefix (Text.withoutEnding_isPrefix _)
      (Text.trimStart_squeezedFrom_true rest)
  have begun : SelectOutline.withoutTableExpressions
      (head.squeezed.text ++ SelectOutline.normalized rest) =
        head.squeezed.text ++ SelectOutline.normalized rest := by
    have select := SelectOutline.withoutTableExpressions_of_select head.keyword
      (Gap.space.endsWord_head?
        (duplicateText head.squeezed.duplicates ++ SelectOutline.normalized rest))
    simpa [text, squeezed, Margin.empty] using select
  unfold SelectOutline.body
  rw [line, begun, head.withoutSelect_append trimmed plain]

end SelectHead

/-! ### Items -/

structure SelectItem where
  text : Text
  visible : ¬text.IsBlank
  balanced : text.IsBalanced
  noComma : text.LacksComma
  noFrom : text.LacksWord "FROM"

namespace SelectItem

/-- The item on one line. -/
def line (item : SelectItem) : Text :=
  Text.squeezedFrom true (Text.trim item.text)

def listed (items : List SelectItem) : Text :=
  Text.joined [.char ','] (items.map text)

private theorem line_ne_nil (item : SelectItem) : item.line ≠ [] :=
  Text.squeezedFrom_trim_ne_nil item.visible

theorem skips_listed (items : List SelectItem) : Skips (word "FROM") (listed items) := by
  apply skips_joined Text.isKeyword_from (by decide) (by decide)
  rw [List.forall_mem_map]
  exact fun item _member => skips_of_lacksWord Text.isKeyword_from item.balanced item.noFrom

/-- The labels of the items of a list, whatever white space follows the list. -/
theorem labels_listed {items : List SelectItem} (nonempty : items ≠ []) {margin : Text}
    (blank : margin.IsBlank) :
    ((Text.commaItems (Text.squeezedFrom true (listed items ++ margin))).filter
      fun item => !item.isEmpty).map Column.label = items.map fun item => Column.label item.line := by
  have each : ∀ text ∈ items.map SelectItem.text, Skips (mark ',') text := by
    rw [List.forall_mem_map]
    exact fun item _member => ⟨item.balanced, passes_of_lacksComma item.noComma⟩
  have lines : Text.commaItems (Text.squeezedFrom true (listed items ++ margin)) =
      items.map line := by
    rw [Text.commaItems_squeezedFrom, listed,
      Text.commaItems_joined (by simpa using nonempty) each blank, List.map_map, List.map_map]
    rfl
  have visible : (items.map line).filter (fun item => !item.isEmpty) = items.map line := by
    rw [List.filter_eq_self, List.forall_mem_map]
    intro item _member
    simp [item.line_ne_nil]
  rw [lines, visible, List.map_map]
  rfl

end SelectItem

/-! ### Statements -/

/-- What follows the items: white space up to the end of the statement, or FROM and anything. -/
inductive SelectEnd where
  | statement (margin : Margin)
  | source (gap : Gap) (keyword : Spelling "FROM") (rest : Text)
      (ends : endsWord rest.head? = false)

namespace SelectEnd

def text : SelectEnd → Text
  | .statement margin => margin.text
  | .source gap keyword rest _ => gap.text ++ (keyword.text ++ rest)

end SelectEnd

structure ListedSelect where
  head : SelectHead
  first : SelectItem
  others : List SelectItem
  plain : head.duplicates = none → ∀ word ∈ SelectHead.duplicateWords, ¬first.text.LeadsWith word
  after : SelectEnd
  -- Without FROM the last item ends the statement, so its end must not be cut off.
  kept : ∀ margin, after = .statement margin →
    ∀ point ∈ (SelectItem.listed (first :: others)).getLast?,
      point.isBlank = false ∧ point ≠ CodePoint.char ';'

namespace ListedSelect

variable (select : ListedSelect)

def items : List SelectItem :=
  select.first :: select.others

def listed : Text :=
  SelectItem.listed select.items

def text : Text :=
  select.head.text ++ (select.listed ++ select.after.text)

theorem listed_eq :
    select.listed = select.first.text ++
      (select.others.map SelectItem.text).flatMap ([CodePoint.char ','] ++ ·) := by
  rw [listed, items, SelectItem.listed, List.map_cons, Text.joined_cons]

private theorem listed_ne_nil : select.listed ≠ [] := by
  have visible := select.first.visible
  rw [listed_eq]
  intro nothing
  rw [(List.append_eq_nil_iff.mp nothing).1] at visible
  exact visible (List.forall_mem_nil _)

private theorem endsWord_after_first :
    endsWord ((select.others.map SelectItem.text).flatMap ([CodePoint.char ','] ++ ·) ++
      select.after.text).head? = false := by
  cases select.others with
  | nil =>
      cases select.after with
      | statement margin => exact endsWord_head?_of_blank margin.blank
      | source gap keyword rest ends => exact gap.endsWord_head? _
  | cons item others => rfl

private theorem afterLeadingWord?_normalized (single : select.head.duplicates = none) {word : Text}
    (member : word ∈ SelectHead.duplicateWords) :
    SelectOutline.afterLeadingWord? word
      (SelectOutline.normalized (select.listed ++ select.after.text)) = none := by
  have isKeyword : word.IsKeyword := by
    have keywords : ∀ word ∈ SelectHead.duplicateWords, word.IsKeyword := by decide
    exact keywords word member
  cases leads : SelectOutline.afterLeadingWord? word
      (SelectOutline.normalized (select.listed ++ select.after.text)) with
  | none => rfl
  | some following =>
      obtain ⟨leading, gap, whole⟩ := SelectOutline.exists_of_afterLeadingWord? isKeyword leads
      -- What is cut off at the end of the line does not matter.
      rw [SelectOutline.normalized_eq] at whole
      obtain ⟨cut, line⟩ :=
        Text.withoutEnding_isPrefix (Text.squeezedFrom true (select.listed ++ select.after.text))
      rw [whole, List.append_assoc, List.append_assoc, select.listed_eq, List.append_assoc] at line
      have leadsWith := Text.leadsWith_of_squeezedFrom select.first.visible
        select.endsWord_after_first leading gap line.symm
      exact absurd leadsWith (select.plain single word member)

theorem body_text (visible :
      SelectOutline.normalized (select.listed ++ select.after.text) ≠ []) :
    SelectOutline.body select.text =
      SelectOutline.normalized (select.listed ++ select.after.text) :=
  select.head.body_append visible fun single _word member =>
    select.afterLeadingWord?_normalized single member

private theorem body_of_statement {margin : Margin} (ended : select.after = .statement margin) :
    SelectOutline.body select.text = Text.squeezedFrom true select.listed ∧
      first? (word "FROM") (SelectOutline.body select.text) = none := by
  obtain ⟨front, last, whole⟩ := (List.eq_nil_or_concat _).resolve_left select.listed_ne_nil
  rw [List.concat_eq_append] at whole
  obtain ⟨unblank, other⟩ := select.kept margin ended last (by
    change last ∈ select.listed.getLast?
    rw [whole]
    exact List.getLast?_concat)
  have line : SelectOutline.normalized (select.listed ++ select.after.text) =
      Text.squeezedFrom true select.listed := by
    have squeezed := Text.isBlank_squeezedFrom margin.blank false
    rw [ended, SelectEnd.text, SelectOutline.normalized_eq, whole, List.append_assoc,
      List.singleton_append, Text.squeezedFrom_append, Text.squeezedFrom_append,
      Text.squeezedFrom_cons_unblank unblank, Text.squeezedFrom_cons_unblank unblank,
      Text.withoutEnding_append_kept unblank other, Text.withoutEnding_of_blank squeezed]
    rfl
  have visible : Text.squeezedFrom true select.listed ≠ [] := by
    rw [whole, Text.squeezedFrom_append, Text.squeezedFrom_cons_unblank unblank]
    simp
  have body := select.body_text (by rwa [line])
  rw [line] at body
  have skips := (SelectItem.skips_listed select.items).squeezedFrom
    (word_ignoresSpacing Text.isKeyword_from) true
  rw [body]
  exact ⟨rfl, skips.passes.first?_eq_none⟩

theorem first?_of_source {gap : Gap} {keyword : Spelling "FROM"} {rest : Text}
    {ends : endsWord rest.head? = false} (sourced : select.after = .source gap keyword rest ends) :
    ∃ here, first? (word "FROM") (SelectOutline.body select.text) =
      some ⟨Text.squeezedFrom true (select.listed ++ gap.text), here,
        Text.withoutEnding (Text.squeezedFrom false rest)⟩ := by
  have line : SelectOutline.normalized (select.listed ++ select.after.text) =
      Text.squeezedFrom true (select.listed ++ gap.text) ++ (keyword.text ++
        Text.withoutEnding (Text.squeezedFrom false rest)) := by
    rw [sourced, SelectEnd.text, ← List.append_assoc]
    exact SelectOutline.normalized_append_word keyword.ne_nil keyword.isWord
  have body := select.body_text (by rw [line]; simp [keyword.ne_nil])
  have spaced : Skips (word "FROM") (select.listed ++ gap.text) :=
    (SelectItem.skips_listed select.items).append Text.isKeyword_from
      (skips_of_isBlank Text.isKeyword_from gap.blank) (gap.separated _)
  have skips := spaced.squeezedFrom (word_ignoresSpacing Text.isKeyword_from) true
  have begins : endsWord (Text.squeezedFrom true (select.listed ++ gap.text)).getLast? = false := by
    have same : endsWord (lastOr none (Text.squeezedFrom true (select.listed ++ gap.text))) =
        endsWord (lastOr none (select.listed ++ gap.text)) :=
      endsWord_lastOr_squeezedFrom rfl fun _passed => rfl
    simpa only [lastOr, Option.or_none, gap.endsWord_getLast?] using same
  have follows : endsWord (Text.withoutEnding (Text.squeezedFrom false rest)).head? = false :=
    endsWord_head?_of_isPrefix (Text.withoutEnding_isPrefix _)
      (by rwa [endsWord_head?_squeezedFrom])
  rw [body, line]
  exact ⟨_, skips.first?_append Text.isKeyword_from begins keyword.same follows⟩

/-- Every item is a column, labelled as it stands on one line. -/
theorem columns_text :
    (SelectOutline.ofStatement select.text).columns =
      select.items.map fun item => Column.label item.line := by
  have nonempty : select.items ≠ [] := List.cons_ne_nil _ _
  rw [SelectOutline.columns_eq, SelectOutline.projection]
  cases after : select.after with
  | statement margin =>
      obtain ⟨body, nothing⟩ := select.body_of_statement after
      have labels := SelectItem.labels_listed nonempty (List.forall_mem_nil _ : Text.IsBlank [])
      rw [List.append_nil] at labels
      rw [nothing, body]
      exact labels
  | source gap keyword rest ends =>
      obtain ⟨here, found⟩ := select.first?_of_source after
      rw [found]
      exact SelectItem.labels_listed nonempty gap.blank

/-- The table is read from what follows FROM, on one line. -/
theorem table_text {gap : Gap} {keyword : Spelling "FROM"} {rest : Text}
    {ends : endsWord rest.head? = false} (sourced : select.after = .source gap keyword rest ends) :
    (SelectOutline.ofStatement select.text).table =
      Source.table (Text.trim (Text.withoutEnding (Text.squeezedFrom false rest))) := by
  obtain ⟨here, found⟩ := select.first?_of_source sourced
  unfold SelectOutline.body at found
  unfold SelectOutline.ofStatement
  dsimp only
  rw [found]

end ListedSelect
end PooledQuery
