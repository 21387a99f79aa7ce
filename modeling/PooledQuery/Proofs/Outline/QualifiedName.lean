/-
Qualified names.

A qualified name is a chain of at least two components joined by dots, each of them bare or in
quotes.  As a column it is labelled by what follows its last dot.  That is the last component
unless a dot is between the quotes of that component: then the label begins within the quotes and
keeps the closing one.
-/
import PooledQuery.Proofs.Outline.ListedSelect
import PooledQuery.Proofs.Outline.QuotedName

namespace PooledQuery

open Keyword

/-- A name without quotes: letters, digits, underscores and dollar signs. -/
structure BareName where
  text : Text
  nonempty : text ≠ []
  continues : ∀ point ∈ text, Column.continuesComponent true point = true

namespace BareName

variable (name : BareName)

theorem ne_of_mem {point sign : CodePoint} (member : point ∈ name.text)
    (stops : Column.continuesComponent true sign = false) : point ≠ sign := by
  rintro rfl
  rw [name.continues point member] at stops
  cases stops

theorem isUnbroken : name.text.IsUnbroken := by
  have isName : Column.IsName name.text := by
    refine ⟨name.nonempty, fun point member => ?_⟩
    have within := name.continues point member
    simp only [Column.continuesComponent, Bool.not_true, Bool.false_and, Bool.or_false,
      Bool.or_eq_true] at within
    rcases within with word | dollar
    · simp [Column.continuesName, word]
    · simp [Column.continuesName, dollar]
  exact isName.isUnbroken

theorem skips_comma : Skips (mark ',') name.text where
  balanced := Nesting.balancedFrom_of_inert fun point member =>
    CodePoint.isInert_of_class (by decide) (name.continues point member)
  passes := passes_mark_of_not_mem fun member => name.ne_of_mem member (by decide) rfl

theorem unquoted_text : Text.unquoted name.text = name.text := by
  apply Text.unquoted_of_flush (.of_unbroken name.isUnbroken)
  intro opening listed first
  have stops : [Text.backtick, Text.doubleQuote, '['].all
      (fun sign => !Column.continuesComponent true (.char sign)) = true := by decide
  have other := List.all_eq_true.mp stops opening listed
  exact name.ne_of_mem (List.mem_of_mem_head? first) (by simpa using other) rfl

end BareName

inductive NameComponent where
  | bare (name : BareName)
  | quoted (name : QuotedName) (nonempty : name.content ≠ []) (unbroken : name.content.IsUnbroken)

namespace NameComponent

def text : NameComponent → Text
  | bare name => name.text
  | quoted name _ _ => name.text

/-- The component without quotes. -/
def content : NameComponent → Text
  | bare name => name.text
  | quoted name _ _ => name.content

end NameComponent

/-- At least two components. -/
structure QualifiedName where
  first : NameComponent
  middle : List NameComponent
  last : NameComponent

namespace QualifiedName

def text (name : QualifiedName) : Text :=
  Text.joined [.char '.'] ((name.first :: (name.middle ++ [name.last])).map NameComponent.text)

variable (name : QualifiedName)

theorem text_eq : name.text = name.first.text ++
    (name.middle ++ [name.last]).flatMap fun component => .char '.' :: component.text := by
  rw [text, List.map_cons, Text.joined_cons, List.flatMap_map]
  rfl

private theorem exists_front : ∃ front, name.text = front ++ .char '.' :: name.last.text := by
  refine ⟨name.first.text ++
    name.middle.flatMap fun component => .char '.' :: component.text, ?_⟩
  rw [text_eq, List.flatMap_append, List.flatMap_singleton, List.append_assoc]

end QualifiedName

/-! ### Reading a chain -/

namespace Column

variable {point : CodePoint}

theorem continuesComponent_of_first (continues : continuesComponent true point = true)
    (isFirst : Bool) : continuesComponent isFirst point = true := by
  simp only [continuesComponent, Bool.not_true, Bool.false_and, Bool.or_false] at continues
  simp [continuesComponent, continues]

private theorem isQualifiedFrom_bare (name : BareName) {text : Text}
    (part : ∀ point ∈ text, point ∈ name.text)
    (isFirst : Bool) (rest : Text) :
    isQualifiedFrom isFirst .bare (text ++ rest) = isQualifiedFrom isFirst .bare rest := by
  induction text with
  | nil => rfl
  | cons point others ih =>
      obtain ⟨first, later⟩ := List.forall_mem_cons.mp part
      have noDot : point ≠ .char '.' := name.ne_of_mem first (by decide)
      have continues := continuesComponent_of_first (name.continues point first) isFirst
      simp [isQualifiedFrom, noDot, continues, ih later]

private theorem isQualifiedFrom_within (name : QuotedName) {content : Text}
    (plain : .char name.quote ∉ content) (isFirst : Bool) (rest : Text) :
    isQualifiedFrom isFirst (.quoted name.quote true) (content ++ .char name.quote :: rest) =
      isQualifiedFrom isFirst .closed rest := by
  induction content with
  | nil => simp [isQualifiedFrom]
  | cons point others ih =>
      rw [List.mem_cons, not_or] at plain
      simp [isQualifiedFrom, Ne.symm plain.1, ih plain.2]

/-- How far the reading has come after a component. -/
def afterComponent : NameComponent → QualifiedState
  | .bare .. => .bare
  | .quoted .. => .closed

theorem isQualifiedFrom_component (component : NameComponent) (isFirst : Bool) (rest : Text) :
    isQualifiedFrom isFirst .opening (component.text ++ rest) =
      isQualifiedFrom isFirst (afterComponent component) rest := by
  cases component with
  | bare name =>
      obtain ⟨point, others, whole⟩ := List.exists_cons_of_ne_nil name.nonempty
      have part : ∀ other ∈ point :: others, other ∈ name.text := by
        rw [whole]
        exact fun _other member => member
      obtain ⟨first, later⟩ := List.forall_mem_cons.mp part
      have noBacktick : point ≠ .char Text.backtick := name.ne_of_mem first (by decide)
      have noDoubleQuote : point ≠ .char Text.doubleQuote := name.ne_of_mem first (by decide)
      have continues := continuesComponent_of_first (name.continues point first) isFirst
      simp [NameComponent.text, afterComponent, whole, isQualifiedFrom, noBacktick, noDoubleQuote,
        continues, isQualifiedFrom_bare name later]
  | quoted name nonempty unbroken =>
      obtain ⟨point, others, content⟩ := List.exists_cons_of_ne_nil nonempty
      have plain := name.noQuote
      rw [content, List.mem_cons, not_or] at plain
      have opened : isQualifiedFrom isFirst .opening (name.text ++ rest) =
          isQualifiedFrom isFirst (.quoted name.quote false)
            (point :: (others ++ .char name.quote :: rest)) := by
        rw [name.text_eq, content]
        rcases name.quote_cases with same | same
        · simp [same, isQualifiedFrom]
        · simp [same, isQualifiedFrom, Text.backtick, Text.doubleQuote]
      have filled : isQualifiedFrom isFirst (.quoted name.quote false)
          (point :: (others ++ .char name.quote :: rest)) =
            isQualifiedFrom isFirst (.quoted name.quote true)
              (others ++ .char name.quote :: rest) := by
        rw [isQualifiedFrom]
        simp [Ne.symm plain.1]
      exact opened.trans (filled.trans (isQualifiedFrom_within name plain.2 isFirst rest))

private theorem isQualifiedFrom_others (component : NameComponent) (others : List NameComponent)
    (isFirst : Bool) :
    isQualifiedFrom isFirst (afterComponent component)
      (others.flatMap fun other => .char '.' :: other.text) = (!isFirst || !others.isEmpty) := by
  induction others generalizing component isFirst with
  | nil => cases component <;> simp [afterComponent, isQualifiedFrom]
  | cons next more ih =>
      have dot (rest : Text) : isQualifiedFrom isFirst (afterComponent component)
          (.char '.' :: rest) = isQualifiedFrom false .opening rest := by
        cases component <;> simp [afterComponent, isQualifiedFrom]
      rw [List.flatMap_cons, List.cons_append, dot, isQualifiedFrom_component, ih]
      simp

theorem afterLastDot_append (front rest : Text) :
    afterLastDot (front ++ .char '.' :: rest) = afterLastDot rest := by
  unfold afterLastDot
  rw [List.reverse_append, List.reverse_cons, List.append_assoc, List.singleton_append,
    List.takeWhile_append]
  split
  · rename_i whole
    rw [List.takeWhile_cons_of_neg (by simp), List.append_nil]
    rw [(List.takeWhile_prefix _).eq_of_length whole]
  · rfl

theorem afterLastDot_of_not_mem {text : Text} (plain : .char '.' ∉ text) :
    afterLastDot text = text := by
  have kept : ∀ point ∈ text.reverse, (point != .char '.') = true := by
    intro point member
    have within := List.mem_reverse.mp member
    simp only [bne_iff_ne, ne_eq]
    rintro rfl
    exact plain within
  rw [afterLastDot, List.takeWhile_eq_self_iff.mpr kept, List.reverse_reverse]

end Column

/-! ### The last component -/

namespace QuotedName

variable (name : QuotedName)

private theorem afterLastDot_text (dotted : .char '.' ∈ name.content) :
    Column.afterLastDot name.text = Column.afterLastDot name.content ++ [.char name.quote] := by
  obtain ⟨front, rest, content⟩ := List.append_of_mem dotted
  have whole : name.text = (.char name.quote :: front) ++ .char '.' :: (rest ++ [.char name.quote]) := by
    rw [name.text_eq, content]
    simp
  have noDot : CodePoint.char name.quote ≠ .char '.' := name.char_ne (by decide)
  rw [whole, content, Column.afterLastDot_append, Column.afterLastDot_append]
  simp [Column.afterLastDot, noDot]

private theorem unquoted_closing {rest : Text} (plain : .char name.quote ∉ rest)
    (unbroken : rest.IsUnbroken) :
    Text.unquoted (rest ++ [.char name.quote]) = rest ++ [.char name.quote] := by
  have flush : Text.IsFlush (rest ++ [.char name.quote]) := by
    apply Text.IsFlush.of_unbroken
    exact unbroken.append (List.forall_mem_singleton.mpr name.unblank)
  have ends {opening closing : Char} {content : Text}
      (whole : rest ++ [.char name.quote] = .char opening :: content ++ [.char closing]) :
      rest = .char opening :: content ∧ name.quote = closing := by
    have parts := List.append_inj' whole rfl
    simpa using parts
  rcases Text.eq_of_unquoted_eq flush rfl with same | same | same | same
  · exact same.symm
  · obtain ⟨opened, closed⟩ := ends same
    exact absurd (by rw [opened, closed]; exact List.mem_cons_self) plain
  · obtain ⟨opened, closed⟩ := ends same
    exact absurd (by rw [opened, closed]; exact List.mem_cons_self) plain
  · obtain ⟨_opened, closed⟩ := ends same
    have delimits := name.delimits
    rw [closed] at delimits
    exact absurd delimits (by decide)

end QuotedName

namespace NameComponent

variable (component : NameComponent)

theorem ne_nil : component.text ≠ [] := by
  cases component with
  | bare name => exact name.nonempty
  | quoted name nonempty unbroken => exact name.ne_nil

theorem isUnbroken : component.text.IsUnbroken := by
  cases component with
  | bare name => exact name.isUnbroken
  | quoted name nonempty unbroken => exact name.isUnbroken_text_iff.mpr unbroken

theorem skips_comma : Skips (mark ',') component.text := by
  cases component with
  | bare name => exact name.skips_comma
  | quoted name nonempty unbroken => exact name.skips _

private theorem getLast?_ne {point : CodePoint} (last : component.text.getLast? = some point) :
    point ≠ .char ')' := by
  cases component with
  | bare name => exact name.ne_of_mem (List.mem_of_mem_getLast? last) (by decide)
  | quoted name nonempty unbroken =>
      rw [text, name.getLast?_text] at last
      rw [← Option.some.inj last]
      exact name.char_ne (by decide)

private theorem unquoted_of_plain {component : NameComponent}
    (plain : .char '.' ∉ component.content) :
    Text.unquoted (Column.afterLastDot component.text) = component.content := by
  cases component with
  | bare name =>
      change CodePoint.char '.' ∉ name.text at plain
      change Text.unquoted (Column.afterLastDot name.text) = name.text
      rw [Column.afterLastDot_of_not_mem plain, name.unquoted_text]
  | quoted name nonempty unbroken =>
      change CodePoint.char '.' ∉ name.content at plain
      have other : CodePoint.char name.quote ≠ .char '.' := name.char_ne (by decide)
      have noDot : CodePoint.char '.' ∉ name.text := by
        simpa [name.text_eq, Ne.symm other] using plain
      rw [text, Column.afterLastDot_of_not_mem noDot, name.unquoted_text]
      rfl

theorem unquoted_of_dotted {component : NameComponent} (dotted : .char '.' ∈ component.content) :
    Text.unquoted (Column.afterLastDot component.text) = Column.afterLastDot component.text ∧
      Column.afterLastDot component.text ≠ component.content := by
  cases component with
  | bare name => exact absurd rfl (name.ne_of_mem dotted (by decide))
  | quoted name nonempty unbroken =>
      have part {point : CodePoint} (member : point ∈ Column.afterLastDot name.content) :
          point ∈ name.content :=
        List.mem_reverse.mp ((List.takeWhile_prefix _).subset (List.mem_reverse.mp member))
      have plain : .char name.quote ∉ Column.afterLastDot name.content :=
        fun member => name.noQuote (part member)
      have closing := name.unquoted_closing plain fun point member => unbroken point (part member)
      rw [text, name.afterLastDot_text dotted]
      refine ⟨closing, ?_⟩
      intro same
      apply name.noQuote
      change _ = name.content at same
      rw [← same]
      simp

end NameComponent

namespace QualifiedName

variable (name : QualifiedName)

private theorem isQualified_text : Column.isQualified name.text = true := by
  rw [name.text_eq, Column.isQualified, Column.isQualifiedFrom_component,
    Column.isQualifiedFrom_others]
  simp

theorem isUnbroken : name.text.IsUnbroken := by
  rw [name.text_eq]
  apply name.first.isUnbroken.append
  intro point member
  obtain ⟨component, _listed, within⟩ := List.mem_flatMap.mp member
  rcases List.mem_cons.mp within with rfl | member
  · decide
  · exact component.isUnbroken point member

theorem label_text :
    Column.label name.text = Text.unquoted (Column.afterLastDot name.last.text) := by
  obtain ⟨front, whole⟩ := name.exists_front
  have noAlias : Column.alias? name.text = none := by
    unfold Column.alias?
    rw [Column.aliasTails_of_unbroken name.isUnbroken]
    rfl
  have noCall : Column.callee? name.text = none := by
    obtain ⟨last, ends⟩ := Option.isSome_iff_exists.mp (List.getLast?_isSome.mpr name.last.ne_nil)
    refine Column.callee?_eq_none ?_ (name.last.getLast?_ne ends)
    rw [whole, List.getLast?_append, List.getLast?_cons, ends]
    rfl
  unfold Column.label
  rw [noAlias, noCall, name.isQualified_text, whole, Column.afterLastDot_append]
  rfl

theorem skips_comma : Skips (mark ',') name.text := by
  have dot : Skips (mark ',') [.char '.'] := ⟨by decide, passes_mark_of_not_mem (by decide)⟩
  have dotted (components : List NameComponent) : Skips (mark ',')
      (components.flatMap fun component => .char '.' :: component.text) := by
    induction components with
    | nil => exact ⟨by decide, trivial⟩
    | cons component others ih => exact (dot.append_mark component.skips_comma).append_mark ih
  rw [name.text_eq]
  exact name.first.skips_comma.append_mark (dotted _)

/-- A qualified name as an item of a list.  Only a bare component can hold a FROM. -/
def item (before after : Margin) (noFrom : name.text.LacksWord "FROM") : SelectItem where
  text := before.text ++ name.text ++ after.text
  visible := by
    intro blank
    obtain ⟨point, rest, whole⟩ := List.exists_cons_of_ne_nil name.first.ne_nil
    have member : point ∈ name.text := by simp [name.text_eq, whole]
    have contrary := blank point (by simp [member])
    rw [name.isUnbroken point member] at contrary
    cases contrary
  balanced := (before.blank.isBalanced.append name.skips_comma.balanced).append
    after.blank.isBalanced
  noComma := by
    have blank (margin : Margin) : Skips (mark ',') margin.text :=
      ⟨margin.blank.isBalanced, Text.passes_comma_of_blank margin.blank⟩
    exact lacksComma_of_passes
      (((blank before).append_mark name.skips_comma).append_mark (blank after)).passes
  noFrom := by
    have isKeyword := Text.isKeyword_from
    have named := skips_of_lacksWord isKeyword name.skips_comma.balanced noFrom
    have begun := (skips_of_isBlank isKeyword before.blank).append isKeyword named
      (separated_after_blank before.blank)
    exact lacksWord_of_passes isKeyword (begun.append isKeyword
      (skips_of_isBlank isKeyword after.blank) (separated_of_blank after.blank)).passes

theorem line_item (before after : Margin) (noFrom : name.text.LacksWord "FROM") :
    (name.item before after noFrom).line = name.text := by
  have flush : name.text.IsFlush := .of_unbroken name.isUnbroken
  have trimmed : Text.trim (name.item before after noFrom).text = name.text :=
    flush.trim_between before.blank after.blank
  rw [SelectItem.line, trimmed, Text.squeezedFrom_of_unbroken name.isUnbroken]

end QualifiedName

namespace SelectOutline

/-- A qualified name is labelled by the content of its last component exactly if that has no dot.
Otherwise the label is what follows the dot, with the closing quote. -/
theorem columns_qualified (select : ListedSelect) (name : QualifiedName) {before after : Margin}
    (noFrom : name.text.LacksWord "FROM") {place : Nat}
    (listed : select.items[place]? = some (name.item before after noFrom)) :
    ∃ label, (ofStatement select.text).columns[place]? = some label ∧
      (label = name.last.content ↔ .char '.' ∉ name.last.content) ∧
      (.char '.' ∈ name.last.content → label = Column.afterLastDot name.last.text) := by
  refine ⟨Column.label name.text, ?_, ?_, ?_⟩
  · rw [select.columns_text, List.getElem?_map, listed, Option.map_some, name.line_item]
  · rw [name.label_text]
    constructor
    · intro same dotted
      obtain ⟨kept, differs⟩ := NameComponent.unquoted_of_dotted dotted
      rw [kept] at same
      exact differs same
    · exact NameComponent.unquoted_of_plain
  · intro dotted
    rw [name.label_text, (NameComponent.unquoted_of_dotted dotted).1]

/-- A bare component with a dollar sign, and the last component in double quotes. -/
theorem columns_qualified_quoted :
    (ofStatement "SELECT db.$u.\"order\", 1 FROM t").columns[0]? =
      some (Text.ofString "order") := by
  have lacks {text : Text} (nothing : first? (word "FROM") text = none) : text.LacksWord "FROM" :=
    lacksWord_of_first?_eq_none Text.isKeyword_from nothing
  let order : QuotedName :=
    { quote := Text.doubleQuote, delimits := by decide, content := "order", noEscape := by decide
      noQuote := by decide }
  let name : QualifiedName :=
    { first := .bare ⟨"db", by decide, by decide⟩, middle := [.bare ⟨"$u", by decide, by decide⟩]
      last := .quoted order (by decide) (by decide) }
  have noFrom : name.text.LacksWord "FROM" := lacks (by rfl)
  let item : SelectItem := name.item .empty .empty noFrom
  let number : SelectItem :=
    { text := " 1", visible := by decide, balanced := by decide, noComma := by decide
      noFrom := lacks (by decide) }
  have plain : ∀ word ∈ SelectHead.duplicateWords, ¬Text.LeadsWith "db.$u.\"order\"" word := by
    decide
  let select : ListedSelect :=
    { head := { before := .empty, keyword := ⟨"SELECT", by decide, by decide⟩, gap := .space
                duplicates := none }
      first := item, others := [number], plain := fun _nothing => plain
      after := .source .space ⟨"FROM", by decide, by decide⟩ " t" (by decide)
      kept := nofun }
  have listed : select.items[0]? = some item := rfl
  obtain ⟨label, labelled, same, _⟩ := columns_qualified select name noFrom listed
  have written : select.text = "SELECT db.$u.\"order\", 1 FROM t" := rfl
  have whole : label = "order" := same.mpr (by decide)
  rw [written, whole] at labelled
  exact labelled

/-- A dot between backticks, and a bare component that goes on with a keyword behind a dollar
sign. -/
theorem columns_of_dotted_component :
    ∃ dotted announced : QualifiedName,
      dotted.text = "u.`a.b`" ∧ dotted.last.content = "a.b" ∧
        (ofStatement "SELECT u.`a.b` FROM t").columns = ["b`"] ∧
      announced.text = "u.$from" ∧ announced.last.content = "$from" ∧
        (ofStatement "SELECT u.$from FROM t").columns = ["$"] := by
  let column : QuotedName :=
    { quote := Text.backtick, delimits := by decide, content := "a.b", noEscape := by decide
      noQuote := by decide }
  refine ⟨{ first := .bare ⟨"u", by decide, by decide⟩, middle := []
            last := .quoted column (by decide) (by decide) },
    { first := .bare ⟨"u", by decide, by decide⟩, middle := []
      last := .bare ⟨"$from", by decide, by decide⟩ }, rfl, rfl, ?_, rfl, rfl, ?_⟩
  all_goals decide +kernel

end SelectOutline
end PooledQuery
