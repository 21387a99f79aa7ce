/-
Tables in quotes.

The table clause is cut off without regard to what is between quotes, but its first item is split
at white space wherever that stands.  A name in quotes is therefore the table's name exactly if it
has no white space.  Otherwise its second word is taken for the alias, or its third word if the
second one is the alias keyword, whatever alias follows.
-/
import PooledQuery.Proofs.Outline.Appended
import PooledQuery.Proofs.Outline.NamedSelect
import PooledQuery.Proofs.Outline.QualifiedName

namespace PooledQuery

open Keyword

/-- An alias that no clause begins with. -/
structure BareAlias where
  lead : AliasLead
  name : BareName
  noClause : ∀ keyword ∈ Source.clauseWords, name.text.LacksWord keyword
  noKeyword : lead.keyword = none → Text.upper name.text ≠ "AS"

/-- A table whose name is in quotes, perhaps with an alias. -/
structure QuotedTable where
  name : QuotedName
  renamed : Option BareAlias

namespace BareName

variable (name : BareName)

theorem endsPlain : name.text.EndsPlain := by
  obtain ⟨front, last, whole⟩ := (List.eq_nil_or_concat name.text).resolve_left name.nonempty
  rw [List.concat_eq_append] at whole
  have member : last ∈ name.text := by simp [whole]
  exact ⟨front, last, whole, name.isUnbroken last member, name.ne_of_mem member (by decide)⟩

end BareName

namespace QuotedName

variable (name : QuotedName)

theorem endsPlain : name.text.EndsPlain :=
  ⟨.char name.quote :: name.content, .char name.quote, rfl, name.unblank,
    name.char_ne (by decide)⟩

/-- The second word of the name on one line, or the third one if the second is the alias keyword,
without quotes around it. -/
def secondWord : Text :=
  Text.unquoted ((Source.withoutAliasKeyword (Text.words name.squeezed.text).tail).headD [])

theorem upper_ne {word : Text} (ends : word.getLast? = some (.char name.quote)) :
    Text.upper word ≠ "AS" := by
  obtain ⟨front, rfl⟩ := List.getLast?_eq_some_iff.mp ends
  have last : Text.upper (front ++ [.char name.quote]) = Text.upper front ++ [.char name.quote] := by
    rw [Text.upper, List.flatMap_append, List.flatMap_singleton]
    rcases name.quote_cases with same | same <;> rw [same] <;> rfl
  intro same
  have both := congrArg List.getLast? (last.symm.trans same)
  rw [List.getLast?_concat] at both
  exact name.char_ne (by decide) (Option.some.inj both)

theorem exists_secondWord (broken : ¬name.content.IsUnbroken) :
    ∃ first others second more, Text.words name.squeezed.text = first :: others ∧
      Source.withoutAliasKeyword others = second :: more ∧ second ∈ others := by
  obtain ⟨first, others, last, words, ends⟩ := name.words_of_broken broken
  have other := name.upper_ne ends
  cases others with
  | nil => exact ⟨first, [last], last, [], words, by simp [Source.withoutAliasKeyword, other], by simp⟩
  | cons next rest =>
      by_cases announced : Text.upper next = "AS"
      · obtain ⟨second, more, split⟩ := List.exists_cons_of_ne_nil
          (List.append_ne_nil_of_right_ne_nil rest (List.cons_ne_nil last []))
        refine ⟨first, next :: (rest ++ [last]), second, more, words, ?_, ?_⟩
        · rw [Source.withoutAliasKeyword, if_pos announced, split]
        · rw [split]
          simp
      · exact ⟨first, next :: (rest ++ [last]), next, rest ++ [last], words, if_neg announced,
          List.mem_cons_self⟩

end QuotedName

namespace BareAlias

def text (given : BareAlias) : Text :=
  given.lead.text ++ given.name.text

def squeezed (given : BareAlias) : BareAlias where
  lead := given.lead.squeezed
  name := given.name
  noClause := given.noClause
  noKeyword := fun unannounced => given.noKeyword (Option.map_eq_none_iff.mp unannounced)

variable (given : BareAlias)

theorem skips_comma : Skips (mark ',') given.text := by
  have lead : Skips (mark ',') given.lead.text := by
    constructor
    · apply Nesting.balancedFrom_of_inert
      intro point member
      rcases given.lead.mem_cases member with word | blank
      · exact CodePoint.isInert_of_isWord word
      · exact CodePoint.isInert_of_isBlank blank
    · apply passes_mark_of_not_mem
      intro member
      rcases given.lead.mem_cases member with word | blank
      · cases word
      · cases blank
  exact lead.append_mark given.name.skips_comma

theorem skips {keyword : Text} (member : keyword ∈ Source.clauseWords) :
    Skips (word keyword) given.text := by
  have isKeyword := Source.isKeyword_of_clauseWords keyword member
  have named := skips_of_lacksWord isKeyword given.name.skips_comma.balanced
    (given.noClause keyword member)
  exact (given.lead.skips member).append isKeyword named (given.lead.separated _)

theorem squeezedFrom_append (rest : Text) :
    Text.squeezedFrom false (given.text ++ rest) =
      given.squeezed.text ++ Text.squeezedFrom false rest := by
  rw [text, text, List.append_assoc, given.lead.squeezedFrom_append,
    Text.squeezedFrom_append_of_unbroken given.name.nonempty given.name.isUnbroken,
    List.append_assoc]
  rfl

def words : List Text :=
  given.lead.words ++ [given.name.text]

end BareAlias

namespace QuotedTable

variable (table : QuotedTable)

def aliasText : Text :=
  (table.renamed.map BareAlias.text).getD []

def text : Text :=
  table.name.text ++ table.aliasText

def squeezed : QuotedTable where
  name := table.name.squeezed
  renamed := table.renamed.map BareAlias.squeezed

/-- The alias, or what is between the quotes. -/
def label : Text :=
  (table.renamed.map fun given => given.name.text).getD table.name.content

theorem isItem : IsTableItem table.text := by
  unfold text aliasText
  cases table.renamed with
  | none =>
      rw [Option.map_none, Option.getD_none, List.append_nil]
      exact ⟨table.name.isFlush, table.name.endsPlain, table.name.skips _,
        fun _keyword _member => table.name.skips _⟩
  | some given =>
      rw [Option.map_some, Option.getD_some]
      refine ⟨?_, ?_, (table.name.skips _).append_mark given.skips_comma, ?_⟩
      · exact table.name.isFlush.around (.of_unbroken given.name.isUnbroken) table.name.ne_nil
          given.name.nonempty given.lead.text
      · exact (given.name.endsPlain.append _).append _
      · intro keyword member
        have opens : endsWord given.text.head? = false := by
          rw [BareAlias.text, endsWord_head?_append_of_ne_nil given.lead.ne_nil]
          exact given.lead.endsWord_head?
        exact (table.name.skips _).append (Source.isKeyword_of_clauseWords keyword member)
          (given.skips member) (Or.inr opens)

theorem squeezedFrom_append (afterBlank : Bool) (rest : Text) :
    Text.squeezedFrom afterBlank (table.text ++ rest) =
      table.squeezed.text ++ Text.squeezedFrom false rest := by
  unfold text aliasText
  rw [List.append_assoc, table.name.squeezedFrom_append, List.append_assoc]
  cases renamed : table.renamed with
  | none => simp [squeezed, renamed]
  | some given => simp [squeezed, renamed, given.squeezedFrom_append]

def aliasWords : List Text :=
  (table.renamed.map BareAlias.words).getD []

theorem words_text :
    Text.words table.text = Text.words table.name.text ++ table.aliasWords := by
  unfold text aliasText aliasWords
  cases table.renamed with
  | none => simp
  | some given =>
      exact given.lead.words_append table.name.text given.name.nonempty given.name.isUnbroken

theorem nameAndRest_text {first : Text} {others : List Text}
    (words : Text.words table.name.text = first :: others) :
    Source.nameAndRest table.text = (first, others ++ table.aliasWords) := by
  have whole := table.words_text
  have other : CodePoint.char table.name.quote ≠ .char '(' := table.name.char_ne (by decide)
  rw [text, table.name.text_eq, List.cons_append] at whole ⊢
  rw [Source.nameAndRest_cons other, whole, ← table.name.text_eq, words]
  rfl

private theorem itemName_of_unbroken (unbroken : table.name.content.IsUnbroken) :
    Source.itemName table.text = table.label := by
  have words := Text.words_of_unbroken table.name.ne_nil
    (table.name.isUnbroken_text_iff.mpr unbroken)
  unfold Source.itemName
  rw [table.nameAndRest_text words]
  unfold aliasWords label
  cases table.renamed with
  | none => exact table.name.unquoted_text
  | some given =>
      have alone := given.lead.withoutAliasKeyword_words given.noKeyword
      change Text.unquoted ((Source.withoutAliasKeyword
        (given.lead.words ++ [given.name.text])).headD _) = given.name.text
      rw [alone]
      exact given.name.unquoted_text

private theorem itemName_of_broken (broken : ¬table.name.content.IsUnbroken) :
    Source.itemName table.squeezed.text = table.name.secondWord := by
  obtain ⟨first, others, second, more, words, named, _member⟩ :=
    table.name.exists_secondWord broken
  unfold Source.itemName QuotedName.secondWord
  rw [table.squeezed.nameAndRest_text words, words]
  dsimp only [List.tail_cons]
  rw [Source.withoutAliasKeyword_append_of_cons named, named]
  rfl

private theorem itemName_squeezed :
    Source.itemName table.squeezed.text =
      if table.name.content.IsUnbroken then table.label else table.name.secondWord := by
  split
  · rename_i unbroken
    have content : table.name.squeezed.content = table.name.content :=
      Text.squeezedFrom_of_unbroken unbroken false
    rw [table.squeezed.itemName_of_unbroken (Text.isUnbroken_squeezedFrom_iff.mpr unbroken)]
    unfold label squeezed
    rw [content]
    cases table.renamed <;> rfl
  · rename_i broken
    exact table.itemName_of_broken broken

end QuotedTable

private theorem QuotedName.secondWord_ne (name : QuotedName) (broken : ¬name.content.IsUnbroken) :
    name.secondWord ≠ name.content := by
  obtain ⟨first, others, second, more, words, named, member⟩ := name.exists_secondWord broken
  have listed : second ∈ Text.words name.squeezed.text := by
    rw [words]
    exact List.mem_cons_of_mem _ member
  have whole : name.secondWord = Text.unquoted second := by
    rw [secondWord, words, List.tail_cons, named]
    rfl
  intro same
  apply broken
  intro point within
  rw [← same, whole] at within
  exact (Text.of_mem_words listed).2 point (Text.mem_of_mem_unquoted within)

namespace SelectOutline

/-- A table in quotes is known by its alias, or by what is between the quotes, if that has no white
space.  Otherwise its second word is taken for the alias. -/
theorem table_quoted (select : ListedSelect) (table : QuotedTable) (tail : SelectTail) {gap : Gap}
    {keyword : Spelling "FROM"} {margin : Margin}
    {ends : endsWord (margin.text ++ (table.text ++ tail.text)).head? = false}
    (sourced : select.after =
      .source gap keyword (margin.text ++ (table.text ++ tail.text)) ends) :
    (ofStatement select.text).table =
        (if table.name.content.IsUnbroken then table.label else table.name.secondWord) ∧
      (table.renamed = none →
        ((ofStatement select.text).table = table.name.content ↔
          table.name.content.IsUnbroken)) := by
  have read : (ofStatement select.text).table =
      if table.name.content.IsUnbroken then table.label else table.name.secondWord := by
    rw [select.table_text sourced, tail.table_line table.squeezed.isItem table.squeezedFrom_append
      margin.blank, table.itemName_squeezed]
  refine ⟨read, ?_⟩
  intro unnamed
  rw [read]
  by_cases unbroken : table.name.content.IsUnbroken
  · rw [if_pos unbroken, QuotedTable.label, unnamed]
    exact iff_of_true rfl unbroken
  · rw [if_neg unbroken]
    exact iff_of_false (table.name.secondWord_ne unbroken) unbroken

/-- A comma, a parenthesis and a keyword between double quotes, and an alias with a dollar sign in
front of a join. -/
theorem table_quoted_punctuated :
    (ofStatement "SELECT id FROM \"a,b(JOIN\" As $x left join u").table = "$x" := by
  let name : QuotedName :=
    { quote := Text.doubleQuote, delimits := by decide, content := "a,b(JOIN"
      noEscape := by decide, noQuote := by decide }
  have noClause : ∀ keyword ∈ Source.clauseWords, Text.LacksWord "$x" keyword := by
    intro keyword member
    apply lacksWord_of_first?_eq_none (Source.isKeyword_of_clauseWords keyword member)
    revert keyword
    decide
  let given : BareAlias :=
    { lead := ⟨.space, some (⟨"As", by decide, by decide⟩, .space)⟩
      name := ⟨"$x", by decide, by decide⟩, noClause := noClause, noKeyword := nofun }
  let table : QuotedTable := ⟨name, some given⟩
  have join : SpellsPhrase ["LEFT", "JOIN"] "left join" :=
    .more ⟨"left", by decide, by decide⟩ .space (.last ⟨"join", by decide, by decide⟩)
  let tail : SelectTail := .clause .space ["LEFT", "JOIN"] (by decide) "left join" join " u" rfl
  let item : SelectItem :=
    { text := "id", visible := by decide, balanced := by decide, noComma := by decide
      noFrom := lacksWord_of_first?_eq_none Text.isKeyword_from (by decide) }
  have plain : ∀ word ∈ SelectHead.duplicateWords, ¬Text.LeadsWith "id" word := by decide
  let select : ListedSelect :=
    { head := { before := .empty, keyword := ⟨"SELECT", by decide, by decide⟩, gap := .space
                duplicates := none }
      first := item, others := [], plain := fun _nothing => plain
      after := .source .space ⟨"FROM", by decide, by decide⟩
        (Gap.space.text ++ (table.text ++ tail.text)) rfl
      kept := nofun }
  let margin : Margin := ⟨Gap.space.text, Gap.space.blank⟩
  have sourced : select.after = .source .space ⟨"FROM", by decide, by decide⟩
      (margin.text ++ (table.text ++ tail.text)) rfl := rfl
  have written : select.text = "SELECT id FROM \"a,b(JOIN\" As $x left join u" := rfl
  have read := (table_quoted select table tail sourced).1
  have unbroken : Text.IsUnbroken "a,b(JOIN" := by decide
  rw [written] at read
  exact read.trans (if_pos unbroken)

/-- Two words between backticks, without and with an alias. -/
theorem table_of_spaced_name :
    (ofStatement "SELECT id FROM `my table`").table = "table`" ∧
      (ofStatement "SELECT id FROM `my table` AS x WHERE 1").table = "table`" := by
  decide +kernel

end SelectOutline
end PooledQuery
