/-
The table clause.

A table is named by identifiers with dots between them, perhaps with an alias.  The names have
none of the words that can begin a later clause, so the clause ends where such a phrase is
written, or with the statement.
-/
import PooledQuery.Proofs.Outline.Alias
import PooledQuery.Proofs.Outline.Items

namespace PooledQuery

open Keyword

/-! ### Phrases -/

/-- Spellings of a phrase: keywords in any letter case with any white space between them. -/
inductive SpellsPhrase : List Text → Text → Prop where
  | last {keyword : Text} (spelling : Spelling keyword) : SpellsPhrase [keyword] spelling.text
  | more {keyword next : Text} {words : List Text} {text : Text} (spelling : Spelling keyword)
      (gap : Gap) (others : SpellsPhrase (next :: words) text) :
      SpellsPhrase (keyword :: next :: words) (spelling.text ++ (gap.text ++ text))

namespace SpellsPhrase

variable {words : List Text} {text : Text}

theorem begins (spells : SpellsPhrase words text) :
    ∃ point rest, text = point :: rest ∧ point.isWord = true := by
  have leading {keyword : Text} (spelling : Spelling keyword) (after : Text) :
      ∃ point rest, spelling.text ++ after = point :: rest ∧ point.isWord = true := by
    obtain ⟨point, rest, spelled⟩ := List.exists_cons_of_ne_nil spelling.ne_nil
    have word := spelling.isWord point (by rw [spelled]; exact List.mem_cons_self)
    exact ⟨point, rest ++ after, by rw [spelled]; rfl, word⟩
  cases spells with
  | last spelling => simpa using leading spelling []
  | more spelling gap others => exact leading spelling _

theorem endsInWord (spells : SpellsPhrase words text) : text.EndsInWord := by
  induction spells with
  | last spelling => exact .of_isWord spelling.ne_nil spelling.isWord
  | more spelling gap others ih => exact (ih.append _).append _

theorem afterPhrase?_append (spells : SpellsPhrase words text) (rest : Text) :
    afterPhrase? words (text ++ rest) = some rest := by
  induction spells with
  | last spelling => exact Text.afterWord?_eq_some_iff.mpr ⟨spelling.text, spelling.same, rfl⟩
  | @more keyword next words text spelling gap others ih =>
      obtain ⟨point, after, whole, word⟩ := others.begins
      have trimmed : Text.trimStart (text ++ rest) = text ++ rest := by
        rw [whole]
        exact Text.trimStart_cons_of_unblank (CodePoint.isBlank_of_isWord word) _
      have leads : Text.afterWord? keyword (spelling.text ++ (gap.text ++ (text ++ rest))) =
          some (gap.text ++ (text ++ rest)) :=
        Text.afterWord?_eq_some_iff.mpr ⟨spelling.text, spelling.same, rfl⟩
      rw [List.append_assoc, List.append_assoc, afterPhrase?, leads]
      simp only [Option.bind_eq_bind, Option.bind_some, SelectOutline.afterBlanks?_append, trimmed]
      exact ih

theorem exists_squeezed (spells : SpellsPhrase words text) :
    ∃ line, SpellsPhrase words line ∧ ∀ afterBlank rest,
      Text.squeezedFrom afterBlank (text ++ rest) = line ++ Text.squeezedFrom false rest := by
  induction spells with
  | last spelling =>
      refine ⟨spelling.text, .last spelling, ?_⟩
      intro afterBlank rest
      exact Text.squeezedFrom_append_of_unbroken spelling.ne_nil spelling.isUnbroken afterBlank rest
  | more spelling gap others ih =>
      obtain ⟨line, spells, squeezed⟩ := ih
      refine ⟨_, .more spelling .space spells, ?_⟩
      intro afterBlank rest
      rw [List.append_assoc, List.append_assoc, Text.squeezedFrom_append_of_unbroken
        spelling.ne_nil spelling.isUnbroken, Text.squeezedFrom_gap, squeezed, List.append_assoc,
        List.append_assoc]

end SpellsPhrase

/-! ### The end of the clause -/

namespace Source

/-- The words that can begin a phrase after the table clause. -/
def clauseWords : List Text :=
  ["JOIN", "NATURAL", "INNER", "LEFT", "RIGHT", "FULL", "CROSS", "OUTER", "STRAIGHT_JOIN", "WHERE",
    "GROUP", "ORDER", "HAVING", "LIMIT", "UNION", "WINDOW", "FOR"]

theorem isKeyword_of_clauseWords : ∀ keyword ∈ clauseWords, keyword.IsKeyword := by
  decide

private theorem head_of_endPhrases :
    ∀ words ∈ endPhrases, words.head?.any (fun first => first ∈ clauseWords) = true := by
  decide +kernel

theorem word_of_phrase {first : Text} {others : List Text} {before : Option CodePoint}
    {text rest : Text} (found : phrase (first :: others) before text = some rest) :
    ∃ after, word first before text = some after := by
  obtain ⟨begins, follows, ends⟩ := phrase_eq_some_iff.mp found
  cases others with
  | nil => exact ⟨rest, found⟩
  | cons next more =>
      simp only [afterPhrase?, Option.bind_eq_bind, Option.bind_eq_some_iff] at follows
      obtain ⟨after, leads, following, opens, _later⟩ := follows
      obtain ⟨gap, rfl⟩ := SelectOutline.exists_of_afterBlanks? opens
      exact ⟨_, phrase_eq_some_iff.mpr ⟨begins, leads, gap.endsWord_head? following⟩⟩

variable {before : Option CodePoint} {nesting : Nesting} {text following : Text}

private theorem clauseEnd_eq_none
    (nothing : ∀ keyword ∈ clauseWords, word keyword before text = none) :
    clauseEnd before text = none := by
  unfold clauseEnd firstOf
  rw [List.findSome?_eq_none_iff]
  intro recognize member
  obtain ⟨words, listed, rfl⟩ := List.mem_map.mp member
  have head := head_of_endPhrases words listed
  cases words with
  | nil => cases head
  | cons first others =>
      have known : first ∈ clauseWords := by simpa using head
      cases found : phrase (first :: others) before text with
      | none => rfl
      | some rest =>
          obtain ⟨after, leads⟩ := word_of_phrase found
          rw [nothing first known] at leads
          cases leads

theorem passes_clauseEnd
    (each : ∀ keyword ∈ clauseWords, Passes (word keyword) following before nesting text) :
    Passes clauseEnd following before nesting text := by
  induction text generalizing before nesting with
  | nil => trivial
  | cons point rest ih =>
      constructor
      · intro atTop
        exact clauseEnd_eq_none fun keyword member => (each keyword member).1 atTop
      · exact ih fun keyword member => (each keyword member).2

private theorem clauseEnd_append {words : List Text} (member : words ∈ endPhrases)
    {spelled rest : Text}
    (spells : SpellsPhrase words spelled) (begins : endsWord before = false)
    (ends : endsWord rest.head? = false) :
    ∃ after, clauseEnd before (spelled ++ rest) = some after := by
  have found : phrase words before (spelled ++ rest) = some rest :=
    phrase_eq_some_iff.mpr ⟨begins, spells.afterPhrase?_append rest, ends⟩
  apply Option.isSome_iff_exists.mp
  unfold clauseEnd firstOf
  rw [List.findSome?_isSome_iff]
  exact ⟨phrase words, List.mem_map_of_mem member, by rw [found]; rfl⟩

end Source

/-! ### Items of the clause -/

/-- A text that names one table, whatever white space and clauses follow it. -/
structure IsTableItem (item : Text) : Prop where
  flush : item.IsFlush
  ends : item.EndsPlain
  single : Skips (mark ',') item
  unended : ∀ keyword ∈ Source.clauseWords, Skips (word keyword) item

namespace IsTableItem

variable {item : Text} (isItem : IsTableItem item)
include isItem

theorem firstTable_append {margin : Text} (blank : margin.IsBlank) :
    Source.firstTable (item ++ margin) = Source.itemName item := by
  have items : Text.commaItems (item ++ margin) = [item] := by
    have alone := Text.commaItems_joined (List.cons_ne_nil item [])
      (List.forall_mem_singleton.mpr isItem.single) blank
    simpa [Text.joined, isItem.flush.trim_eq] using alone
  unfold Source.firstTable
  rw [items]
  rfl

theorem passes_clauseEnd {margin following : Text} (blank : margin.IsBlank)
    (separated : Separated (item ++ margin) following) :
    Passes Source.clauseEnd following none .top (item ++ margin) := by
  apply Source.passes_clauseEnd
  intro keyword member
  have isKeyword := Source.isKeyword_of_clauseWords keyword member
  have skips := (isItem.unended keyword member).append isKeyword
    (skips_of_isBlank isKeyword blank) (separated_of_blank blank)
  exact skips.passes.extend isKeyword separated

theorem table_eq : Source.table item = Source.itemName item := by
  have nothing : first? Source.clauseEnd item = none := by
    have passes := isItem.passes_clauseEnd (List.forall_mem_nil _) (Or.inr rfl : Separated _ [])
    rw [List.append_nil] at passes
    exact passes.first?_eq_none
  have alone := isItem.firstTable_append (List.forall_mem_nil _)
  rw [List.append_nil] at alone
  rw [Source.table_eq, Source.tableClause, nothing]
  exact alone

theorem table_append_phrase {words : List Text} (member : words ∈ Source.endPhrases)
    {spelled rest : Text} (spells : SpellsPhrase words spelled) (gap : Gap)
    (ends : endsWord rest.head? = false) :
    Source.table (item ++ (gap.text ++ (spelled ++ rest))) = Source.itemName item := by
  have opened := gap.endsWord_getLast? item
  obtain ⟨after, found⟩ := Source.clauseEnd_append member spells opened ends
  obtain ⟨point, others, whole, word⟩ := spells.begins
  have balanced : (item ++ gap.text).IsBalanced :=
    isItem.single.balanced.append gap.blank.isBalanced
  have passes := isItem.passes_clauseEnd gap.blank (Or.inl opened : Separated _ (spelled ++ rest))
  rw [whole, List.cons_append] at found passes
  have search := passes.first?_append balanced (CodePoint.isInert_of_isWord word) found
  rw [Source.table_eq, Source.tableClause, ← List.append_assoc, whole, List.cons_append, search]
  exact isItem.firstTable_append gap.blank

end IsTableItem

/-! ### In front of an alias -/

/-- What stands between a table and its alias: white space, perhaps with the alias keyword. -/
structure AliasLead where
  gap : Gap
  keyword : Option (Spelling "AS" × Gap)

namespace AliasLead

def text (lead : AliasLead) : Text :=
  match lead.keyword with
  | none => lead.gap.text
  | some (keyword, margin) => lead.gap.text ++ (keyword.text ++ margin.text)

/-- The same on one line. -/
def squeezed (lead : AliasLead) : AliasLead where
  gap := .space
  keyword := lead.keyword.map fun written => (written.1, .space)

def words (lead : AliasLead) : List Text :=
  (lead.keyword.map fun written => written.1.text).toList

variable (lead : AliasLead)

theorem ne_nil : lead.text ≠ [] := by
  obtain ⟨gap, keyword⟩ := lead
  cases keyword with
  | none => exact gap.nonempty
  | some written => simp [text, gap.nonempty]

theorem separated (following : Text) : Separated lead.text following := by
  obtain ⟨gap, keyword⟩ := lead
  cases keyword with
  | none => exact separated_after_blank gap.blank
  | some written =>
      obtain ⟨keyword, margin⟩ := written
      exact ((separated_after_blank margin.blank).append_front margin.nonempty).append_front
        (by simp [margin.nonempty])

theorem endsWord_head? : endsWord lead.text.head? = false := by
  obtain ⟨gap, keyword⟩ := lead
  cases keyword with
  | none => exact endsWord_head?_of_blank gap.blank
  | some written => exact gap.endsWord_head? _

theorem mem_cases {point : CodePoint} (member : point ∈ lead.text) :
    point.isWord = true ∨ point.isBlank = true := by
  obtain ⟨gap, keyword⟩ := lead
  cases keyword with
  | none => exact Or.inr (gap.blank point member)
  | some written =>
      obtain ⟨keyword, margin⟩ := written
      rcases List.mem_append.mp member with before | after
      · exact Or.inr (gap.blank point before)
      · rcases List.mem_append.mp after with letter | between
        · exact Or.inl (keyword.isWord point letter)
        · exact Or.inr (margin.blank point between)

theorem squeezedFrom_append (rest : Text) :
    Text.squeezedFrom false (lead.text ++ rest) =
      lead.squeezed.text ++ Text.squeezedFrom true rest := by
  obtain ⟨gap, keyword⟩ := lead
  cases keyword with
  | none => simp [text, squeezed, Text.squeezedFrom_gap]
  | some written =>
      obtain ⟨keyword, margin⟩ := written
      have announced (text : Text) : Text.squeezedFrom true (keyword.text ++ text) =
          keyword.text ++ Text.squeezedFrom false text :=
        Text.squeezedFrom_append_of_unbroken keyword.ne_nil keyword.isUnbroken true text
      simp [text, squeezed, Text.squeezedFrom_gap, announced]

theorem words_append (name : Text) {given : Text} (nonempty : given ≠ [])
    (unbroken : given.IsUnbroken) :
    Text.words (name ++ (lead.text ++ given)) = Text.words name ++ (lead.words ++ [given]) := by
  have opened (gap : Gap) (front rest : Text) :
      Text.words (front ++ (gap.text ++ rest)) = Text.words front ++ Text.words rest := by
    obtain ⟨point, others, split⟩ := List.exists_cons_of_ne_nil gap.nonempty
    have blank := gap.blank
    rw [split] at blank
    obtain ⟨isBlank, more⟩ := blank.of_cons
    rw [split, List.cons_append, Text.words_append_blank isBlank, Text.words_append_of_blank more]
  have named := Text.words_of_unbroken nonempty unbroken
  obtain ⟨gap, keyword⟩ := lead
  cases keyword with
  | none => simp [text, words, opened, named]
  | some written =>
      obtain ⟨keyword, margin⟩ := written
      have announced := Text.words_of_unbroken keyword.ne_nil keyword.isUnbroken
      simp [text, words, opened, announced, named]

theorem withoutAliasKeyword_words {given : Text}
    (other : lead.keyword = none → Text.upper given ≠ "AS") :
    Source.withoutAliasKeyword (lead.words ++ [given]) = [given] := by
  obtain ⟨gap, keyword⟩ := lead
  cases keyword with
  | none => simp [words, Source.withoutAliasKeyword, other rfl]
  | some written =>
      obtain ⟨keyword, margin⟩ := written
      have upper : Text.upper keyword.text = "AS" :=
        Text.upper_of_sameLetters (by decide) keyword.same
      simp [words, Source.withoutAliasKeyword, upper]

theorem skips {keyword : Text} (member : keyword ∈ Source.clauseWords) :
    Skips (word keyword) lead.text := by
  have isKeyword := Source.isKeyword_of_clauseWords keyword member
  have blank (gap : Gap) : Skips (word keyword) gap.text := skips_of_isBlank isKeyword gap.blank
  have longer : keyword.length ≠ ("AS" : Text).length := by
    have long : ∀ keyword ∈ Source.clauseWords, keyword.length ≠ ("AS" : Text).length := by decide
    exact long keyword member
  obtain ⟨gap, written⟩ := lead
  cases written with
  | none => exact blank gap
  | some written =>
      obtain ⟨spelling, margin⟩ := written
      have announced : Skips (word keyword) (spelling.text ++ margin.text) :=
        (spelling.skips longer).append isKeyword (blank margin) (margin.separated _)
      exact (blank gap).append isKeyword announced (separated_after_blank gap.blank)

end AliasLead

/-! ### Named tables -/

/-- An ASCII identifier that is neither AS nor a word that can begin a later clause. -/
structure PlainName where
  text : Text
  nonempty : text ≠ []
  ascii : ∀ point ∈ text, point.isAsciiWord = true
  noAlias : Text.sameLetters "AS" text = false
  noClause : ∀ keyword ∈ Source.clauseWords, Text.sameLetters keyword text = false

/-- An alias after white space, perhaps with the alias keyword. -/
structure TableAlias where
  gap : Gap
  keyword : Option (Spelling "AS" × Gap)
  name : PlainName

/-- A table whose name has one or more components, perhaps with an alias. -/
structure NamedTable where
  first : PlainName
  others : List PlainName
  renamed : Option TableAlias

namespace PlainName

variable (name : PlainName)

theorem isWord : ∀ point ∈ name.text, point.isWord = true :=
  fun point member => CodePoint.isWord_of_isAsciiWord (name.ascii point member)

theorem isUnbroken : name.text.IsUnbroken :=
  Text.isUnbroken_of_isWord name.isWord

theorem skips {keyword : Text} (member : keyword ∈ Source.clauseWords) :
    Skips (word keyword) name.text :=
  skips_of_identifier name.isWord (name.noClause keyword member)

theorem upper_ne : Text.upper name.text ≠ "AS" := by
  intro same
  have letters := Text.sameLetters_upper name.ascii
  rw [same, name.noAlias] at letters
  cases letters

private theorem unquoted_eq : Text.unquoted name.text = name.text :=
  Text.unquoted_of_unbroken name.isUnbroken fun point first =>
    name.isWord point (List.mem_of_mem_head? first)

end PlainName

namespace TableAlias

/-- What stands before the alias: white space, perhaps with the alias keyword. -/
def lead (given : TableAlias) : Text :=
  match given.keyword with
  | none => given.gap.text
  | some (keyword, margin) => given.gap.text ++ (keyword.text ++ margin.text)

def text (given : TableAlias) : Text :=
  given.lead ++ given.name.text

/-- The alias on one line. -/
def squeezed (given : TableAlias) : TableAlias where
  gap := .space
  keyword := given.keyword.map fun written => (written.1, .space)
  name := given.name

variable (given : TableAlias)

/-- What stands before the alias, without it. -/
def spacing : AliasLead :=
  ⟨given.gap, given.keyword⟩

theorem lead_eq : given.lead = given.spacing.text := rfl

theorem squeezedFrom_append (rest : Text) :
    Text.squeezedFrom false (given.text ++ rest) =
      given.squeezed.text ++ Text.squeezedFrom false rest := by
  have squeezed : given.squeezed.lead = given.spacing.squeezed.text := rfl
  have named := Text.squeezedFrom_append_of_unbroken given.name.nonempty given.name.isUnbroken
    true rest
  rw [text, text, lead_eq, List.append_assoc, given.spacing.squeezedFrom_append, named, squeezed,
    List.append_assoc]
  rfl

/-- The words after the name of the table. -/
def words : List Text :=
  (given.keyword.map fun written => written.1.text).toList ++ [given.name.text]

theorem words_append {name : Text} (nonempty : name ≠ []) (unbroken : name.IsUnbroken) :
    Text.words (name ++ given.text) = name :: given.words := by
  have parts := given.spacing.words_append name given.name.nonempty given.name.isUnbroken
  rwa [Text.words_of_unbroken nonempty unbroken] at parts

theorem withoutAliasKeyword_words :
    Source.withoutAliasKeyword given.words = [given.name.text] :=
  given.spacing.withoutAliasKeyword_words fun _unannounced => given.name.upper_ne

end TableAlias

namespace NamedTable

/-- Components, each after a dot. -/
def dotted (names : List PlainName) : Text :=
  (names.map PlainName.text).flatMap ([.char '.'] ++ ·)

variable (table : NamedTable)

def name : Text :=
  Text.joined [.char '.'] ((table.first :: table.others).map PlainName.text)

def aliasText : Text :=
  (table.renamed.map TableAlias.text).getD []

def text : Text :=
  table.name ++ table.aliasText

/-- The name by which the columns of the table are qualified. -/
def label : Text :=
  (table.renamed.map fun given => given.name.text).getD table.name

/-- The table on one line. -/
def squeezed : NamedTable :=
  { table with renamed := table.renamed.map TableAlias.squeezed }

theorem name_eq : table.name = table.first.text ++ dotted table.others :=
  Text.joined_cons _ _ _

private theorem isUnbroken_dotted (names : List PlainName) : (dotted names).IsUnbroken := by
  induction names with
  | nil => exact fun point member => absurd member List.not_mem_nil
  | cons name others ih =>
      have dot : Text.IsUnbroken [.char '.'] := by decide
      exact (dot.append name.isUnbroken).append ih

theorem isUnbroken_name : table.name.IsUnbroken := by
  rw [name_eq]
  exact table.first.isUnbroken.append (isUnbroken_dotted _)

private theorem endsInWord_dotted (names : List PlainName) {front : Text}
    (ends : front.EndsInWord) :
    (front ++ dotted names).EndsInWord := by
  induction names generalizing front with
  | nil => simpa [dotted] using ends
  | cons name others ih =>
      have named := (Text.EndsInWord.of_isWord name.nonempty name.isWord).append (front ++ [.char '.'])
      simpa [dotted] using ih named

private theorem endsInWord_name : table.name.EndsInWord := by
  rw [name_eq]
  exact endsInWord_dotted _ (.of_isWord table.first.nonempty table.first.isWord)

theorem name_ne_nil : table.name ≠ [] := by
  simp [name_eq, table.first.nonempty]

theorem head?_isWord (rest : Text) : ∀ point ∈ (table.name ++ rest).head?, point.isWord = true := by
  intro point first
  obtain ⟨letter, letters, named⟩ := List.exists_cons_of_ne_nil table.first.nonempty
  rw [name_eq, named] at first
  have same : letter = point := Option.some.inj first
  exact table.first.isWord point (by rw [named, same]; exact List.mem_cons_self)

private theorem skips_name {keyword : Text} (member : keyword ∈ Source.clauseWords) :
    Skips (word keyword) table.name := by
  apply skips_joined (Source.isKeyword_of_clauseWords keyword member) (by decide) (by decide)
  rw [List.forall_mem_map]
  exact fun name _listed => name.skips member

theorem skips {keyword : Text} (member : keyword ∈ Source.clauseWords) :
    Skips (word keyword) table.text := by
  have isKeyword := Source.isKeyword_of_clauseWords keyword member
  have named := table.skips_name member
  unfold text aliasText
  cases table.renamed with
  | none => simpa using named
  | some given =>
      have announced := named.append isKeyword (given.spacing.skips member)
        (Or.inr given.spacing.endsWord_head?)
      have separated : Separated (table.name ++ given.lead) given.name.text :=
        (given.spacing.separated _).append_front given.spacing.ne_nil
      simpa [TableAlias.text, given.lead_eq] using
        announced.append isKeyword (given.name.skips member) separated

theorem mem_text_cases {point : CodePoint} (member : point ∈ table.text) :
    point.isWord = true ∨ point = .char '.' ∨ point.isBlank = true := by
  unfold text aliasText at member
  rw [name_eq] at member
  rcases List.mem_append.mp member with named | given
  · rcases List.mem_append.mp named with first | other
    · exact Or.inl (table.first.isWord point first)
    · obtain ⟨_, listed, within⟩ := List.mem_flatMap.mp other
      obtain ⟨name, _listed, rfl⟩ := List.mem_map.mp listed
      rcases List.mem_cons.mp within with dot | letter
      · exact Or.inr (Or.inl dot)
      · exact Or.inl (name.isWord point letter)
  · cases renamed : table.renamed with
    | none => simp [renamed] at given
    | some alias' =>
        rw [renamed] at given
        rcases List.mem_append.mp given with lead | letter
        · rcases alias'.spacing.mem_cases lead with word | blank
          · exact Or.inl word
          · exact Or.inr (Or.inr blank)
        · exact Or.inl (alias'.name.isWord point letter)

theorem skips_comma : Skips (mark ',') table.text := by
  constructor
  · apply Nesting.balancedFrom_of_inert
    intro point member
    rcases table.mem_text_cases member with word | rfl | blank
    · exact CodePoint.isInert_of_isWord word
    · decide
    · exact CodePoint.isInert_of_isBlank blank
  · apply passes_mark_of_not_mem
    intro member
    rcases table.mem_text_cases member with word | dot | blank
    · cases word
    · cases dot
    · cases blank

theorem endsInWord : table.text.EndsInWord := by
  unfold text aliasText
  cases table.renamed with
  | none => simpa using table.endsInWord_name
  | some given =>
      have named := Text.EndsInWord.of_isWord given.name.nonempty given.name.isWord
      exact (named.append _).append _

theorem isFlush : table.text.IsFlush := by
  constructor
  · intro point first
    exact CodePoint.isBlank_of_isWord (table.head?_isWord _ point first)
  · obtain ⟨front, last, whole, word⟩ := table.endsInWord
    intro point isLast
    rw [whole, List.getLast?_concat] at isLast
    rw [← Option.some.inj isLast]
    exact CodePoint.isBlank_of_isWord word

theorem squeezedFrom_append (afterBlank : Bool) (rest : Text) :
    Text.squeezedFrom afterBlank (table.text ++ rest) =
      table.squeezed.text ++ Text.squeezedFrom false rest := by
  have named : table.squeezed.name = table.name := rfl
  unfold text aliasText
  rw [named, List.append_assoc, Text.squeezedFrom_append_of_unbroken table.name_ne_nil
    table.isUnbroken_name, List.append_assoc]
  cases renamed : table.renamed with
  | none => simp [squeezed, renamed]
  | some given => simp [squeezed, renamed, given.squeezedFrom_append]

/-! ### The table of a clause -/

theorem words_text :
    Text.words table.text = table.name :: (table.renamed.map TableAlias.words).getD [] := by
  unfold text aliasText
  cases table.renamed with
  | none => simpa using Text.words_of_unbroken table.name_ne_nil table.isUnbroken_name
  | some given =>
      exact given.words_append table.name_ne_nil table.isUnbroken_name

theorem nameAndRest_text :
    Source.nameAndRest table.text =
      (table.name, (table.renamed.map TableAlias.words).getD []) := by
  obtain ⟨point, rest, whole⟩ := List.exists_cons_of_ne_nil table.name_ne_nil
  have word := table.head?_isWord [] point (by rw [whole]; rfl)
  have other : point ≠ .char '(' := by
    rintro rfl
    cases word
  have words := table.words_text
  rw [text, whole, List.cons_append] at words ⊢
  rw [Source.nameAndRest_cons other, words]

theorem isItem : IsTableItem table.text where
  flush := table.isFlush
  ends := table.endsInWord.endsPlain
  single := table.skips_comma
  unended := fun _keyword member => table.skips member

theorem itemName_text : Source.itemName table.text = table.label := by
  unfold Source.itemName label
  rw [table.nameAndRest_text]
  dsimp only
  cases table.renamed with
  | none =>
      change Text.unquoted table.name = table.name
      apply Text.unquoted_of_unbroken table.isUnbroken_name
      intro point first
      exact table.head?_isWord [] point (by rwa [List.append_nil])
  | some given =>
      simp [given.withoutAliasKeyword_words, given.name.unquoted_eq]

end NamedTable
end PooledQuery
