/-
Clauses at the end of a text.

No word and no phrase goes on from a text into a clause that follows after white space, as long as
the clause does not begin with a word that can go on with a phrase.  So what is found first in the
text is found first with the clause behind it as well, and where nothing is found in the text the
search goes on in the clause.
-/
import PooledQuery.Proofs.Outline.TableClause

namespace PooledQuery

open Keyword

namespace Text

variable {following : Text}

theorem afterWord?_append {keyword : Text}
    (letters : ∀ letter ∈ keyword, letter.isKeywordLetter = true)
    (outside : endsWord following.head? = false) (text : Text) :
    afterWord? keyword (text ++ following) = (afterWord? keyword text).map (· ++ following) := by
  induction keyword generalizing text with
  | nil => rfl
  | cons letter others ih =>
      obtain ⟨first, later⟩ := List.forall_mem_cons.mp letters
      cases text with
      | nil =>
          cases following with
          | nil => rfl
          | cons point rest =>
              have other : letter.sameLetter point = false := by
                cases same : letter.sameLetter point with
                | false => rfl
                | true =>
                    have word := CodePoint.sameLetter_isWord first same
                    rw [List.head?_cons, endsWord_some, word] at outside
                    cases outside
              simp [afterWord?, other]
      | cons point rest =>
          simp only [List.cons_append, afterWord?, ih later]
          split <;> rfl

end Text

/-- An occurrence in a text, as one in the text with something behind it. -/
def Occurrence.followedBy (found : Occurrence) (following : Text) : Occurrence :=
  { found with here := found.here ++ following, after := found.after ++ following }

/-- An occurrence in a text, as one in the text with something in front of it. -/
def Occurrence.precededBy (found : Occurrence) (front : Text) : Occurrence :=
  { found with before := front ++ found.before }

namespace Keyword

variable {recognize : Recognizer} {before : Option CodePoint} {nesting : Nesting}
  {text clause following : Text} {found : Occurrence}

theorem afterBlanks?_append_of_not_blank (visible : ¬text.IsBlank) (following : Text) :
    afterBlanks? (text ++ following) = (afterBlanks? text).map (· ++ following) := by
  cases text with
  | nil => exact absurd (List.forall_mem_nil _) visible
  | cons point rest =>
      cases blank : point.isBlank with
      | false => simp [afterBlanks?, blank]
      | true =>
          have visible' : ¬Text.IsBlank rest := fun others =>
            visible (List.forall_mem_cons.mpr ⟨blank, others⟩)
          simp [afterBlanks?, blank, Text.trimStart_append_of_not_blank visible']

theorem afterPhrase?_eq_none {first : Text} {others : List Text}
    (unread : Text.afterWord? first text = none) : afterPhrase? (first :: others) text = none := by
  cases others with
  | nil => exact unread
  | cons next more => simp [afterPhrase?, unread]

theorem afterPhrase?_append {words : List Text} (keywords : ∀ word ∈ words, word.IsKeyword)
    (starts : ∀ point ∈ clause.head?, point.isBlank = false)
    (unread : ∀ word ∈ words.tail, Text.afterWord? word clause = none) (gap : Gap) (text : Text) :
    afterPhrase? words (text ++ (gap.text ++ clause)) =
      (afterPhrase? words text).map (· ++ (gap.text ++ clause)) := by
  induction words generalizing text with
  | nil => rfl
  | cons first others ih =>
      obtain ⟨isKeyword, later⟩ := List.forall_mem_cons.mp keywords
      have leads := Text.afterWord?_append isKeyword.2 (gap.endsWord_head? clause) text
      cases others with
      | nil => exact leads
      | cons next more =>
          obtain ⟨unreadNext, unreadMore⟩ := List.forall_mem_cons.mp unread
          simp only [afterPhrase?, leads, Option.bind_eq_bind]
          cases Text.afterWord? first text with
          | none => rfl
          | some rest =>
              simp only [Option.map_some, Option.bind_some]
              by_cases blank : Text.IsBlank rest
              · -- Only the clause could go on with the phrase, since the text ends here.
                let between : Gap := ⟨rest ++ gap.text, by simp [gap.nonempty], blank.append gap.blank⟩
                have reached : afterBlanks? (rest ++ (gap.text ++ clause)) = some clause := by
                  have trimmed : Text.trimStart clause = clause := by
                    cases clause with
                    | nil => rfl
                    | cons point others => exact Text.trimStart_cons_of_unblank (starts point rfl) others
                  have spaced := SelectOutline.afterBlanks?_append between clause
                  rwa [trimmed, List.append_assoc] at spaced
                have ended : Text.afterWord? next [] = none := by
                  obtain ⟨letter, letters, spelled⟩ :=
                    List.exists_cons_of_ne_nil (later next List.mem_cons_self).1
                  rw [spelled]
                  rfl
                rw [reached, Option.bind_some, afterPhrase?_eq_none unreadNext]
                cases rest with
                | nil => rfl
                | cons point others =>
                    obtain ⟨isBlank, blanks⟩ := blank.of_cons
                    simp [afterBlanks?, isBlank, Text.trimStart_of_blank blanks,
                      afterPhrase?_eq_none ended]
              · rw [afterBlanks?_append_of_not_blank blank]
                cases afterBlanks? rest with
                | none => rfl
                | some following => exact ih later unreadMore following

/-- Whether a recognizer begins at no white space, sees of the code point before only whether a
word ends there, and does not go on from a text into a clause. -/
structure IgnoresClause (recognize : Recognizer) (clause : Text) : Prop where
  blank : ∀ before point rest, point.isBlank = true → recognize before (point :: rest) = none
  word : ∀ before other text, endsWord other = endsWord before →
    recognize other text = recognize before text
  appended : ∀ (gap : Gap) before text,
    recognize before (text ++ (gap.text ++ clause)) =
      (recognize before text).map (· ++ (gap.text ++ clause))

theorem phrase_ignoresClause {words : List Text} (nonempty : words ≠ [])
    (keywords : ∀ word ∈ words, word.IsKeyword)
    (starts : ∀ point ∈ clause.head?, point.isBlank = false)
    (unread : ∀ word ∈ words.tail, Text.afterWord? word clause = none) :
    IgnoresClause (phrase words) clause where
  blank := by
    intro before point rest blank
    obtain ⟨first, others, rfl⟩ := List.exists_cons_of_ne_nil nonempty
    cases found : phrase (first :: others) before (point :: rest) with
    | none => rfl
    | some after =>
        obtain ⟨_, leads⟩ := Source.word_of_phrase found
        have word := isWord_of_word (keywords first List.mem_cons_self) leads
        rw [CodePoint.isWord_of_isBlank blank] at word
        cases word
  word := by
    intro before other text same
    unfold phrase
    rw [same]
  appended := by
    intro gap before text
    apply @phrase_map before text (· ++ (gap.text ++ clause)) before words rfl
    · exact afterPhrase?_append keywords starts unread gap text
    · intro rest
      cases rest with
      | nil => exact gap.endsWord_head? clause
      | cons point others => rfl

theorem word_ignoresClause {keyword : Text} (isKeyword : keyword.IsKeyword)
    (starts : ∀ point ∈ clause.head?, point.isBlank = false) :
    IgnoresClause (word keyword) clause :=
  phrase_ignoresClause (List.cons_ne_nil _ _) (List.forall_mem_singleton.mpr isKeyword) starts
    (List.forall_mem_nil _)

theorem firstOf_ignoresClause {choices : List Recognizer}
    (each : ∀ recognize ∈ choices, IgnoresClause recognize clause) :
    IgnoresClause (firstOf choices) clause where
  blank := by
    intro before point rest blank
    unfold firstOf
    rw [List.findSome?_eq_none_iff]
    exact fun recognize listed => (each recognize listed).blank before point rest blank
  word := by
    intro before other text same
    have alike := @firstOf_map before text id other choices fun recognize listed => by
      rw [Option.map_id]
      exact (each recognize listed).word before other text same
    rwa [Option.map_id] at alike
  appended := by
    intro gap before text
    exact @firstOf_map before text (· ++ (gap.text ++ clause)) before choices fun recognize listed =>
      (each recognize listed).appended gap before text

private theorem mark_ignoresClause {sign : Char} (unblank : (CodePoint.char sign).isBlank = false)
    (clause : Text) : IgnoresClause (mark sign) clause where
  blank := by
    intro before point rest blank
    have other : point ≠ .char sign := by
      rintro rfl
      rw [unblank] at blank
      cases blank
    simp [mark, other]
  word := fun _ _ _ _ => rfl
  appended := by
    intro gap before text
    cases text with
    | nil =>
        obtain ⟨point, rest, opened⟩ := List.exists_cons_of_ne_nil gap.nonempty
        have blank := gap.blank point (by rw [opened]; exact List.mem_cons_self)
        have other : point ≠ .char sign := by
          rintro rfl
          rw [unblank] at blank
          cases blank
        simp [mark, opened, other]
    | cons point rest =>
        simp only [List.cons_append, mark]
        split <;> rfl

/-! ### The first place -/

theorem firstFrom_append_of_some
    (ignores : ∀ before text,
      recognize before (text ++ following) = (recognize before text).map (· ++ following))
    (first : firstFrom recognize before nesting text = some found) :
    firstFrom recognize before nesting (text ++ following) = some (found.followedBy following) := by
  induction text generalizing before nesting found with
  | nil => cases first
  | cons point rest ih =>
      have alike := ignores before (point :: rest)
      by_cases nothing : nesting.isTop point = true → recognize before (point :: rest) = none
      · have nothing' : nesting.isTop point = true →
            recognize before (point :: (rest ++ following)) = none := by
          intro atTop
          rw [nothing atTop] at alike
          exact alike
        rw [firstFrom_cons_of_none nothing] at first
        obtain ⟨later, search, rfl⟩ := Option.map_eq_some_iff.mp first
        rw [List.cons_append, firstFrom_cons_of_none nothing', ih search]
        rfl
      · obtain ⟨atTop, something⟩ := Classical.not_imp.mp nothing
        obtain ⟨after, here⟩ := Option.ne_none_iff_exists'.mp something
        rw [here] at alike
        rw [firstFrom_cons_of_some atTop here] at first
        cases first
        exact firstFrom_cons_of_some atTop alike

theorem Passes.followed
    (ignores : ∀ before text,
      recognize before (text ++ following) = (recognize before text).map (· ++ following))
    (passes : Passes recognize [] before nesting text) :
    Passes recognize following before nesting text := by
  induction text generalizing before nesting with
  | nil => trivial
  | cons point rest ih =>
      obtain ⟨here, later⟩ := passes
      refine ⟨fun atTop => ?_, ih later⟩
      have nothing := here atTop
      rw [List.append_nil] at nothing
      rw [ignores, nothing]
      rfl

theorem IgnoresClause.first?_append_of_some (ignores : IgnoresClause recognize clause)
    (first : first? recognize text = some found) (gap : Gap) :
    first? recognize (text ++ (gap.text ++ clause)) = some (found.followedBy (gap.text ++ clause)) :=
  firstFrom_append_of_some (ignores.appended gap) first

private theorem IgnoresClause.passes_of_isBlank (ignores : IgnoresClause recognize clause)
    {margin : Text}
    (blank : margin.IsBlank) (before : Option CodePoint) :
    Passes recognize clause before .top margin := by
  induction margin generalizing before with
  | nil => trivial
  | cons point rest ih =>
      obtain ⟨first, others⟩ := blank.of_cons
      refine ⟨fun _atTop => ignores.blank _ _ _ first, ?_⟩
      rw [show Nesting.top.step point = .top from
        Nesting.step_inert (CodePoint.isInert_of_isBlank first) 0]
      exact ih others (some point)

theorem IgnoresClause.first?_append_of_none (ignores : IgnoresClause recognize clause)
    (balanced : text.IsBalanced) (nothing : first? recognize text = none) (gap : Gap) :
    first? recognize (text ++ (gap.text ++ clause)) =
      (first? recognize clause).map (·.precededBy (text ++ gap.text)) := by
  have passes : Passes recognize clause none .top (text ++ gap.text) := by
    apply Passes.append
    · exact (passes_of_firstFrom_eq_none nothing).followed (ignores.appended gap)
    · rw [balanced.after_top]
      exact ignores.passes_of_isBlank gap.blank _
  have fresh : firstFrom recognize (lastOr none (text ++ gap.text)) .top clause =
      first? recognize clause := by
    have ends : endsWord (lastOr none (text ++ gap.text)) = endsWord none := by
      rw [lastOr, Option.or_none]
      exact gap.endsWord_getLast? text
    cases clause with
    | nil => rfl
    | cons point rest => rw [first?, firstFrom, firstFrom, ignores.word _ _ _ ends]
  have whole : (text ++ gap.text).IsBalanced := balanced.append gap.blank.isBalanced
  rw [← List.append_assoc, first?, passes.firstFrom_append, whole.after_top, fresh]
  rfl

/-- The part of a text in front of the first place where something is recognized. -/
def upTo (recognize : Recognizer) (text : Text) : Text :=
  ((first? recognize text).map Occurrence.before).getD text

theorem IgnoresClause.upTo_append (ignores : IgnoresClause recognize clause)
    (balanced : text.IsBalanced) (gap : Gap) :
    upTo recognize (text ++ (gap.text ++ clause)) =
      if (first? recognize text).isSome then upTo recognize text
      else text ++ (gap.text ++ upTo recognize clause) := by
  unfold upTo
  cases first : first? recognize text with
  | some found =>
      rw [ignores.first?_append_of_some first]
      rfl
  | none =>
      rw [ignores.first?_append_of_none balanced first]
      cases first? recognize clause with
      | none => rfl
      | some found => simp [Occurrence.precededBy]

end Keyword

/-! ### Table clauses -/

namespace Nesting

private theorem head?_commaPiecesFrom (nesting : Nesting) (before : Option CodePoint)
    (text : Text) :
    (commaPiecesFrom nesting text).head? =
      some (((firstFrom (mark ',') before nesting text).map Occurrence.before).getD text) := by
  induction text generalizing nesting before with
  | nil => rfl
  | cons point rest ih =>
      by_cases comma : point = .char ',' ∧ nesting.isTop point = true
      · obtain ⟨rfl, atTop⟩ := comma
        have found : mark ',' before (.char ',' :: rest) = some rest := rfl
        rw [firstFrom_cons_of_some atTop found]
        simp [commaPiecesFrom, atTop]
      · have nothing : nesting.isTop point = true → mark ',' before (point :: rest) = none := by
          intro atTop
          have other : point ≠ .char ',' := fun same => comma ⟨same, atTop⟩
          simp [mark, other]
        obtain ⟨first, others, split⟩ :=
          List.exists_cons_of_ne_nil (commaPiecesFrom_ne_nil (nesting.step point) rest)
        have later := ih (nesting.step point) (some point)
        rw [split, List.head?_cons] at later
        rw [commaPiecesFrom_cons comma split, firstFrom_cons_of_none nothing, List.head?_cons,
          Option.some.inj later]
        cases firstFrom (mark ',') (some point) (nesting.step point) rest <;> rfl

end Nesting

namespace Source

variable {source clause tail : Text}

theorem tableClause_eq (source : Text) : tableClause source = upTo clauseEnd source := by
  unfold tableClause upTo
  cases first? clauseEnd source <;> rfl

theorem firstTable_eq (tables : Text) :
    firstTable tables = itemName (Text.trim (upTo (mark ',') tables)) := by
  have first := Nesting.head?_commaPiecesFrom .top none tables
  unfold firstTable Text.commaItems
  cases split : Nesting.commaPiecesFrom .top tables with
  | nil => exact absurd split (Nesting.commaPiecesFrom_ne_nil _ _)
  | cons piece others =>
      rw [split, List.head?_cons] at first
      rw [Option.some.inj first]
      rfl

private theorem afterClosing_append {nesting : Nesting} {text : Text} (deep : 0 < nesting.depth)
    (balanced : nesting.balancedFrom text = true) (following : Text) :
    afterClosing nesting (text ++ following) = afterClosing nesting text ++ following := by
  induction text generalizing nesting with
  | nil =>
      have atTop : nesting = .top := by simpa [Nesting.balancedFrom] using balanced
      rw [atTop] at deep
      cases deep
  | cons point rest ih =>
      obtain ⟨_opened, others⟩ := Nesting.balancedFrom_cons_iff.mp balanced
      simp only [List.cons_append, afterClosing]
      by_cases closes : point = .char ')' ∧ nesting.isTop point = true
      · rw [if_pos closes, if_pos closes]
      · rw [if_neg closes, if_neg closes]
        refine ih ?_ others
        -- Only the parenthesis that is looked for leaves the outermost parentheses.
        obtain ⟨depth, quoting⟩ := nesting
        cases quoting with
        | inside quote escaped => exact deep
        | outside =>
            by_cases opening : point = .char '('
            · simp [Nesting.step, opening]
            · by_cases closing : point = .char ')'
              · have higher : depth - 1 ≠ 0 := by
                  intro lowest
                  refine closes ⟨closing, ?_⟩
                  simp [Nesting.isTop, Nesting.level, closing, Quoting.quote?, lowest,
                    Text.singleQuote, Text.doubleQuote, Text.backtick]
                simp [Nesting.step, closing]
                omega
              · simpa [Nesting.step, opening, closing] using deep

private theorem nameAndRest_append {item : Text} (balanced : item.IsBalanced) (flush : item.IsFlush)
    (nonempty : item ≠ []) (opens : ∀ point ∈ tail.head?, point.isBlank = true) :
    nameAndRest (item ++ tail) =
      ((nameAndRest item).1, (nameAndRest item).2 ++ Text.words tail) := by
  obtain ⟨point, rest, rfl⟩ := List.exists_cons_of_ne_nil nonempty
  by_cases derived : point = .char '('
  · subst derived
    have deep : 0 < (Nesting.top.step (.char '(')).depth := by decide
    have within := (Nesting.balancedFrom_cons_iff.mp balanced).2
    have closing := afterClosing_append deep within tail
    have whole : afterClosing .top (.char '(' :: (rest ++ tail)) =
        afterClosing .top (.char '(' :: rest) ++ tail := closing
    rw [List.cons_append, nameAndRest, whole, Text.words_append_of_opens opens]
    rfl
  · have unblank : point.isBlank = false := flush.starts point rfl
    obtain ⟨name, others, named⟩ := List.exists_cons_of_ne_nil (Text.words_cons_ne_nil unblank rest)
    have whole : Text.words (point :: (rest ++ tail)) = name :: (others ++ Text.words tail) := by
      rw [← List.cons_append, Text.words_append_of_opens opens, named]
      rfl
    rw [List.cons_append, nameAndRest_cons derived, nameAndRest_cons derived, whole, named]

theorem withoutAliasKeyword_append_of_cons {words others : List Text} {first : Text}
    (named : withoutAliasKeyword words = first :: others) (more : List Text) :
    withoutAliasKeyword (words ++ more) = first :: (others ++ more) := by
  cases words with
  | nil => cases named
  | cons word rest =>
      simp only [withoutAliasKeyword, List.cons_append] at named ⊢
      split at named
      · rename_i same
        rw [if_pos same, named]
        rfl
      · rename_i other
        cases named
        rw [if_neg other]

private theorem withoutAliasKeyword_append_of_nil {words more : List Text}
    (nothing : withoutAliasKeyword words = [])
    (plain : ∀ first ∈ more.head?, Text.upper first ≠ "AS") :
    withoutAliasKeyword (words ++ more) = more := by
  cases words with
  | nil =>
      cases more with
      | nil => rfl
      | cons first others => exact if_neg (plain first rfl)
  | cons word rest =>
      simp only [withoutAliasKeyword, List.cons_append] at nothing ⊢
      split at nothing
      · rename_i same
        rw [if_pos same, nothing]
        rfl
      · cases nothing

/-- A source clause that is a single table without alias. -/
structure IsLoneTable (source : Text) : Prop where
  unended : first? clauseEnd source = none
  single : first? (mark ',') source = none
  unnamed : withoutAliasKeyword (nameAndRest source).2 = []

instance (source : Text) : Decidable (IsLoneTable source) :=
  decidable_of_iff
    (first? clauseEnd source = none ∧ first? (mark ',') source = none ∧
      withoutAliasKeyword (nameAndRest source).2 = [])
    ⟨fun all => ⟨all.1, all.2.1, all.2.2⟩, fun lone => ⟨lone.unended, lone.single, lone.unnamed⟩⟩

theorem table_of_isLoneTable (flush : source.IsFlush) (lone : IsLoneTable source) :
    table source = Text.unquoted (nameAndRest source).1 := by
  have whole : upTo clauseEnd source = source := by
    rw [upTo, lone.unended]
    rfl
  have item : upTo (mark ',') source = source := by
    rw [upTo, lone.single]
    rfl
  rw [table_eq, firstTable_eq, tableClause_eq, whole, item, flush.trim_eq, itemName, lone.unnamed]
  rfl

/-- A later clause is not read, unless it follows a single table without alias and does not begin
with a phrase that ends the table clause: then its first word is taken for the alias. -/
theorem table_append (balanced : source.IsBalanced) (flush : source.IsFlush)
    (nonempty : source ≠ []) (ignores : IgnoresClause clauseEnd clause)
    (single : first? (mark ',') (tableClause clause) = none)
    (plain : ∀ first ∈ (Text.words (tableClause clause)).head?, Text.upper first ≠ "AS")
    (gap : Gap) :
    table (source ++ (gap.text ++ clause)) =
      if IsLoneTable source then
        Text.unquoted ((Text.words (tableClause clause)).headD (nameAndRest source).1)
      else table source := by
  have comma : IgnoresClause (mark ',') (tableClause clause) := mark_ignoresClause (by decide) _
  rw [table_eq, table_eq, firstTable_eq, firstTable_eq, tableClause_eq, tableClause_eq source,
    ignores.upTo_append balanced gap, ← tableClause_eq clause]
  cases ended : first? clauseEnd source with
  | some found =>
      have several : ¬IsLoneTable source := by
        intro lone
        rw [lone.unended] at ended
        cases ended
      rw [if_pos Option.isSome_some, if_neg several]
  | none =>
      have whole : upTo clauseEnd source = source := by
        rw [upTo, ended]
        rfl
      rw [whole, if_neg (by simp), comma.upTo_append balanced gap]
      cases listed : first? (mark ',') source with
      | some found =>
          have several : ¬IsLoneTable source := by
            intro lone
            rw [lone.single] at listed
            cases listed
          rw [if_pos Option.isSome_some, if_neg several]
      | none =>
          have all : upTo (mark ',') (tableClause clause) = tableClause clause := by
            rw [upTo, single]
            rfl
          have item : upTo (mark ',') source = source := by
            rw [upTo, listed]
            rfl
          have opens : ∀ point ∈ (Text.trimEnd (gap.text ++ tableClause clause)).head?,
              point.isBlank = true := by
            obtain ⟨others, whole⟩ : Text.trimEnd (gap.text ++ tableClause clause) <+:
                gap.text ++ tableClause clause := Text.cutEnd_isPrefix _
            obtain ⟨blank, rest, opened⟩ := List.exists_cons_of_ne_nil gap.nonempty
            intro point first
            have same : (gap.text ++ tableClause clause).head? = some point := by
              rw [← whole, List.head?_append, first]
              rfl
            rw [opened] at same
            rw [← Option.some.inj same]
            exact gap.blank blank (by rw [opened]; exact List.mem_cons_self)
          have words : Text.words (Text.trimEnd (gap.text ++ tableClause clause)) =
              Text.words (tableClause clause) := by
            rw [Text.words_trimEnd, Text.words_append_of_blank gap.blank]
          rw [item, if_neg (by simp), all, flush.trim_append nonempty, flush.trim_eq, itemName,
            nameAndRest_append balanced flush nonempty opens, words, itemName]
          dsimp only
          cases named : withoutAliasKeyword (nameAndRest source).2 with
          | nil =>
              rw [withoutAliasKeyword_append_of_nil named plain, if_pos ⟨ended, listed, named⟩]
          | cons first others =>
              have renamed : ¬IsLoneTable source := by
                intro lone
                rw [lone.unnamed] at named
                cases named
              rw [withoutAliasKeyword_append_of_cons named, if_neg renamed]
              rfl

end Source
end PooledQuery
