/-
The outline of a SELECT does not depend on what stands between quotes.

Every stage of reading an outline commutes with emptying the text.  So the number of columns is
that of the emptied statement, and so is the table clause once it is emptied.  The table is a
function of its clause, and a clause without quotes is what it is when emptied.
-/
import PooledQuery.Proofs.Outline.Emptied
import PooledQuery.Proofs.Outline.Items

namespace PooledQuery

namespace Keyword

/-- Whether a recognizer recognizes the same in a text and in the emptied text. -/
def IgnoresQuoted (recognize : Recognizer) : Prop :=
  ∀ before other text, endsWord other = endsWord before →
    recognize other text.emptied = (recognize before text).map Text.emptied

def AreLetters (words : List Text) : Prop :=
  ∀ word ∈ words, ∀ letter ∈ word, letter.isKeywordLetter = true

theorem afterWord?_emptied {keyword : Text}
    (letters : ∀ letter ∈ keyword, letter.isKeywordLetter = true) (text : Text) :
    Text.afterWord? keyword text.emptied = (Text.afterWord? keyword text).map Text.emptied := by
  induction keyword generalizing text with
  | nil => rfl
  | cons letter others ih =>
      obtain ⟨first, later⟩ := List.forall_mem_cons.mp letters
      cases text with
      | nil => rfl
      | cons point rest =>
          cases same : letter.sameLetter point with
          | false =>
              rw [Text.emptied_cons]
              simp [Text.afterWord?, same]
          | true =>
              have inert := CodePoint.isInert_of_isWord (CodePoint.sameLetter_isWord first same)
              rw [Text.emptied_cons_inert inert]
              simpa [Text.afterWord?, same] using ih later rest

theorem afterBlanks?_emptied (text : Text) :
    afterBlanks? text.emptied = (afterBlanks? text).map Text.emptied := by
  cases text with
  | nil => rfl
  | cons point rest =>
      cases blank : point.isBlank with
      | false =>
          rw [Text.emptied_cons]
          simp [afterBlanks?, blank]
      | true =>
          rw [Text.emptied_cons_inert (CodePoint.isInert_of_isBlank blank)]
          simp [afterBlanks?, blank, Text.emptied_trimStart]

theorem phrase_ignoresQuoted {words : List Text} (letters : AreLetters words) :
    IgnoresQuoted (phrase words) := by
  intro before other text same
  apply phrase_map same
  · exact afterPhrase?_map (fun word listed => afterWord?_emptied (letters word listed))
      afterBlanks?_emptied text
  · intro rest
    rw [Text.head?_emptied]

theorem word_ignoresQuoted {keyword : Text} (isKeyword : keyword.IsKeyword) :
    IgnoresQuoted (word keyword) :=
  phrase_ignoresQuoted (List.forall_mem_singleton.mpr isKeyword.2)

private theorem firstOf_ignoresQuoted {choices : List Recognizer}
    (each : ∀ recognize ∈ choices, IgnoresQuoted recognize) : IgnoresQuoted (firstOf choices) :=
  fun before other text same =>
    firstOf_map fun recognize listed => each recognize listed before other text same

end Keyword

/-- An occurrence in a text, for a reader who stands at the given place, as one in the emptied
text. -/
def Occurrence.emptiedFrom (quoting : Quoting) (found : Occurrence) : Occurrence :=
  ⟨Text.emptiedFrom quoting found.before, found.here.emptied, found.after.emptied⟩

namespace Keyword

/-- Searching commutes with emptying.  Within quotes the code point before a place does not
matter, since nothing is recognized there. -/
theorem firstFrom_emptied {recognize : Recognizer} (ignores : IgnoresQuoted recognize)
    {before other : Option CodePoint} {nesting : Nesting}
    (same : nesting.quoting = .outside → endsWord other = endsWord before) (text : Text) :
    firstFrom recognize other nesting.calmed (text.emptiedFrom nesting.quoting) =
      (firstFrom recognize before nesting text).map (Occurrence.emptiedFrom nesting.quoting) := by
  induction text generalizing before other nesting with
  | nil => rfl
  | cons point rest ih =>
      rcases nesting.step_cases point with ⟨kept, calm, calm'⟩ | ⟨dropped, calm', notTop⟩
      · -- The code point is kept.  Where it is at the top it is outside of quotes.
        have later : firstFrom recognize (some point) (nesting.step point).calmed
            (Text.emptiedFrom (nesting.step point).quoting rest) =
              (firstFrom recognize (some point) (nesting.step point) rest).map
                (Occurrence.emptiedFrom (nesting.step point).quoting) := ih fun _outside => rfl
        rw [calm', Nesting.quoting_step] at later
        have here : nesting.isTop point = true → nesting.quoting = .outside ∧
            recognize other (point :: Text.emptiedFrom (nesting.quoting.step point) rest) =
              (recognize before (point :: rest)).map Text.emptied := by
          intro top
          have outside := Nesting.outside_of_isTop top
          have alike := ignores before other (point :: rest) (same outside)
          rw [Text.emptied, ← outside, Text.emptiedFrom_kept kept] at alike
          exact ⟨outside, alike⟩
        rw [Text.emptiedFrom_kept kept, calm]
        by_cases nothing : nesting.isTop point = true → recognize before (point :: rest) = none
        · have nothing' : nesting.isTop point = true →
              recognize other (point :: Text.emptiedFrom (nesting.quoting.step point) rest) =
                none := by
            intro top
            rw [(here top).2, nothing top]
            rfl
          rw [firstFrom_cons_of_none nothing, firstFrom_cons_of_none nothing', later]
          simp [Occurrence.emptiedFrom, Text.emptiedFrom_kept kept, Function.comp_def]
        · obtain ⟨top, something⟩ := Classical.not_imp.mp nothing
          obtain ⟨outside, alike⟩ := here top
          obtain ⟨following, found⟩ := Option.ne_none_iff_exists'.mp something
          rw [found] at alike
          have whole : Text.emptied (point :: rest) =
              point :: Text.emptiedFrom (nesting.quoting.step point) rest := by
            rw [Text.emptied_cons, outside]
          rw [firstFrom_cons_of_some top found, firstFrom_cons_of_some top alike]
          simp [Occurrence.emptiedFrom, whole, Text.emptiedFrom]
      · -- The code point is dropped, and the one before it stays before what comes after.
        have later : firstFrom recognize other (nesting.step point).calmed
            (Text.emptiedFrom (nesting.step point).quoting rest) =
              (firstFrom recognize (some point) (nesting.step point) rest).map
                (Occurrence.emptiedFrom (nesting.step point).quoting) := by
          apply ih
          intro outside
          rw [Nesting.quoting_step] at outside
          exact absurd (Or.inr outside) dropped
        rw [calm', Nesting.quoting_step] at later
        rw [Text.emptiedFrom_dropped dropped, later, firstFrom_cons_of_none (by simp [notTop])]
        simp only [Occurrence.emptiedFrom, Text.emptiedFrom_dropped dropped, Option.map_map,
          Function.comp_def]
        rfl

theorem first?_emptied {recognize : Recognizer} (ignores : IgnoresQuoted recognize) (text : Text) :
    first? recognize text.emptied =
      (first? recognize text).map (Occurrence.emptiedFrom .outside) :=
  @firstFrom_emptied recognize ignores none none .top (fun _outside => rfl) text

end Keyword

namespace Nesting

/-- Splitting at commas commutes with emptying.  Only the first piece may begin within
quotes. -/
theorem commaPiecesFrom_emptied (nesting : Nesting) (text first : Text) (others : List Text)
    (split : commaPiecesFrom nesting text = first :: others) :
    commaPiecesFrom nesting.calmed (Text.emptiedFrom nesting.quoting text) =
      Text.emptiedFrom nesting.quoting first :: others.map Text.emptied := by
  induction text generalizing nesting first others with
  | nil =>
      cases split
      rfl
  | cons point rest ih =>
      obtain ⟨piece, pieces, later⟩ :=
        List.exists_cons_of_ne_nil (commaPiecesFrom_ne_nil (nesting.step point) rest)
      have following := ih (nesting.step point) piece pieces later
      rw [quoting_step] at following
      rw [commaPiecesFrom, later] at split
      rcases nesting.step_cases point with ⟨kept, calm, calm'⟩ | ⟨dropped, calm', notTop⟩
      · rw [calm'] at following
        rw [Text.emptiedFrom_kept kept, calm, commaPiecesFrom, following]
        by_cases comma : point = .char ',' ∧ nesting.isTop point = true
        · obtain ⟨same, top⟩ := comma
          have outside := outside_of_isTop top
          subst same
          rw [outside] at following ⊢
          simp only [top, and_self, if_true] at split ⊢
          cases split
          rfl
        · simp only [comma, if_false] at split ⊢
          cases split
          rw [Text.emptiedFrom_kept kept]
      · rw [calm'] at following
        simp only [notTop, Bool.false_eq_true, and_false, if_false] at split
        cases split
        rw [Text.emptiedFrom_dropped dropped, Text.emptiedFrom_dropped dropped, following]

end Nesting

private theorem Text.commaItems_emptied (text : Text) :
    Text.commaItems text.emptied = (Text.commaItems text).map Text.emptied := by
  obtain ⟨first, others, split⟩ :=
    List.exists_cons_of_ne_nil (Nesting.commaPiecesFrom_ne_nil .top text)
  have pieces : Nesting.commaPiecesFrom .top text.emptied =
      first.emptied :: others.map Text.emptied :=
    Nesting.commaPiecesFrom_emptied .top text first others split
  unfold Text.commaItems
  rw [split, pieces]
  simp [Text.emptied_trim]

/-! ### Stages of a SELECT -/

open Keyword

namespace SelectOutline

theorem withoutTableExpressions_emptied (statement : Text) :
    withoutTableExpressions statement.emptied = (withoutTableExpressions statement).emptied := by
  have with_word : IgnoresQuoted (word "WITH") := word_ignoresQuoted (by decide)
  have select_word : IgnoresQuoted (word "SELECT") := word_ignoresQuoted (by decide)
  unfold withoutTableExpressions
  rw [with_word none none statement rfl, first?_emptied select_word]
  cases word "WITH" none statement with
  | none => rfl
  | some following =>
      cases first? (word "SELECT") statement with
      | none => rfl
      | some found => rfl

theorem afterLeadingWord?_emptied {keyword : Text}
    (letters : ∀ letter ∈ keyword, letter.isKeywordLetter = true) (statement : Text) :
    afterLeadingWord? keyword statement.emptied =
      (afterLeadingWord? keyword statement).map Text.emptied := by
  unfold afterLeadingWord?
  rw [afterWord?_emptied letters]
  cases Text.afterWord? keyword statement with
  | none => rfl
  | some rest => exact afterBlanks?_emptied rest

private theorem withoutSelect_emptied (statement : Text) :
    withoutSelect statement.emptied = (withoutSelect statement).emptied := by
  unfold withoutSelect
  rw [afterLeadingWord?_emptied (by decide)]
  cases afterLeadingWord? "SELECT" statement with
  | none => rfl
  | some rest =>
      simp only [Option.map_some]
      rw [afterLeadingWord?_emptied (by decide), afterLeadingWord?_emptied (by decide)]
      cases afterLeadingWord? "DISTINCT" rest with
      | some following => rfl
      | none => cases afterLeadingWord? "ALL" rest <;> rfl

/-- The text whose outline is read: from the first column on. -/
def body (statement : Text) : Text :=
  withoutSelect (withoutTableExpressions (normalized statement))

private theorem body_emptied (statement : Text) :
    body statement.emptied = (body statement).emptied := by
  unfold body
  rw [← emptied_normalized, withoutTableExpressions_emptied, withoutSelect_emptied]

end SelectOutline

/-! ### Columns and table -/

namespace Source

theorem tableClause_emptied (source : Text) :
    tableClause source.emptied = (tableClause source).emptied := by
  have ignores : IgnoresQuoted clauseEnd := by
    apply firstOf_ignoresQuoted
    rw [List.forall_mem_map]
    intro words member
    have letters : ∀ words ∈ endPhrases, AreLetters words := by
      unfold AreLetters
      decide
    exact phrase_ignoresQuoted (letters words member)
  unfold tableClause
  rw [first?_emptied ignores]
  cases first? clauseEnd source <;> rfl

end Source

namespace SelectOutline

def projection (statement : Text) : Text :=
  match first? (word "FROM") (body statement) with
  | some found => found.before
  | none => body statement

/-- The text between FROM and the end of the table clause, without white space around it. -/
def tableClause (statement : Text) : Text :=
  match first? (word "FROM") (withoutTableExpressions (normalized statement)) with
  | some found => Source.tableClause (Text.trim found.after)
  | none => []

theorem columns_eq (statement : Text) :
    (ofStatement statement).columns =
      ((Text.commaItems (projection statement)).filter fun item => !item.isEmpty).map
        Column.label := by
  unfold ofStatement projection body
  dsimp only
  cases first? (word "FROM") (withoutSelect (withoutTableExpressions (normalized statement))) with
  | none => dsimp only
  | some found => dsimp only

theorem from_ignoresQuoted : IgnoresQuoted (word "FROM") :=
  word_ignoresQuoted (by decide)

private theorem projection_emptied (statement : Text) :
    projection statement.emptied = (projection statement).emptied := by
  unfold projection
  rw [body_emptied, first?_emptied from_ignoresQuoted]
  cases first? (word "FROM") (body statement) with
  | none => simp only [Option.map_none]
  | some found => simp only [Option.map_some, Occurrence.emptiedFrom, Text.emptied]

theorem length_columns_emptied (statement : Text) :
    (ofStatement statement.emptied).columns.length = (ofStatement statement).columns.length := by
  have visible : (fun item : Text => !item.emptied.isEmpty) = fun item => !item.isEmpty := by
    funext item
    cases item with
    | nil => rfl
    | cons point rest => rw [Text.emptied_cons]; rfl
  rw [columns_eq, columns_eq, projection_emptied, Text.commaItems_emptied, List.filter_map,
    List.length_map, List.length_map, List.length_map]
  exact congrArg (fun test => ((Text.commaItems (projection statement)).filter test).length) visible

theorem tableClause_emptied (statement : Text) :
    tableClause statement.emptied = (tableClause statement).emptied := by
  unfold tableClause
  rw [← emptied_normalized, withoutTableExpressions_emptied, first?_emptied from_ignoresQuoted]
  cases first? (word "FROM") (withoutTableExpressions (normalized statement)) with
  | none => rfl
  | some found =>
      change Source.tableClause (Text.trim found.after.emptied) = _
      rw [← Text.emptied_trim, Source.tableClause_emptied]

end SelectOutline
end PooledQuery
