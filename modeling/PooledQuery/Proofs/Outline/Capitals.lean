/-
The outline of a statement in capitals.

Every stage of reading an outline finds in a statement in capitals what it finds in the statement
itself, since keywords are recognized in any letter case.  So the labels and the table are those
of the statement, in capitals.
-/
import PooledQuery.Proofs.Outline.Alias
import PooledQuery.Proofs.Text.Capitals

namespace PooledQuery

open CodePoint Text

/-! ### Parentheses and quotes -/

theorem Quoting.quote?_capital (point : CodePoint) : quote? point.capital = quote? point :=
  capital_invariant quote? (by decide) point

theorem Quoting.step_capital {quoting : Quoting} (sound : quoting.IsSound) (point : CodePoint) :
    quoting.step point.capital = quoting.step point := by
  cases quoting with
  | outside =>
      simp only [step, quote?_capital]
  | inside quote escaped =>
      have backslash := capital_eq_char_iff point (rfl : '\\'.isAlpha = false)
      have noLetter : quote.isAlpha = false := by
        have opens := sound quote escaped rfl
        simp only [quote?] at opens
        split at opens
        · rename_i known
          rcases known with rfl | rfl | rfl <;> rfl
        · cases opens
      have closing := capital_eq_char_iff point noLetter
      cases escaped with
      | true => rfl
      | false => simp only [step, backslash, closing]

namespace Nesting

theorem step_capital {nesting : Nesting} (sound : nesting.quoting.IsSound) (point : CodePoint) :
    nesting.step point.capital = nesting.step point := by
  have opening := capital_eq_char_iff point (rfl : '('.isAlpha = false)
  have closing := capital_eq_char_iff point (rfl : ')'.isAlpha = false)
  simp only [step, opening, closing, Quoting.step_capital sound]

theorem isTop_capital (nesting : Nesting) (point : CodePoint) :
    nesting.isTop point.capital = nesting.isTop point := by
  have closing := capital_eq_char_iff point (rfl : ')'.isAlpha = false)
  simp only [isTop, level, closing, Quoting.quote?_capital]

private theorem commaPiecesFrom_capitals {nesting : Nesting} (sound : nesting.quoting.IsSound)
    (text : Text) :
    commaPiecesFrom nesting (capitals text) = (commaPiecesFrom nesting text).map capitals := by
  induction text generalizing nesting with
  | nil => rfl
  | cons point rest ih =>
      have comma := capital_eq_char_iff point (rfl : ','.isAlpha = false)
      have later := ih (isSound_step sound point)
      simp only [capitals_cons, commaPiecesFrom, comma, step_capital sound, isTop_capital, later]
      split
      · rfl
      · cases commaPiecesFrom (nesting.step point) rest <;> rfl

end Nesting

theorem Text.commaItems_capitals (text : Text) :
    commaItems (capitals text) = (commaItems text).map capitals := by
  unfold commaItems
  rw [Nesting.commaPiecesFrom_capitals Quoting.isSound_outside, List.map_map, List.map_map]
  exact List.map_congr_left fun piece _listed => trim_capitals piece

/-! ### Keywords -/

theorem Text.afterWord?_capitals (word text : Text) :
    afterWord? word (capitals text) = (afterWord? word text).map capitals := by
  induction word generalizing text with
  | nil => rfl
  | cons letter others ih =>
      cases text with
      | nil => rfl
      | cons point rest =>
          simp only [capitals_cons, afterWord?, sameLetter_capital, ih]
          split <;> rfl

/-- The same occurrence in a text in capitals. -/
def Occurrence.capitals (found : Occurrence) : Occurrence :=
  ⟨Text.capitals found.before, Text.capitals found.here, Text.capitals found.after⟩

namespace Keyword

/-- Whether a recognizer recognizes the same in a text and in its capitals. -/
def IgnoresCase (recognize : Recognizer) : Prop :=
  ∀ before text,
    recognize (before.map capital) (capitals text) = (recognize before text).map capitals

theorem endsWord_capital (point : Option CodePoint) :
    endsWord (point.map capital) = endsWord point := by
  cases point <;> simp [endsWord]

theorem afterBlanks?_capitals (text : Text) :
    afterBlanks? (capitals text) = (afterBlanks? text).map capitals := by
  cases text with
  | nil => rfl
  | cons point rest =>
      simp only [capitals_cons, afterBlanks?, isBlank_capital, trimStart_capitals]
      split <;> rfl

theorem phrase_ignoresCase (words : List Text) : IgnoresCase (phrase words) := by
  intro before text
  apply phrase_map (endsWord_capital before)
  · exact afterPhrase?_map (fun word _listed => afterWord?_capitals word) afterBlanks?_capitals text
  · intro rest
    rw [head?_capitals, endsWord_capital]

theorem word_ignoresCase (keyword : Text) : IgnoresCase (word keyword) :=
  phrase_ignoresCase [keyword]

private theorem firstOf_ignoresCase {choices : List Recognizer}
    (each : ∀ recognize ∈ choices, IgnoresCase recognize) : IgnoresCase (firstOf choices) :=
  fun before text => firstOf_map fun recognize listed => each recognize listed before text

private theorem firstFrom_capitals {recognize : Recognizer} (ignores : IgnoresCase recognize)
    (before : Option CodePoint) {nesting : Nesting} (sound : nesting.quoting.IsSound)
    (text : Text) :
    firstFrom recognize (before.map capital) nesting (capitals text) =
      (firstFrom recognize before nesting text).map Occurrence.capitals := by
  induction text generalizing before nesting with
  | nil => rfl
  | cons point rest ih =>
      have here := ignores before (point :: rest)
      have later := ih (some point) (Nesting.isSound_step sound point)
      rw [capitals_cons] at here ⊢
      rw [Option.map_some] at later
      rw [firstFrom, firstFrom, Nesting.isTop_capital, here, Nesting.step_capital sound, later]
      cases nesting.isTop point with
      | false => simp [Occurrence.capitals, Function.comp_def]
      | true =>
          cases recognize before (point :: rest) with
          | none => simp [Occurrence.capitals, Function.comp_def]
          | some following => rfl

theorem first?_capitals {recognize : Recognizer} (ignores : IgnoresCase recognize) (text : Text) :
    first? recognize (capitals text) = (first? recognize text).map Occurrence.capitals :=
  firstFrom_capitals ignores none Quoting.isSound_outside text

end Keyword

/-! ### Labels -/

theorem Text.endsWithSign_capitals {sign : Char} (noLetter : sign.isAlpha = false) (text : Text) :
    (capitals text).getLast? = some (.char sign) ↔ text.getLast? = some (.char sign) := by
  rw [getLast?_capitals]
  cases text.getLast? with
  | none => simp
  | some last => simpa using capital_eq_char_iff last noLetter

theorem Text.between?_capitals {opening closing : Char} (noLetter : opening.isAlpha = false)
    (noLetter' : closing.isAlpha = false) (text : Text) :
    between? opening closing (capitals text) = (between? opening closing text).map capitals := by
  cases text with
  | nil => rfl
  | cons point rest =>
      cases rest with
      | nil => cases point <;> rfl
      | cons second others =>
          cases point with
          | surrogate offset => rfl
          | char first =>
              have begins : first.toUpper = opening ↔ first = opening := by
                have same := capital_eq_char_iff (.char first) noLetter
                simpa [capital] using same
              have ends := endsWithSign_capitals noLetter' (second :: others)
              change (if first.toUpper = opening ∧
                (capitals (second :: others)).getLast? = some (.char closing) then
                  some (capitals (second :: others)).dropLast else none) = _
              simp only [between?, begins, ends]
              split
              · rw [capitals, ← List.map_dropLast]
                rfl
              · rfl

theorem Text.unquoted_capitals (identifier : Text) :
    unquoted (capitals identifier) = capitals (unquoted identifier) := by
  unfold unquoted
  dsimp only
  rw [trim_capitals, between?_capitals (by decide) (by decide),
    between?_capitals (by decide) (by decide), between?_capitals (by decide) (by decide)]
  cases between? backtick backtick (trim identifier) with
  | some name => rfl
  | none =>
      cases between? doubleQuote doubleQuote (trim identifier) with
      | some name => rfl
      | none => cases between? '[' ']' (trim identifier) <;> rfl

namespace Column

open Keyword

private theorem afterAliasKeyword?_capitals (text : Text) :
    afterAliasKeyword? (capitals text) = (afterAliasKeyword? text).map capitals := by
  unfold afterAliasKeyword?
  rw [afterBlanks?_capitals]
  cases afterBlanks? text with
  | none => rfl
  | some keyword =>
      simp only [Option.map_some, Option.bind_eq_bind, Option.bind_some, afterWord?_capitals]
      cases Text.afterWord? "AS" keyword with
      | none => rfl
      | some rest => exact afterBlanks?_capitals rest

private theorem aliasTails_capitals (skipped : Nat) {nesting : Nesting}
    (sound : nesting.quoting.IsSound)
    (text : Text) :
    aliasTails skipped nesting (capitals text) = (aliasTails skipped nesting text).map capitals := by
  induction text generalizing skipped nesting with
  | nil => simp
  | cons point rest ih =>
      have following := Nesting.isSound_step sound point
      rw [capitals_cons]
      cases skipped with
      | succ remaining =>
          rw [aliasTails_succ, aliasTails_succ, Nesting.step_capital sound]
          exact ih remaining following
      | zero =>
          rw [aliasTails_zero, aliasTails_zero, ← capitals_cons, afterAliasKeyword?_capitals,
            Nesting.step_capital sound, Nesting.isTop_capital]
          cases afterAliasKeyword? (point :: rest) with
          | none => exact ih 0 following
          | some tail =>
              simp only [Option.map_some, length_capitals, ih _ following]
              split <;> rfl

private theorem alias?_capitals (expression : Text) :
    alias? (capitals expression) = (alias? expression).map capitals := by
  unfold alias?
  rw [aliasTails_capitals 0 Quoting.isSound_outside, List.getLast?_map]
  cases (aliasTails 0 .top expression).getLast? with
  | none => rfl
  | some tail =>
      simp only [Option.map_some, words_capitals, unquoted_capitals]
      rcases Text.words tail with _ | ⟨word, _ | ⟨next, more⟩⟩ <;> rfl

private theorem beginsName_capital (point : CodePoint) :
    beginsName point.capital = beginsName point :=
  capital_invariant beginsName (by decide) point

theorem continuesName_capital (point : CodePoint) :
    continuesName point.capital = continuesName point := by
  have dot := capital_eq_char_iff point (rfl : '.'.isAlpha = false)
  have dollar := capital_eq_char_iff point (rfl : '$'.isAlpha = false)
  simp only [continuesName, isWord_capital, beq_eq_decide, dot, dollar]

private theorem callee?_capitals (expression : Text) :
    callee? (capitals expression) = (callee? expression).map capitals := by
  cases expression with
  | nil => rfl
  | cons first rest =>
      rw [capitals_cons, callee?, callee?, beginsName_capital,
        dropWhile_capitals continuesName_capital, takeWhile_capitals continuesName_capital,
        trimStart_capitals]
      cases beginsName first with
      | false => rfl
      | true =>
          simp only [if_true]
          cases trimStart (rest.dropWhile continuesName) with
          | nil => rfl
          | cons point inner =>
              have opens := capital_eq_char_iff point (rfl : '('.isAlpha = false)
              by_cases opening : point = .char '('
              · subst opening
                have closes := endsWithSign_capitals (rfl : ')'.isAlpha = false) inner
                rw [capitals_cons, opens.mpr rfl]
                simp only [closes]
                split <;> rfl
              · have other : point.capital ≠ .char '(' := fun same => opening (opens.mp same)
                rw [capitals_cons]
                split
                · rename_i same
                  exact absurd (List.cons.inj same).1 other
                · split
                  · rename_i same
                    exact absurd (List.cons.inj same).1 opening
                  · rfl

theorem continuesComponent_capital (isFirst : Bool) (point : CodePoint) :
    continuesComponent isFirst point.capital = continuesComponent isFirst point := by
  have dollar := capital_eq_char_iff point (rfl : '$'.isAlpha = false)
  have asterisk := capital_eq_char_iff point (rfl : '*'.isAlpha = false)
  simp only [continuesComponent, isWord_capital, beq_eq_decide, dollar, asterisk]

private theorem isQualifiedFrom_capitals (isFirst : Bool) {state : QualifiedState}
    (noLetter : ∀ quote filled, state = .quoted quote filled → quote.isAlpha = false)
    (text : Text) :
    isQualifiedFrom isFirst state (capitals text) = isQualifiedFrom isFirst state text := by
  induction text generalizing isFirst state with
  | nil => rfl
  | cons point rest ih =>
      have bare : isQualifiedFrom isFirst .bare (capitals rest) = isQualifiedFrom isFirst .bare rest :=
        ih isFirst (by simp)
      have closed : isQualifiedFrom isFirst .closed (capitals rest) =
          isQualifiedFrom isFirst .closed rest := ih isFirst (by simp)
      have opening : isQualifiedFrom false .opening (capitals rest) =
          isQualifiedFrom false .opening rest := ih false (by simp)
      have within {quote : Char} (sign : quote.isAlpha = false) (filled : Bool) :
          isQualifiedFrom isFirst (.quoted quote filled) (capitals rest) =
            isQualifiedFrom isFirst (.quoted quote filled) rest := by
        apply ih isFirst
        intro other filled' same
        cases same
        exact sign
      have dot := capital_eq_char_iff point (rfl : '.'.isAlpha = false)
      cases state with
      | opening =>
          have tick := capital_eq_char_iff point (rfl : backtick.isAlpha = false)
          have double := capital_eq_char_iff point (rfl : doubleQuote.isAlpha = false)
          simp only [capitals_cons, isQualifiedFrom, tick, double, continuesComponent_capital,
            within (rfl : backtick.isAlpha = false), within (rfl : doubleQuote.isAlpha = false), bare]
      | bare =>
          simp only [capitals_cons, isQualifiedFrom, dot, continuesComponent_capital, bare, opening]
      | quoted quote filled =>
          have sign := noLetter quote filled rfl
          have closing := capital_eq_char_iff point sign
          simp only [capitals_cons, isQualifiedFrom, closing, within sign, closed]
      | closed =>
          simp only [capitals_cons, isQualifiedFrom, dot, opening]

private theorem isQualified_capitals (expression : Text) :
    isQualified (capitals expression) = isQualified expression :=
  isQualifiedFrom_capitals true (by simp) expression

private theorem afterLastDot_capitals (expression : Text) :
    afterLastDot (capitals expression) = capitals (afterLastDot expression) := by
  have alike (point : CodePoint) :
      (point.capital != .char '.') = (point != .char '.') := by
    have dot := capital_eq_char_iff point (rfl : '.'.isAlpha = false)
    simp only [bne, beq_eq_decide, dot]
  rw [afterLastDot, reverse_capitals, takeWhile_capitals alike, reverse_capitals]
  rfl

private theorem label_capitals (expression : Text) :
    label (capitals expression) = capitals (label expression) := by
  unfold label
  rw [alias?_capitals, callee?_capitals, isQualified_capitals, afterLastDot_capitals,
    unquoted_capitals, unquoted_capitals]
  cases alias? expression with
  | some name => rfl
  | none =>
      cases callee? expression with
      | some name => exact (capitals_append name "(...)").symm
      | none =>
          simp only [Option.map_none]
          split <;> rfl

end Column

/-! ### The table -/

namespace Source

open Keyword

private theorem clauseEnd_ignoresCase : IgnoresCase clauseEnd := by
  apply firstOf_ignoresCase
  rw [List.forall_mem_map]
  exact fun words _listed => phrase_ignoresCase words

private theorem afterClosing_capitals {nesting : Nesting} (sound : nesting.quoting.IsSound)
    (text : Text) :
    afterClosing nesting (capitals text) = capitals (afterClosing nesting text) := by
  induction text generalizing nesting with
  | nil => rfl
  | cons point rest ih =>
      have closing := capital_eq_char_iff point (rfl : ')'.isAlpha = false)
      have later := ih (Nesting.isSound_step sound point)
      simp only [capitals_cons, afterClosing, closing, Nesting.isTop_capital,
        Nesting.step_capital sound, later]
      split <;> rfl

private theorem nameAndRest_capitals (item : Text) :
    nameAndRest (capitals item) =
      (capitals (nameAndRest item).1, (nameAndRest item).2.map capitals) := by
  cases item with
  | nil => rfl
  | cons point rest =>
      have opens := capital_eq_char_iff point (rfl : '('.isAlpha = false)
      by_cases opening : point = .char '('
      · subst opening
        have after := @afterClosing_capitals .top Quoting.isSound_outside (.char '(' :: rest)
        rw [capitals_cons, opens.mpr rfl] at after ⊢
        rw [nameAndRest, nameAndRest, after, words_capitals]
        rfl
      · have other : point.capital ≠ .char '(' := fun same => opening (opens.mp same)
        rw [capitals_cons, nameAndRest_cons other, nameAndRest_cons opening, ← capitals_cons,
          words_capitals]
        cases Text.words (point :: rest) <;> rfl

private theorem withoutAliasKeyword_capitals (words : List Text) :
    withoutAliasKeyword (words.map capitals) = (withoutAliasKeyword words).map capitals := by
  cases words with
  | nil => rfl
  | cons first rest =>
      rw [List.map_cons, withoutAliasKeyword, withoutAliasKeyword, upper_capitals]
      split <;> rfl

private theorem tableClause_capitals (source : Text) :
    tableClause (capitals source) = capitals (tableClause source) := by
  unfold tableClause
  rw [first?_capitals clauseEnd_ignoresCase]
  cases first? clauseEnd source <;> rfl

private theorem firstTable_capitals (tables : Text) :
    firstTable (capitals tables) = capitals (firstTable tables) := by
  unfold firstTable
  rw [commaItems_capitals]
  cases Text.commaItems tables with
  | nil => rfl
  | cons item others =>
      simp only [List.map_cons, nameAndRest_capitals, withoutAliasKeyword_capitals]
      rw [← unquoted_capitals]
      cases withoutAliasKeyword (nameAndRest item).2 <;> rfl

private theorem table_capitals (source : Text) :
    table (capitals source) = capitals (table source) := by
  rw [table_eq, table_eq, tableClause_capitals, firstTable_capitals]

end Source

/-! ### The outline -/

namespace SelectOutline

open Keyword

private theorem normalized_capitals (statement : Text) :
    normalized (capitals statement) = capitals (normalized statement) := by
  have alike (point : CodePoint) :
      (point.capital == .char ';') = (point == .char ';') := by
    have semicolon := capital_eq_char_iff point (rfl : ';'.isAlpha = false)
    simp only [beq_eq_decide, semicolon]
  unfold normalized
  rw [singleSpaced_capitals, reverse_capitals, dropWhile_capitals alike, reverse_capitals,
    trim_capitals]

private theorem withoutTableExpressions_capitals (statement : Text) :
    withoutTableExpressions (capitals statement) =
      capitals (withoutTableExpressions statement) := by
  have leading := word_ignoresCase "WITH" none statement
  rw [Option.map_none] at leading
  unfold withoutTableExpressions
  rw [leading, first?_capitals (word_ignoresCase "SELECT")]
  cases word "WITH" none statement with
  | none => rfl
  | some following => cases first? (word "SELECT") statement <;> rfl

theorem afterLeadingWord?_capitals (keyword statement : Text) :
    afterLeadingWord? keyword (capitals statement) =
      (afterLeadingWord? keyword statement).map capitals := by
  unfold afterLeadingWord?
  rw [afterWord?_capitals]
  cases Text.afterWord? keyword statement with
  | none => rfl
  | some rest => exact afterBlanks?_capitals rest

private theorem withoutSelect_capitals (statement : Text) :
    withoutSelect (capitals statement) = capitals (withoutSelect statement) := by
  unfold withoutSelect
  rw [afterLeadingWord?_capitals]
  cases afterLeadingWord? "SELECT" statement with
  | none => rfl
  | some rest =>
      simp only [Option.map_some, afterLeadingWord?_capitals]
      cases afterLeadingWord? "DISTINCT" rest with
      | some following => rfl
      | none => cases afterLeadingWord? "ALL" rest <;> rfl

/-- The outline of a statement in capitals has the same columns and the same table, in
capitals. -/
theorem ofStatement_capitals (statement : Text) :
    ofStatement (capitals statement) =
      ⟨(ofStatement statement).columns.map capitals, capitals (ofStatement statement).table⟩ := by
  have labels (projection : Text) :
      ((commaItems (capitals projection)).filter fun item => !item.isEmpty).map Column.label =
        (((commaItems projection).filter fun item => !item.isEmpty).map Column.label).map
          capitals := by
    have visible : (fun item : Text => !item.isEmpty) ∘ capitals = fun item => !item.isEmpty := by
      funext item
      simp
    rw [commaItems_capitals, List.filter_map, visible, List.map_map, List.map_map]
    exact List.map_congr_left fun item _listed => Column.label_capitals item
  unfold ofStatement
  dsimp only
  rw [normalized_capitals, withoutTableExpressions_capitals, withoutSelect_capitals,
    first?_capitals (word_ignoresCase "FROM")]
  cases first? (word "FROM") (withoutSelect (withoutTableExpressions (normalized statement))) with
  | none =>
      dsimp only [Option.map_none]
      rw [labels]
      rfl
  | some found =>
      dsimp only [Option.map_some, Occurrence.capitals]
      rw [labels, trim_capitals, Source.table_capitals]

end SelectOutline
end PooledQuery
