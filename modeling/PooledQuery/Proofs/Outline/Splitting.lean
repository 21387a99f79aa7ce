/-
Taking lists apart at their commas.

At a comma outside parentheses and quotes a reader is back at the top, so what comes after it is
read like a text of its own: the items of a list are those of its parts.  No item can be taken
apart again, and the items, with white space around each and commas outside parentheses and
quotes between them, make up the list.  There is only one list of such items.
-/
import PooledQuery.Proofs.Outline.Items

namespace PooledQuery

open Keyword

namespace Nesting

variable {nesting : Nesting} {point : CodePoint} {rest : Text}

private theorem levelsFrom_append (nesting : Nesting) (first second : Text) :
    nesting.levelsFrom (first ++ second) =
      nesting.levelsFrom first ++ (nesting.after first).levelsFrom second := by
  induction first generalizing nesting with
  | nil => rfl
  | cons point rest ih => exact congrArg (nesting.level point :: ·) (ih (nesting.step point))

private theorem commaPiecesFrom_append_comma {front : Text} (closed : nesting.after front = .top)
    (back : Text) : commaPiecesFrom nesting (front ++ .char ',' :: back) =
      commaPiecesFrom nesting front ++ commaPiecesFrom .top back := by
  induction front generalizing nesting with
  | nil =>
      rw [show nesting = .top from closed]
      rfl
  | cons point rest ih =>
      -- The first piece grows by every point but such a comma, whatever comes after the front.
      have later := ih (show (nesting.step point).after rest = .top from closed)
      obtain ⟨piece, pieces, split⟩ :=
        List.exists_cons_of_ne_nil (commaPiecesFrom_ne_nil (nesting.step point) rest)
      rw [split, List.cons_append] at later
      by_cases comma : point = .char ',' ∧ nesting.isTop point = true
      · rw [List.cons_append, commaPiecesFrom, commaPiecesFrom, if_pos comma, if_pos comma, later,
          split]
        rfl
      · rw [List.cons_append, commaPiecesFrom_cons comma later, commaPiecesFrom_cons comma split]
        rfl

theorem commaPiecesFrom_cases (before : Option CodePoint) (nesting : Nesting) (text : Text) :
    (Passes (mark ',') [] before nesting text ∧ commaPiecesFrom nesting text = [text]) ∨
      ∃ piece others, text = piece ++ .char ',' :: others ∧ nesting.after piece = .top ∧
        Passes (mark ',') [] before nesting piece ∧
        commaPiecesFrom nesting text = piece :: commaPiecesFrom .top others := by
  induction text generalizing before nesting with
  | nil => exact .inl ⟨trivial, rfl⟩
  | cons point rest ih =>
      by_cases comma : point = .char ',' ∧ nesting.isTop point = true
      · obtain ⟨rfl, atTop⟩ := comma
        have inert : (CodePoint.char ',').isInert = true := by decide
        obtain rfl := (isTop_iff_of_inert inert nesting).mp atTop
        exact .inr ⟨[], rest, rfl, rfl, trivial, rfl⟩
      · have unmarked (following : Text) : nesting.isTop point = true →
            mark ',' before (point :: following) = none := by
          intro atTop
          have other : point ≠ .char ',' := fun same => comma ⟨same, atTop⟩
          simp [mark, other]
        rcases ih (some point) (nesting.step point) with
          ⟨passes, whole⟩ | ⟨piece, others, rfl, closed, passes, split⟩
        · exact .inl ⟨⟨unmarked _, passes⟩, commaPiecesFrom_cons comma whole⟩
        · exact .inr ⟨point :: piece, others, rfl, closed, ⟨unmarked _, passes⟩,
            commaPiecesFrom_cons comma split⟩

def topCommasFrom (nesting : Nesting) (text : Text) : Nat :=
  (text.zip (nesting.levelsFrom text)).count (.char ',', some 0)

private theorem length_commaPiecesFrom (nesting : Nesting) (text : Text) :
    (commaPiecesFrom nesting text).length = nesting.topCommasFrom text + 1 := by
  induction text generalizing nesting with
  | nil => rfl
  | cons point rest ih =>
      obtain ⟨piece, pieces, split⟩ :=
        List.exists_cons_of_ne_nil (commaPiecesFrom_ne_nil (nesting.step point) rest)
      have later := ih (nesting.step point)
      have counted : nesting.topCommasFrom (point :: rest) =
          (nesting.step point).topCommasFrom rest +
            if ((point, nesting.level point) == (.char ',', some 0)) = true then 1 else 0 :=
        List.count_cons
      by_cases comma : point = .char ',' ∧ nesting.isTop point = true
      · rw [commaPiecesFrom, if_pos comma, List.length_cons, later, counted, if_pos]
        simpa [isTop] using comma
      · rw [commaPiecesFrom_cons comma split, List.length_cons, ← List.length_cons, ← split, later,
          counted, if_neg]
        simpa [isTop] using comma

end Nesting

namespace Text

variable {text item piece : Text} {items : List Text}

theorem commaPieces_induction {motive : Text → List Text → Prop}
    (single : ∀ text, LacksComma text → motive text [text])
    (cons : ∀ piece following pieces, LacksComma piece → Nesting.top.after piece = .top →
      motive following pieces → motive (piece ++ .char ',' :: following) (piece :: pieces))
    (text : Text) : motive text (Nesting.commaPiecesFrom .top text) := by
  -- What follows the first comma is shorter, and there the reader is back at the top.
  induction length : text.length using Nat.strongRecOn generalizing text with
  | _ size ih =>
      rcases Nesting.commaPiecesFrom_cases none .top text with
        ⟨passes, whole⟩ | ⟨piece, following, rfl, closed, passes, split⟩
      · rw [whole]
        exact single text (lacksComma_of_passes passes)
      · rw [split]
        refine cons piece following _ (lacksComma_of_passes passes) closed
          (ih following.length ?_ following rfl)
        rw [← length, List.length_append, List.length_cons]
        omega

private theorem lacksComma_of_mem_commaPieces :
    ∀ piece ∈ Nesting.commaPiecesFrom .top text, LacksComma piece := by
  refine commaPieces_induction (motive := fun _text pieces => ∀ piece ∈ pieces, LacksComma piece)
    ?_ ?_ text
  · exact fun text lacks => List.forall_mem_singleton.mpr lacks
  · exact fun piece following pieces lacks _closed others => List.forall_mem_cons.mpr ⟨lacks, others⟩

theorem commaItems_eq_singleton_iff :
    commaItems text = [item] ↔ LacksComma text ∧ trim text = item := by
  unfold commaItems
  rcases Nesting.commaPiecesFrom_cases none .top text with
    ⟨passes, whole⟩ | ⟨piece, others, rfl, closed, _passes, split⟩
  · rw [whole]
    simp [lacksComma_of_passes passes]
  · refine iff_of_false ?_ fun single => single.1 piece others rfl closed
    obtain ⟨next, more, later⟩ :=
      List.exists_cons_of_ne_nil (Nesting.commaPiecesFrom_ne_nil .top others)
    rw [split, later]
    simp

/-! ### White space around items -/

def IsPadded (item piece : Text) : Prop :=
  ∃ before after, IsBlank before ∧ IsBlank after ∧ piece = before ++ item ++ after

theorem isPadded_trim (text : Text) : IsPadded (trim text) text := by
  obtain ⟨before, after, blankBefore, blankAfter, whole, _flush⟩ := exists_trim text
  exact ⟨before, after, blankBefore, blankAfter, whole⟩

theorem IsPadded.lacksComma_iff (padded : IsPadded item piece) :
    LacksComma piece ↔ LacksComma item := by
  obtain ⟨before, after, blankBefore, blankAfter, rfl⟩ := padded
  have stays : Nesting.top.after before = .top := blankBefore.isBalanced.after_top
  constructor
  · intro lacks front back split closed
    refine lacks (before ++ front) (back ++ after) ?_ ?_
    · rw [split]
      simp
    · rw [Nesting.after_append, stays, closed]
  · intro lacks
    have plain {margin : Text} (blank : margin.IsBlank) : .char ',' ∉ margin := by
      intro member
      cases blank _ member
    apply lacksComma_of_passes
    refine Passes.append (Passes.append (passes_mark_of_not_mem (plain blankBefore)) ?_)
      (passes_mark_of_not_mem (plain blankAfter))
    rw [stays]
    exact (passes_of_lacksComma lacks).extend_mark.of_none_mark

theorem IsPadded.commaItems_eq (padded : IsPadded item piece)
    (atomic : commaItems item = [item]) : commaItems piece = [item] := by
  obtain ⟨lacks, trimmed⟩ := commaItems_eq_singleton_iff.mp atomic
  refine commaItems_eq_singleton_iff.mpr ⟨padded.lacksComma_iff.mpr lacks, ?_⟩
  have flush : item.IsFlush := trimmed ▸ isFlush_trim item
  obtain ⟨before, after, blankBefore, blankAfter, rfl⟩ := padded
  exact flush.trim_between blankBefore blankAfter

private theorem commaItems_of_mem_commaItems (member : item ∈ commaItems text) :
    commaItems item = [item] := by
  obtain ⟨piece, listed, rfl⟩ := List.mem_map.mp member
  have lacks := lacksComma_of_mem_commaPieces piece listed
  exact commaItems_eq_singleton_iff.mpr
    ⟨(isPadded_trim piece).lacksComma_iff.mp lacks, (isFlush_trim piece).trim_eq⟩

/-! ### Lists and their items -/

/-- A text that is made up of items, with white space around each, and between any two of them
a comma outside parentheses and quotes. -/
inductive Lists : List Text → Text → Prop where
  | single {item piece : Text} (padded : IsPadded item piece) : Lists [item] piece
  | cons {item piece following : Text} {items : List Text} (padded : IsPadded item piece)
      (closed : Nesting.top.after piece = .top) (others : Lists items following) :
      Lists (item :: items) (piece ++ .char ',' :: following)

private theorem lists_commaItems (text : Text) : Lists (commaItems text) text := by
  refine commaPieces_induction (motive := fun text pieces => Lists (pieces.map trim) text) ?_ ?_ text
  · exact fun text _lacks => .single (isPadded_trim text)
  · exact fun piece following pieces _lacks closed others =>
      .cons (isPadded_trim piece) closed others

theorem commaItems_append_comma {front : Text} (closed : Nesting.top.after front = .top)
    (back : Text) :
    commaItems (front ++ .char ',' :: back) = commaItems front ++ commaItems back := by
  unfold commaItems
  rw [Nesting.commaPiecesFrom_append_comma closed, List.map_append]

/-- A text is made up of only one list of items that cannot be taken apart. -/
theorem Lists.eq_commaItems (lists : Lists items text)
    (atomic : ∀ item ∈ items, commaItems item = [item]) : items = commaItems text := by
  induction lists with
  | single padded =>
      exact (padded.commaItems_eq (atomic _ List.mem_cons_self)).symm
  | cons padded closed others ih =>
      obtain ⟨first, later⟩ := List.forall_mem_cons.mp atomic
      rw [commaItems_append_comma closed, padded.commaItems_eq first, ih later]
      rfl

def topCommas (text : Text) : Nat :=
  Nesting.top.topCommasFrom text

/-- What taking a text apart at its commas comes to. -/
structure TakenApart (text : Text) : Prop where
  -- No item can be taken apart again.
  atomic : ∀ item ∈ commaItems text, commaItems item = [item]
  -- There is one item more than there are commas outside parentheses and quotes.
  counted : (commaItems text).length = topCommas text + 1
  -- The items, with these commas between them and white space around them, are the text.
  made : Lists (commaItems text) text
  -- There are no other such items.
  only : ∀ items, Lists items text → (∀ item ∈ items, commaItems item = [item]) →
    items = commaItems text

/-- Whatever follows a text after which a reader is outside parentheses and quotes has the levels
of a text of its own, and after a comma its own items; and every text, balanced or not, is taken
apart into items that make it up. -/
theorem commaItems_compositional :
    (∀ front back, Nesting.top.after front = .top →
      Nesting.levels (front ++ back) = Nesting.levels front ++ Nesting.levels back ∧
        commaItems (front ++ .char ',' :: back) = commaItems front ++ commaItems back) ∧
      ∀ text, TakenApart text := by
  refine ⟨fun front back closed => ⟨?_, commaItems_append_comma closed back⟩, fun text => ?_⟩
  · have levels := Nesting.levelsFrom_append .top front back
    rwa [closed] at levels
  · exact
      { atomic := fun item member => commaItems_of_mem_commaItems member
        counted := by
          unfold commaItems
          rw [List.length_map, Nesting.length_commaPiecesFrom]
          rfl
        made := lists_commaItems text
        only := fun items lists atomic => lists.eq_commaItems atomic }

/-- A closing parenthesis too many leaves the reader outside of all, and an open quote after the
comma does not matter to what is before it. -/
theorem unclosed_quote_commaItems :
    Nesting.top.after "f(a, ')') ), b" = .top ∧
      Nesting.levels (("f(a, ')') ), b" : Text) ++ (" 'x, y" : Text)) =
        Nesting.levels "f(a, ')') ), b" ++ Nesting.levels " 'x, y" ∧
      commaItems (("f(a, ')') ), b" : Text) ++ .char ',' :: (" 'x, y" : Text)) =
        commaItems "f(a, ')') ), b" ++ commaItems " 'x, y" := by
  have closed : Nesting.top.after "f(a, ')') ), b" = .top := by decide
  exact ⟨closed, commaItems_compositional.1 _ _ closed⟩

example : commaItems "f(a, ')') ), b, 'x, y" =
    [("f(a, ')') )" : Text), ("b" : Text), ("'x, y" : Text)] := by decide

end Text
end PooledQuery
