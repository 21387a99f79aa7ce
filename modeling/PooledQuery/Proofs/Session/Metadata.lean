/-
Pages and slices under a transform.

The row with the total goes through the transform too.  A transform that leaves totals alone
changes nothing about pages and slices but their items: the same statements are given to
cursors, with the same offsets and limits, and the same totals, last pages and limits come
out.  Under any transform a page asks for the same rows, but its total is what the
transform makes of the field.
-/
import PooledQuery.Proofs.Rows.Masking
import PooledQuery.Proofs.Session.Abreast
import PooledQuery.Proofs.Session.PageText
import PooledQuery.Proofs.Session.Selection

namespace PooledQuery

variable {σ α : Type}

def Comparison.ofTransform (transform : Transform) : Comparison where
  former := .identity
  latter := transform
  excuse := ¬ (transform.LetsPass ∧ transform.KeepsTotal)

variable {transform : Transform}

def TotalBecomes (transform : Transform) (total other : Int) : Prop :=
  (total = 0 ∧ other = 0) ∨ ∃ value, Transform.identity.readsTotal value = .ok total ∧
    transform.readsTotal value = .ok other

private theorem totalBecomes_of_counts {tables : List Entries} {total other : Int}
    (counted : Fields.Counts .identity tables total)
    (countedToo : Fields.Counts transform tables other) : TotalBecomes transform total other := by
  cases tables with
  | nil => exact .inl ⟨counted, countedToo⟩
  | cons entries rest =>
      obtain ⟨value, found, reads⟩ := counted
      obtain ⟨same, foundToo, readsToo⟩ := countedToo
      cases Option.some.inj (found.symm.trans foundToo)
      exact .inr ⟨value, reads, readsToo⟩

theorem TotalBecomes.eq_of_keepsTotal {total other : Int}
    (becomes : TotalBecomes transform total other) (keeps : transform.KeepsTotal) :
    other = total := by
  rcases becomes with ⟨zero, zeroToo⟩ | ⟨value, reads, readsToo⟩
  · exact zeroToo.trans zero.symm
  · exact Except.ok.inj (readsToo.symm.trans (keeps value total reads))

def NormalizedFrom (transform : Transform) (rows others : List Json) : Prop :=
  ∃ tables, (∀ n, Paging.total (.rows rows) = .ok n ↔ Fields.Counts .identity tables n) ∧
    ∀ n, Paging.total (.rows others) = .ok n ↔ Fields.Counts transform tables n

theorem normalizes_ofTransform (transform : Transform) :
    (Comparison.ofTransform transform).Normalizes (NormalizedFrom transform) := by
  intro tables
  cases kept : (Fields.normalized .identity (tables.map (Value.table false))).outcome.1 with
  | error failure =>
      change Comparison.Matches _ _ (Fields.normalized .identity _).outcome.1 _
      rw [kept]
      exact .stops failure _
  | ok rows =>
      change Comparison.Matches _ _ (Fields.normalized .identity _).outcome.1
        (Fields.normalized transform _).outcome.1
      rw [kept]
      cases changed : (Fields.normalized transform (tables.map (Value.table false))).outcome.1 with
      | ok others =>
          exact .together rows others ⟨tables, Fields.total_normalized_iff tables kept,
            Fields.total_normalized_iff tables changed⟩
      | error failure =>
          refine .strays _ failure fun spares => ?_
          obtain ⟨others, passes⟩ := spares.1 tables rows kept
          rw [changed] at passes
          cases passes

theorem total_matches {outcome other : Outcome}
    (corresponds : Outcome.Corresponds (NormalizedFrom transform) outcome other) :
    (Comparison.ofTransform transform).Matches (TotalBecomes transform) (Paging.total outcome)
      (Paging.total other) := by
  cases corresponds with
  | change summary => exact .together 0 0 (.inl ⟨rfl, rfl⟩)
  | rows items others agrees =>
      obtain ⟨tables, first, second⟩ := agrees
      cases total : Paging.total (.rows items) with
      | error failure => exact .stops failure _
      | ok n =>
          have counted := (first n).mp total
          cases totalToo : Paging.total (.rows others) with
          | ok m =>
              exact .together n m (totalBecomes_of_counts counted ((second m).mp totalToo))
          | error failure =>
              refine .strays _ failure fun spares => ?_
              have reads := (second n).mpr (spares.2.counts counted)
              rw [totalToo] at reads
              cases reads

/-- The same place in a result.  Only the total, and with it the last page, may differ. -/
structure Page.SamePlace (transform : Transform) (page other : Page) : Prop where
  limit : other.limit = page.limit
  number : other.page = page.page
  total : TotalBecomes transform page.total other.total
  lastPage : other.total = page.total → other.lastPage = page.lastPage

private theorem Page.SamePlace.eq_but_items {page other : Page}
    (same : page.SamePlace transform other)
    (keeps : transform.KeepsTotal) : other = { page with items := other.items } := by
  have total := same.total.eq_of_keepsTotal keeps
  have lastPage := same.lastPage total
  obtain ⟨limit, number, _, _⟩ := same
  cases other
  cases limit
  cases number
  cases total
  cases lastPage
  rfl

namespace Paging

private theorem lastPage_matches {all otherAll : Int} (counts : TotalBecomes transform all otherAll)
    (limit : Number) :
    (Comparison.ofTransform transform).Matches
      (fun last otherLast => otherAll = all → otherLast = last)
      (lastPage (.int all) (.number limit)) (lastPage (.int otherAll) (.number limit)) := by
  cases last : lastPage (.int all) (.number limit) with
  | error failure => exact .stops failure _
  | ok n =>
      cases otherLast : lastPage (.int otherAll) (.number limit) with
      | ok m =>
          refine .together n m fun same => ?_
          rw [same, last] at otherLast
          exact (Except.ok.inj otherLast).symm
      | error failure =>
          refine .strays _ failure fun spares => ?_
          rw [counts.eq_of_keepsTotal spares.2, last] at otherLast
          cases otherLast

private theorem pageBody_abreast (dialect : Dialect) (sql : Text) (params : List Value)
    (page : Value)
    (limit : Number) (offset : Value) :
    (pageBody dialect sql params page limit offset).Abreast (Comparison.ofTransform transform)
      (NormalizedFrom transform) (Page.SamePlace transform)
      (pageBody dialect sql params page limit offset) := by
  unfold pageBody
  refine .ofExcept_bind (.self _) fun _range range same => ?_
  subst same
  refine .ask_bind _ _ fun rows othersRows _corresponds => ?_
  refine .ask_bind _ _ fun counted other corresponds => ?_
  refine .ofExcept_bind (total_matches corresponds) fun all otherAll counts => ?_
  exact .ofExcept_bind (lastPage_matches counts limit) fun last otherLast same =>
    .finish _ _ ⟨rfl, rfl, counts, same⟩

private theorem sliceBody_abreast (keeps : transform.KeepsTotal) (dialect : Dialect) (sql : Text)
    (params : List Value) (slice : Slice) :
    (sliceBody dialect sql params slice).Abreast (Comparison.ofTransform transform)
      (NormalizedFrom transform) (fun page other => other = { page with items := other.items })
      (sliceBody dialect sql params slice) := by
  unfold sliceBody
  refine .ask_bind _ _ fun counted other corresponds => ?_
  refine .ofExcept_bind (total_matches corresponds) fun all otherAll counts => ?_
  rw [counts.eq_of_keepsTotal keeps]
  by_cases empty : all = 0
  · rw [if_pos empty]
    exact .finish _ _ rfl
  · rw [if_neg empty]
    refine .ofExcept_bind (.self _) fun _size size same => ?_
    subst same
    refine .ofExcept_bind (.self _) fun _before before same => ?_
    subst same
    refine .ofExcept_bind (.self _) fun _range range same => ?_
    subst same
    refine .ask_bind _ _ fun rows otherRows _corresponds => ?_
    refine .ofExcept_bind (.self _) fun _last last same => ?_
    subst same
    exact .finish _ _ rfl

end Paging

namespace Session

variable (session : Session σ) (sql : Text) (params : List Value)

private theorem selectPage_tracks (request : PageRequest) :
    (Comparison.ofTransform transform).Tracks (Page.SamePlace transform)
      (session.selectPage sql request params) (session.selectPage sql request params) := by
  have givesUp (page : Value) (limit : Number) (failure : Failure) : World.GivesUp (do
      session.logPageFailure page limit failure
      (Action.fail failure : Action (World σ) Page)) :=
    World.GivesUp.after (fun world => givenTrace_of_inward
      ((session.logPageFailure_within page limit failure).events world)) failure
  unfold Session.selectPage
  refine Comparison.Tracks.read.bind fun first second apart => ?_
  obtain ⟨world, rfl, rfl⟩ := apart
  refine (Comparison.Tracks.ofExcept (.self _)).bind fun _bounds bounds same => ?_
  subst same
  obtain ⟨page, limit⟩ := bounds
  refine (Comparison.Tracks.ofExcept (.self _)).bind fun _offset offset same => ?_
  subst same
  refine (session.runBody_tracks (normalizes_ofTransform transform) false
    (Paging.pageBody_abreast session.dialect sql params page limit offset)).attemptThen
    (givesUp page limit) (givesUp page limit) fun found other same => ?_
  exact Comparison.Tracks.pure same

private theorem selectSlice_tracks (keeps : transform.KeepsTotal) (slice : Slice) :
    (Comparison.ofTransform transform).Tracks
      (fun page other : SlicePage => other = { page with items := other.items })
      (session.selectSlice sql slice params) (session.selectSlice sql slice params) :=
  session.runBody_tracks (normalizes_ofTransform transform) true
    (Paging.sliceBody_abreast keeps session.dialect sql params slice)

end Session

/-- What an action comes to under a transform, beside what it comes to when every field is kept:
as far as both come cursors are given the same statements, and the results agree.  If the
transform lets rows pass and keeps totals, the action succeeds under it too. -/
structure World.Beside (agree : α → α → Prop) (transform : Transform)
    (action : Action (World σ) α) (world : World σ) : Prop where
  given : givenTrace (action (world.under .identity)).events <+:
      givenTrace (action (world.under transform)).events ∨
    givenTrace (action (world.under transform)).events <+:
      givenTrace (action (world.under .identity)).events
  agrees : ∀ result other, (action (world.under .identity)).outcome = .ok result →
    (action (world.under transform)).outcome = .ok other →
      agree result other ∧ givenTrace (action (world.under .identity)).events =
        givenTrace (action (world.under transform)).events
  succeeds : transform.LetsPass → transform.KeepsTotal →
    ∀ result, (action (world.under .identity)).outcome = .ok result →
      ∃ other, (action (world.under transform)).outcome = .ok other

theorem Comparison.Tracks.beside {agree : α → α → Prop} {action : Action (World σ) α}
    (tracks : (Comparison.ofTransform transform).Tracks agree action action) (world : World σ) :
    World.Beside agree transform action world := by
  cases tracks _ _ ⟨world, rfl, rfl⟩ with
  | together result other comes comesToo agrees apart given =>
      constructor
      case given => exact .inl (given ▸ List.prefix_refl _)
      case agrees =>
        intro found foundToo same sameToo
        cases comes.symm.trans same
        cases comesToo.symm.trans sameToo
        exact ⟨agrees, given⟩
      case succeeds => exact fun _passes _keeps _result _comes => ⟨other, comesToo⟩
  | stops failure fails given =>
      constructor
      case given => exact .inl given
      case agrees => exact fun _result _other comes _too => nomatch fails.symm.trans comes
      case succeeds => exact fun _passes _keeps _result comes => nomatch fails.symm.trans comes
  | strays failure fails excused given =>
      constructor
      case given => exact .inr given
      case agrees => exact fun _result _other _comes too => nomatch fails.symm.trans too
      case succeeds => exact fun passes keeps => absurd ⟨passes, keeps⟩ excused

theorem World.Beside.comes {agree : α → α → Prop} {action : Action (World σ) α} {world : World σ}
    (beside : World.Beside agree transform action world) (passes : transform.LetsPass)
    (keeps : transform.KeepsTotal) {result : α}
    (succeeds : (action (world.under .identity)).outcome = .ok result) :
    ∃ other, (action (world.under transform)).outcome = .ok other ∧ agree result other ∧
      givenTrace (action (world.under .identity)).events =
        givenTrace (action (world.under transform)).events := by
  obtain ⟨other, succeedsToo⟩ := beside.succeeds passes keeps result succeeds
  exact ⟨other, succeedsToo, beside.agrees result other succeeds succeedsToo⟩

theorem World.Beside.mono {agree wider : α → α → Prop} {action : Action (World σ) α}
    {world : World σ} (beside : World.Beside agree transform action world)
    (implies : ∀ result other, agree result other → wider result other) :
    World.Beside wider transform action world where
  given := beside.given
  agrees := fun result other comes comesToo =>
    (beside.agrees result other comes comesToo).imp_left (implies result other)
  succeeds := beside.succeeds

namespace Session

/-- A transform that keeps totals changes nothing about pages and slices but their items.  Under
any transform a page is of the same rows, and its total is what the transform makes of the
one that was counted. -/
theorem selections_keep_metadata (session : Session σ) (sql : Text) (params : List Value)
    (world : World σ) (transform : Transform) :
    (∀ request, World.Beside (Page.SamePlace transform) transform
      (session.selectPage sql request params) world) ∧
    (transform.KeepsTotal →
      (∀ request, World.Beside (fun page other => other = { page with items := other.items })
        transform (session.selectPage sql request params) world) ∧
      ∀ slice, World.Beside (fun page other => other = { page with items := other.items })
        transform (session.selectSlice sql slice params) world) := by
  have pages (request : PageRequest) : World.Beside (Page.SamePlace transform) transform
      (session.selectPage sql request params) world :=
    (session.selectPage_tracks sql params request).beside world
  refine ⟨pages, fun keeps => ⟨fun request => ?_, fun slice => ?_⟩⟩
  · exact (pages request).mono fun page other same => same.eq_but_items keeps
  · exact (session.selectSlice_tracks sql params keeps slice).beside world

/-- A transform that puts a text in the place of one field. -/
def masking (name : Text) : Transform where
  observed := true
  apply := fun field value => if field = name then .ok (.text "***") else .ok value

private theorem masking_masks (name : Text) : (masking name).Masks := by
  intro field value
  by_cases same : field = name
  · exact .inr ⟨"***", if_pos same⟩
  · exact .inl (if_neg same)

private theorem masking_keepsTotal {name : Text} (other : name ≠ "total") :
    (masking name).KeepsTotal := by
  intro value n reads
  have keeps (given : Value) : (masking name).apply "total" given = .ok given :=
    if_neg (Ne.symm other)
  unfold Transform.readsTotal at reads ⊢
  simp only [keeps]
  exact reads

/-- The first page of a statement that selects one row. -/
def oneRowPage (transform : Transform) : Execution (World Rehearsal.Stage) Page :=
  (Rehearsal.willingSession .mysql oneRow).selectPage "SELECT id FROM t" (.number (.int 0)) []
    (oneRowWorld.under transform)

def oneRowHalf (transform : Transform) : Execution (World Rehearsal.Stage) SlicePage :=
  (Rehearsal.willingSession .mysql oneRow).selectSlice "SELECT id FROM t" ⟨.int 0, .int 2⟩ []
    (oneRowWorld.under transform)

theorem hidden_id_keeps_metadata :
    (masking "id").KeepsTotal ∧
      (∃ found other, (oneRowPage .identity).outcome = .ok found ∧
        (oneRowPage (masking "id")).outcome = .ok other ∧ found.total = 1 ∧
          other = { found with items := other.items } ∧
            givenTrace (oneRowPage .identity).events = givenTrace (oneRowPage (masking "id")).events) ∧
      ∃ found other, (oneRowHalf .identity).outcome = .ok found ∧
        (oneRowHalf (masking "id")).outcome = .ok other ∧ found.limit = .int 1 ∧
          other = { found with items := other.items } ∧
            givenTrace (oneRowHalf .identity).events =
              givenTrace (oneRowHalf (masking "id")).events := by
  have keeps : (masking "id").KeepsTotal := masking_keepsTotal (by decide)
  have passes : (masking "id").LetsPass := (masking_masks "id").letsPass
  have page : (oneRowPage .identity).outcome.toOption.map Page.total = some 1 := by decide +kernel
  have half : (oneRowHalf .identity).outcome.toOption.map (fun slice => slice.limit) =
      some (.int 1) := by decide +kernel
  obtain ⟨pages, slices⟩ := (selections_keep_metadata (Rehearsal.willingSession .mysql oneRow)
    "SELECT id FROM t" [] oneRowWorld (masking "id")).2 keeps
  refine ⟨keeps, ?_, ?_⟩
  · cases found : (oneRowPage .identity).outcome with
    | error failure =>
        rw [found] at page
        cases page
    | ok first =>
        rw [found] at page
        obtain ⟨other, comes, same, given⟩ := (pages (.number (.int 0))).comes passes keeps found
        exact ⟨first, other, rfl, comes, Option.some.inj page, same, given⟩
  · cases found : (oneRowHalf .identity).outcome with
    | error failure =>
        rw [found] at half
        cases half
    | ok first =>
        rw [found] at half
        obtain ⟨other, comes, same, given⟩ := (slices ⟨.int 0, .int 2⟩).comes passes keeps found
        exact ⟨first, other, rfl, comes, Option.some.inj half, same, given⟩

/-- A transform that puts a number in the place of the field `total`. -/
def renumbering : Transform where
  observed := false
  apply := fun field value => if field = "total" then .ok (.int 7) else .ok value

/-- The transform never fails, but it changes the total of a page, and the rows for which a
slice asks. -/
theorem renumbered_total_is_reported :
    (∀ name value, ∃ answer, renumbering.apply name value = .ok answer) ∧
      (oneRowPage .identity).outcome.toOption.map Page.total = some 1 ∧
      (oneRowPage renumbering).outcome.toOption.map Page.total = some 7 ∧
      (oneRowHalf .identity).outcome.toOption.map (fun slice => slice.limit) = some (.int 1) ∧
      (oneRowHalf renumbering).outcome.toOption.map (fun slice => slice.limit) = some (.int 4) := by
  refine ⟨fun name value => ?_, by decide +kernel, by decide +kernel, by decide +kernel,
    by decide +kernel⟩
  by_cases same : name = "total"
  · exact ⟨.int 7, if_pos same⟩
  · exact ⟨value, if_neg same⟩

end Session
end PooledQuery
