/-
What selections of pages and slices ask, and what they give to cursors.

A page asks for its range and then for the total, a slice for the total and then for its
range.  What comes after a failure is left out, and nothing is asked twice.
-/
import PooledQuery.Proofs.Failure
import PooledQuery.Proofs.Session.Askings

namespace PooledQuery.Session

variable {σ : Type} (session : Session σ) (id : LeaseId) (sql : Text) (params : List Value)

def givenRange (clause sql : Text) (params : List Value) (offset limit : Value) : GivenStatement :=
  GivenStatement.of (sql ++ "\n" ++ clause) (params ++ [offset, limit])

def givenCount (sql : Text) (params : List Value) : GivenStatement :=
  GivenStatement.of (Paging.countStatement sql) params

theorem rangeStatement_of_clause (dialect : Dialect) (clause : Text)
    (bounded : dialect.rangeClause = .ok clause) :
    Paging.rangeStatement sql (some dialect) = .ok (sql ++ "\n" ++ clause) := by
  have clauseOf : Dialect.rangeClauseOf (some dialect) = .ok clause := bounded
  unfold Paging.rangeStatement
  rw [clauseOf]
  rfl

def pageAskings (id : LeaseId) (clause sql : Text) (params : List Value) (offset limit : Value)
    (world : World σ) : List (Asking σ) :=
  let range : Asking σ := ⟨id, sql ++ "\n" ++ clause, params ++ [offset, limit], world⟩
  range :: if (session.asked range).outcome.isOk then
    [⟨id, Paging.countStatement sql, params, (session.asked range).state⟩]
  else []

theorem askings_pageBody (clause : Text) (bounded : session.dialect.rangeClause = .ok clause)
    (page : Value) (limit : Number) (offset : Value) (world : World σ) :
    session.askings id (Paging.pageBody session.dialect sql params page limit offset) world =
      session.pageAskings id clause sql params offset (.number limit) world := by
  unfold Paging.pageBody pageAskings
  rw [askings_ofExcept_bind, rangeStatement_of_clause sql session.dialect clause bounded]
  dsimp only
  rw [askings_ask_bind]
  dsimp only
  cases (session.asked ⟨id, sql ++ "\n" ++ clause, params ++ [offset, .number limit],
      world⟩).outcome with
  | error failure => rfl
  | ok rows =>
      refine congrArg (List.cons _) (session.askings_ask_bind_of_silent id _ _ _ ?_)
      intro counted after
      refine session.askings_ofExcept_bind_of_silent id after _ fun all => ?_
      exact session.askings_ofExcept_bind_of_silent id after _ fun last => rfl

private theorem course_pageBody (clause : Text) (bounded : session.dialect.rangeClause = .ok clause)
    (page : Value) (limit : Number) (offset : Value) (world : World σ) :
    List.Sublist ((session.course id
        (Paging.pageBody session.dialect sql params page limit offset) world).map Attempt.given)
      [givenRange clause sql params offset (.number limit), givenCount sql params] := by
  rw [course_eq_map, session.askings_pageBody id sql params clause bounded]
  unfold pageAskings
  dsimp only
  split
  · exact List.Sublist.refl _
  · exact List.Sublist.cons_cons _ (List.nil_sublist _)

/-- The offset and the size of a slice of so many rows. -/
def SliceBounds (slice : Slice) (offset size : Value) : Prop :=
  ∃ (total count : Int), Paging.parts (.int total) (.number slice.count) = .ok count ∧
    size = .int count ∧ Paging.offset slice.index size = .ok offset

def AsksSlice (clause : Text) (slice : Slice) (statements : List GivenStatement) : Prop :=
  statements = [] ∨ ∃ offset size, SliceBounds slice offset size ∧
    statements = [givenRange clause sql params offset size]

/-- The offset and the size of a slice whose rows have been counted, unless there are none. -/
def sliceRange? (slice : Slice) (counted : Outcome) : Except Failure (Option (Value × Value)) := do
  let all ← Paging.total counted
  if all = 0 then
    return none
  else
    let size ← Paging.parts (.int all) (.number slice.count)
    let offset ← Paging.offset slice.index (.int size)
    return some (offset, .int size)

def rangeAskings (id : LeaseId) (clause sql : Text) (params : List Value) (world : World σ) :
    Except Failure (Option (Value × Value)) → List (Asking σ)
  | .ok (some (offset, size)) => [⟨id, sql ++ "\n" ++ clause, params ++ [offset, size], world⟩]
  | _ => []

/-- The statements of a slice in order: the total and, if that succeeds and there are rows,
its range. -/
def sliceAskings (id : LeaseId) (clause sql : Text) (params : List Value) (slice : Slice)
    (world : World σ) : List (Asking σ) :=
  let count : Asking σ := ⟨id, Paging.countStatement sql, params, world⟩
  count :: rangeAskings id clause sql params (session.asked count).state
    ((session.asked count).outcome.bind (sliceRange? slice))

theorem askings_sliceBody (clause : Text) (bounded : session.dialect.rangeClause = .ok clause)
    (slice : Slice) (world : World σ) :
    session.askings id (Paging.sliceBody session.dialect sql params slice) world =
      session.sliceAskings id clause sql params slice world := by
  unfold Paging.sliceBody sliceAskings
  rw [askings_ask_bind]
  dsimp only
  refine congrArg (List.cons _) ?_
  -- Whatever fails after the total ends the body, so only the last case asks for the range.
  cases (session.asked ⟨id, Paging.countStatement sql, params, world⟩).outcome with
  | error failure => rfl
  | ok counted =>
      dsimp only [Except.bind]
      unfold sliceRange?
      rw [askings_ofExcept_bind]
      cases Paging.total counted with
      | error failure => rfl
      | ok all =>
          dsimp only
          rw [Failure.ok_bind]
          by_cases empty : all = 0
          · rw [if_pos empty, if_pos empty]
            rfl
          · rw [if_neg empty, if_neg empty, askings_ofExcept_bind]
            cases Paging.parts (.int all) (.number slice.count) with
            | error failure => rfl
            | ok size =>
                dsimp only
                rw [Failure.ok_bind, askings_ofExcept_bind]
                cases Paging.offset slice.index (.int size) with
                | error failure => rfl
                | ok offset =>
                    dsimp only
                    rw [askings_ofExcept_bind,
                      rangeStatement_of_clause sql session.dialect clause bounded]
                    refine session.askings_ask_bind_of_silent id _ _ _ fun rows after => ?_
                    exact session.askings_ofExcept_bind_of_silent id after _ fun last => rfl

private theorem sliceBounds_of_range {slice : Slice} {counted : Outcome} {offset size : Value}
    (ranged : sliceRange? slice counted = .ok (some (offset, size))) :
    SliceBounds slice offset size := by
  obtain ⟨all, _, ranged⟩ := Failure.bind_ok ranged
  by_cases empty : all = 0
  · rw [if_pos empty] at ranged
    cases ranged
  · rw [if_neg empty] at ranged
    obtain ⟨count, parts, ranged⟩ := Failure.bind_ok ranged
    obtain ⟨before, offsets, ranged⟩ := Failure.bind_ok ranged
    cases ranged
    exact ⟨all, count, parts, rfl, offsets⟩

private theorem course_sliceBody (clause : Text)
    (bounded : session.dialect.rangeClause = .ok clause)
    (slice : Slice) (world : World σ) :
    ∃ statements, AsksSlice sql params clause slice statements ∧
      List.Sublist ((session.course id
          (Paging.sliceBody session.dialect sql params slice) world).map Attempt.given)
        (givenCount sql params :: statements) := by
  rw [course_eq_map, session.askings_sliceBody id sql params clause bounded]
  unfold sliceAskings
  dsimp only
  cases counted : (session.asked ⟨id, Paging.countStatement sql, params, world⟩).outcome with
  | error failure => exact ⟨[], .inl rfl, List.Sublist.refl _⟩
  | ok outcome =>
      dsimp only [Except.bind]
      cases ranged : sliceRange? slice outcome with
      | error failure => exact ⟨[], .inl rfl, List.Sublist.refl _⟩
      | ok range =>
          cases range with
          | none => exact ⟨[], .inl rfl, List.Sublist.refl _⟩
          | some bounds =>
              obtain ⟨offset, size⟩ := bounds
              exact ⟨[givenRange clause sql params offset size],
                .inr ⟨offset, size, sliceBounds_of_range ranged, rfl⟩, List.Sublist.refl _⟩

/-! ### Selections -/

theorem logPageFailure_within (page : Value) (limit : Number) (failure : Failure) :
    Action.Within World.steady Event.IsInward (session.logPageFailure page limit failure) := by
  unfold Session.logPageFailure
  refine Action.Within.read.bind fun world => ?_
  split
  · exact session.log_within _ _ _ _
  · exact Action.Within.pure ()

/-- A page's number, limit and offset under the settings. -/
def PageBounds (settings : Settings) (request : PageRequest) (page : Value) (limit : Number)
    (offset : Value) : Prop :=
  request.resolve (.number settings.defaultLimit) = .ok (page, limit) ∧
    Paging.offset page (.number limit) = .ok offset

section Page

variable {request : PageRequest} {page : Value} {limit : Number} {offset : Value} {world : World σ}
  (bounds : PageBounds world.settings request page limit offset)

include bounds

theorem selectPage_of_found {found : Page}
    (succeeds : (session.runBody false
      (Paging.pageBody session.dialect sql params page limit offset) world).outcome = .ok found) :
    session.selectPage sql request params world = session.runBody false
      (Paging.pageBody session.dialect sql params page limit offset) world := by
  unfold Session.selectPage
  rw [Action.read_bind, bounds.1, Action.ofExcept_ok_bind]
  dsimp only
  rw [bounds.2, Action.ofExcept_ok_bind, Action.attempt_bind, succeeds]
  change Execution.mk (.ok found) (session.runBody false _ world).state (_ ++ []) = _
  rw [List.append_nil, ← succeeds]

theorem selectPage_of_failed {failure : Failure}
    (fails : (session.runBody false
      (Paging.pageBody session.dialect sql params page limit offset) world).outcome =
        .error failure) :
    session.selectPage sql request params world =
      let run := session.runBody false
        (Paging.pageBody session.dialect sql params page limit offset) world
      let noted := session.logPageFailure page limit failure run.state
      ⟨noted.outcome.bind fun _noted => .error failure, noted.state, run.events ++ noted.events⟩ := by
  unfold Session.selectPage
  rw [Action.read_bind, bounds.1, Action.ofExcept_ok_bind]
  dsimp only
  rw [bounds.2, Action.ofExcept_ok_bind, Action.attempt_bind, fails]
  dsimp only
  rw [Action.bind_fail]

theorem selectPage_events :
    ∃ lines, (∀ event ∈ lines, event.IsInward) ∧
      (session.selectPage sql request params world).events = (session.runBody false
        (Paging.pageBody session.dialect sql params page limit offset) world).events ++ lines := by
  cases outcome : (session.runBody false
      (Paging.pageBody session.dialect sql params page limit offset) world).outcome with
  | ok found =>
      rw [session.selectPage_of_found sql params bounds outcome]
      exact ⟨[], fun _event member => (nomatch member), (List.append_nil _).symm⟩
  | error failure =>
      rw [session.selectPage_of_failed sql params bounds outcome]
      exact ⟨_, (session.logPageFailure_within page limit failure).events _, rfl⟩

theorem givenTrace_selectPage_run :
    givenTrace (session.selectPage sql request params world).events =
      givenTrace (session.runBody false
        (Paging.pageBody session.dialect sql params page limit offset) world).events := by
  obtain ⟨lines, inward, events⟩ := session.selectPage_events sql params bounds
  rw [events, givenTrace_append, givenTrace_of_inward inward, List.append_nil]

end Page

/-- A page either is refused at once, or amounts to a run outside a transaction. -/
theorem selectPage_cases (request : PageRequest) (world : World σ) :
    (session.selectPage sql request params world).events = [] ∨
      ∃ page limit offset, PageBounds world.settings request page limit offset ∧
        givenTrace (session.selectPage sql request params world).events =
          givenTrace (session.runBody false
            (Paging.pageBody session.dialect sql params page limit offset) world).events := by
  cases resolved : request.resolve (.number world.settings.defaultLimit) with
  | error failure =>
      left
      unfold Session.selectPage
      rw [Action.read_bind, resolved, Action.ofExcept_error_bind]
      rfl
  | ok pageAndLimit =>
      obtain ⟨page, limit⟩ := pageAndLimit
      cases before : Paging.offset page (.number limit) with
      | error failure =>
          left
          unfold Session.selectPage
          rw [Action.read_bind, resolved, Action.ofExcept_ok_bind]
          dsimp only
          rw [before, Action.ofExcept_error_bind]
          rfl
      | ok offset =>
          have bounds : PageBounds world.settings request page limit offset := ⟨resolved, before⟩
          exact .inr ⟨page, limit, offset, bounds,
            session.givenTrace_selectPage_run sql params bounds⟩

/-- A page gives its range and then the total to cursors, as far as it comes. -/
theorem givenTrace_selectPage (clause : Text)
    (bounded : session.dialect.rangeClause = .ok clause) (request : PageRequest)
    (world : World σ) :
    givenTrace (session.selectPage sql request params world).events = [] ∨
      ∃ page limit offset, PageBounds world.settings request page limit offset ∧
        List.Sublist (givenTrace (session.selectPage sql request params world).events)
          [givenRange clause sql params offset (.number limit), givenCount sql params] := by
  rcases session.selectPage_cases sql params request world with
    refused | ⟨page, limit, offset, resolved, same⟩
  · left
    rw [refused]
    rfl
  · rw [same]
    rcases session.givenTrace_runBody_cases
        (Paging.pageBody session.dialect sql params page limit offset) world false with
      nothing | ⟨start, sublist⟩
    · exact .inl nothing
    · exact .inr ⟨page, limit, offset, resolved,
        sublist.trans (session.course_pageBody _ sql params clause bounded page limit offset start)⟩

theorem givenTrace_selectSlice (clause : Text)
    (bounded : session.dialect.rangeClause = .ok clause) (slice : Slice) (world : World σ) :
    ∃ statements, AsksSlice sql params clause slice statements ∧
      List.Sublist (givenTrace (session.selectSlice sql slice params world).events)
        (givenCount sql params :: statements) := by
  unfold Session.selectSlice
  rcases session.givenTrace_runBody_cases
      (Paging.sliceBody session.dialect sql params slice) world true with
    nothing | ⟨start, sublist⟩
  · rw [nothing]
    exact ⟨[], .inl rfl, List.nil_sublist _⟩
  · obtain ⟨statements, asked, bound⟩ :=
      session.course_sliceBody (nextLease world) sql params clause bounded slice start
    exact ⟨statements, asked, sublist.trans bound⟩

end PooledQuery.Session
