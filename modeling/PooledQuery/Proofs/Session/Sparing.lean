/-
What the sink is spared.

A statement that is to be ignored is neither kept on its lease nor handed to the sink.  The lease
of a run has nothing kept on it at first, and after a rollback the sink gets what was kept since.
So whatever is asked of a session, the sink gets only statements that count; which these are is
up to the marker, and no adjustment changes that.
-/
import Mathlib.Data.List.GetD
import PooledQuery.Proofs.Session.Adjusting
import PooledQuery.Proofs.Session.Selection
import PooledQuery.Proofs.Session.Survival
import PooledQuery.Proofs.Settings.Marker

namespace PooledQuery

variable {σ α β : Type}

namespace Action

/-- From states with the invariant the action ends in such a state, and all its events on the way
there are of the class. -/
def Preserves (invariant : σ → Prop) (allowed : Event → Prop) (action : Action σ α) : Prop :=
  ∀ state, invariant state → invariant (action state).state ∧
    ∀ event ∈ (action state).events, allowed event

/-- The frame of what an invariant outlasts. -/
def outlasting (invariant : σ → Prop) : Frame σ where
  relates := fun before after => invariant before → invariant after
  refl := fun _state holds => holds
  trans := fun former latter holds => latter (former holds)

namespace Preserves

variable {invariant : σ → Prop} {allowed narrower : Event → Prop}

theorem of_within {action : Action σ α}
    (bounded : Within (outlasting invariant) narrower action)
    (among : ∀ event, narrower event → allowed event) : Preserves invariant allowed action :=
  fun state holds => ⟨bounded.state state holds, (bounded.widen among).events state⟩

theorem ofExcept (outcome : Except Failure α) :
    Preserves invariant allowed (Action.ofExcept outcome) :=
  fun _state holds => ⟨holds, fun _event member => nomatch member⟩

theorem readThen {next : σ → Action σ α}
    (follows : ∀ read, invariant read → Preserves invariant allowed (next read)) :
    Preserves invariant allowed (Action.read >>= next) := by
  intro state holds
  rw [read_bind]
  exact follows state holds state holds

theorem bind {first : Action σ α} {next : α → Action σ β}
    (preserves : Preserves invariant allowed first)
    (follows : ∀ result, Preserves invariant allowed (next result)) :
    Preserves invariant allowed (first >>= next) := by
  intro state holds
  obtain ⟨kept, earlier⟩ := preserves state holds
  cases outcome : (first state).outcome with
  | error failure =>
      rw [bind_of_error first next state failure outcome]
      exact ⟨kept, earlier⟩
  | ok result =>
      obtain ⟨still, later⟩ := follows result (first state).state kept
      rw [bind_of_ok first next state result outcome]
      exact ⟨still, List.forall_mem_append.mpr ⟨earlier, later⟩⟩

theorem attempt {action : Action σ α} (preserves : Preserves invariant allowed action) :
    Preserves invariant allowed (Action.attempt action) :=
  preserves

theorem thenAlways {action : Action σ α} {cleanup : Action σ Unit}
    (preserves : Preserves invariant allowed action)
    (cleans : Preserves invariant allowed cleanup) :
    Preserves invariant allowed (Action.thenAlways action cleanup) :=
  preserves.attempt.bind fun outcome => cleans.bind fun _done => ofExcept outcome

end Preserves
end Action

/-- Whether the sink gets nothing by an event but a statement that counts. -/
def Event.Spares (ignores : Text → Except Failure Bool) (event : Event) : Prop :=
  ∀ statement, event.reported? = some statement → ignores statement.1 = .ok false

namespace Event

variable {ignores : Text → Except Failure Bool} {event : Event}

theorem spares_of_inward (inward : event.IsInward) : event.Spares ignores := by
  intro statement reported
  unfold IsInward isOutward at inward
  rw [reported, Option.isSome_some, Bool.or_true] at inward
  cases inward

theorem spares_of_call {calls : List DriverCall} (one : event.CallsOneOf calls) :
    event.Spares ignores := by
  obtain ⟨call, _member, called⟩ := one
  intro statement reported
  cases event with
  | report sql params => cases called
  | _ => cases reported

end Event

namespace World

/-- A world that ignores such statements, and has only others kept on the leases from a place
on. -/
structure Sparing (ignores : Text → Except Failure Bool) (count : Nat) (world : World σ) : Prop where
  settings : world.settings.ignores = ignores
  among : count ≤ world.leases.length
  failed : ∀ id, count ≤ id → ∀ statement ∈ (world.lease id).failed,
    ignores statement.1 = .ok false

private theorem sparing_self (world : World σ) :
    Sparing world.settings.ignores (Session.nextLease world) world where
  settings := rfl
  among := Nat.le_refl _
  failed := by
    intro id later statement member
    unfold World.lease at member
    rw [List.getD_eq_default _ _ later] at member
    cases member

/-- An action by which such worlds stay such, and by which the sink is spared. -/
abbrev Spares (ignores : Text → Except Failure Bool) (count : Nat)
    (action : Action (World σ) α) : Prop :=
  Action.Preserves (Sparing ignores count) (Event.Spares ignores) action

variable {ignores : Text → Except Failure Bool} {count : Nat}

theorem Steady.sparing {before after : World σ} (same : Steady before after)
    (sparing : Sparing ignores count before) : Sparing ignores count after where
  settings := by rw [same.settings, sparing.settings]
  among := by rw [same.leases]; exact sparing.among
  failed := by
    intro id later
    rw [same.lease id]
    exact sparing.failed id later

theorem spares_of_steady {allowed : Event → Prop} {action : Action (World σ) α}
    (bounded : Action.Within steady allowed action)
    (others : ∀ event, allowed event → event.Spares ignores) : Spares ignores count action :=
  .of_within (bounded.enlarge Steady.sparing) others

theorem spares_of_inward {action : Action (World σ) α}
    (bounded : Action.Within steady Event.IsInward action) : Spares ignores count action :=
  spares_of_steady bounded fun _event => Event.spares_of_inward

theorem spares_of_calls {calls : List DriverCall} {action : Action (World σ) α}
    (bounded : Action.Within steady (Event.CallsOneOf calls) action) :
    Spares ignores count action :=
  spares_of_steady bounded fun _event => Event.spares_of_call

theorem report_spares {statement : FailedStatement} (counts : ignores statement.1 = .ok false) :
    Action.Within steady (Event.Spares ignores)
      (World.report statement : Action (World σ) Unit) := by
  unfold World.report
  refine Action.Within.read.bind fun world => ?_
  cases world.sink with
  | discard => exact Action.Within.pure ()
  | report respond =>
      have spares : Event.Spares ignores (.report statement.1 statement.2) := by
        intro other reported
        cases reported
        exact counts
      exact (Action.Within.emit _ spares).bind fun _emitted => Action.Within.ofExcept _

private theorem reportAll_spares {statements : List FailedStatement}
    (all : ∀ statement ∈ statements, ignores statement.1 = .ok false) :
    Action.Within steady (Event.Spares ignores)
      (World.reportAll statements : Action (World σ) Unit) := by
  induction statements with
  | nil => exact Action.Within.pure ()
  | cons statement rest ih =>
      obtain ⟨counts, others⟩ := List.forall_mem_cons.mp all
      exact (report_spares counts).bind fun _reported => ih others

theorem Sparing.withFailed {world : World σ} (sparing : Sparing ignores count world)
    {id : LeaseId} {statement : FailedStatement} (counts : ignores statement.1 = .ok false)
    (transactional : (world.lease id).transactional = true) :
    Sparing ignores count (world.withFailed id statement) where
  settings := sparing.settings
  among := by
    unfold World.withFailed
    rw [List.length_modify]
    exact sparing.among
  failed := by
    intro other later
    by_cases same : other = id
    · rw [same, lease_withFailed world id statement transactional]
      refine List.forall_mem_append.mpr ⟨sparing.failed id (same ▸ later), ?_⟩
      exact List.forall_mem_singleton.mpr counts
    · rw [(withFailed_fills world id statement transactional).others other same]
      exact sparing.failed other later

theorem Sparing.closed {world : World σ} (sparing : Sparing ignores count world) (id : LeaseId) :
    Sparing ignores count
      { world with leases := world.leases.modify id fun lease => { lease with isOpen := false } } where
  settings := sparing.settings
  among := by
    rw [List.length_modify]
    exact sparing.among
  failed := by
    intro other later
    by_cases same : other = id
    · subst same
      have kept := sparing.failed other later
      unfold World.lease at kept ⊢
      simp only [List.getD_eq_getElem?_getD, List.getElem?_modify_eq] at kept ⊢
      cases found : world.leases[other]? with
      | none => exact fun _statement member => nomatch member
      | some lease =>
          rw [found] at kept
          exact kept
    · rw [lease_modify_other world id other _ same]
      exact sparing.failed other later

theorem Sparing.borrowed {world : World σ} (sparing : Sparing ignores count world)
    (transactional : Bool) :
    Sparing ignores count
      { world with leases := world.leases ++ [⟨true, transactional, []⟩] } where
  settings := sparing.settings
  among := by
    rw [List.length_append]
    exact Nat.le_add_right_of_le sparing.among
  failed := by
    intro id later statement member
    have nothing (place : Nat) : (List.getD [⟨true, transactional, []⟩] place
        ⟨false, false, []⟩ : Lease).failed = [] := by
      cases place <;> rfl
    unfold World.lease at member
    rcases Nat.lt_or_ge id world.leases.length with earlier | beyond
    · rw [List.getD_append _ _ _ _ earlier] at member
      exact sparing.failed id later statement member
    · rw [List.getD_append_right _ _ _ _ beyond, nothing] at member
      cases member

theorem updateSettings_spares {change : Settings → Except Failure Settings}
    (kept : ∀ {settings changed}, change settings = .ok changed →
      changed.ignores = settings.ignores) :
    Spares ignores count (World.updateSettings change : Action (World σ) Unit) := by
  intro world sparing
  cases changes : change world.settings with
  | error failure =>
      rw [Adjustment.updateSettings_of_error changes]
      exact ⟨sparing, fun _event member => nomatch member⟩
  | ok changed =>
      rw [Adjustment.updateSettings_of_ok changes]
      refine ⟨⟨?_, sparing.among, sparing.failed⟩, fun _event member => nomatch member⟩
      exact (kept changes).trans sparing.settings

end World

theorem Adjustment.change_ignores {adjustment : Adjustment} {settings changed : Settings}
    (changes : adjustment.change settings = .ok changed) : changed.ignores = settings.ignores := by
  cases adjustment with
  | clearSlow =>
      cases changes
      rfl
  | echo value =>
      obtain ⟨echo, _named, changes⟩ := Failure.bind_ok changes
      cases changes
      rfl
  | defaultLimit value =>
      obtain ⟨limit, _passed, changes⟩ := Failure.bind_ok changes
      cases changes
      rfl
  | recordsSlow value =>
      cases changes
      rfl
  | slowThreshold value =>
      obtain ⟨threshold, _passed, changes⟩ := Failure.bind_ok changes
      cases changes
      rfl

private theorem Adjustment.apply_spares {ignores : Text → Except Failure Bool} {count : Nat}
    (adjustment : Adjustment) :
    World.Spares ignores count (adjustment.apply : Action (World σ) Unit) := by
  cases adjustment with
  | clearSlow => exact World.spares_of_inward (World.setSlowLog_within [])
  | echo value => exact World.updateSettings_spares (Adjustment.echo value).change_ignores
  | defaultLimit value =>
      exact World.updateSettings_spares (Adjustment.defaultLimit value).change_ignores
  | recordsSlow value =>
      exact World.updateSettings_spares (Adjustment.recordsSlow value).change_ignores
  | slowThreshold value =>
      exact World.updateSettings_spares (Adjustment.slowThreshold value).change_ignores

namespace Session

variable (session : Session σ) {ignores : Text → Except Failure Bool} {count : Nat}

private theorem keepFailure_spares (id : LeaseId) (sql : Text) (params : List Value) :
    World.Spares ignores count (keepFailure id sql params : Action (World σ) Unit) := by
  intro world sparing
  cases readable : world.settings.ignores sql with
  | error refusal =>
      rw [keepFailure_of_unreadable id sql params world refusal readable]
      exact ⟨sparing, fun _event member => nomatch member⟩
  | ok ignored =>
      cases ignored with
      | true =>
          rw [keepFailure_of_ignored id sql params world readable]
          exact ⟨sparing, fun _event member => nomatch member⟩
      | false =>
          have counts : ignores sql = .ok false := sparing.settings ▸ readable
          cases transactional : (world.lease id).transactional with
          | true =>
              rw [keepFailure_of_transactional id sql params world readable transactional]
              exact ⟨sparing.withFailed counts transactional, fun _event member => nomatch member⟩
          | false =>
              have reports : Action.Within World.steady (Event.Spares ignores)
                  (World.report (sql, params) : Action (World σ) Unit) :=
                World.report_spares counts
              rw [keepFailure_of_plain id sql params world readable transactional]
              exact ⟨(reports.state world).sparing sparing, reports.events world⟩

private theorem query_spares (id : LeaseId) (sql : Text) (params : List Value) :
    World.Spares ignores count (session.query id sql params) := by
  have now : World.Spares ignores count session.now :=
    Action.Preserves.readThen fun _world _sparing => Action.Preserves.ofExcept (.ok _)
  have executes : World.Spares ignores count (Lease.execute session.driver id sql params) :=
    World.spares_of_calls (Lease.execute_within session.driver id sql params)
  have raises (failure : Failure) :
      World.Spares ignores count (Action.fail failure : Action (World σ) Outcome) :=
    Action.Preserves.ofExcept (.error failure)
  unfold Session.query
  refine now.bind fun started => executes.attempt.bind fun outcome => ?_
  cases outcome with
  | ok response =>
      exact now.bind fun ended =>
        World.spares_of_inward (session.complete_within sql params response _)
  | error failure =>
      have reports : World.Spares ignores count (session.reportFailure id sql params) :=
        (World.spares_of_inward (session.logFailure_within sql params)).bind fun _logged =>
          keepFailure_spares id sql params
      dsimp only
      split
      · exact reports.bind fun _reported => raises failure
      · exact raises failure

private theorem abandon_spares {id : LeaseId} (later : count ≤ id) :
    World.Spares ignores count (session.abandon id) := by
  unfold Session.abandon
  refine (World.spares_of_calls (Lease.rollback_within session.driver id)).bind fun _back => ?_
  refine Action.Preserves.readThen fun world sparing => ?_
  exact World.spares_of_steady (World.reportAll_spares (sparing.failed id later))
    fun _event spares => spares

private theorem inTransaction_spares {id : LeaseId} (later : count ≤ id) {body : Action (World σ) α}
    (spares : World.Spares ignores count body) :
    World.Spares ignores count (session.inTransaction id body) := by
  have begins : World.Spares ignores count (Lease.begin session.driver session.dialect id) :=
    World.spares_of_calls (Lease.begin_within session.driver session.dialect id)
  have commits : World.Spares ignores count (Lease.commit session.driver id) :=
    World.spares_of_calls (Lease.commit_within session.driver id)
  have encloses : World.Spares ignores count (session.enclosed id body) :=
    begins.bind fun _begun => spares.bind fun result => commits.bind fun _committed =>
      Action.Preserves.ofExcept (.ok result)
  refine encloses.attempt.bind fun outcome => ?_
  cases outcome with
  | ok result => exact Action.Preserves.ofExcept (.ok result)
  | error failure =>
      exact (session.abandon_spares later).bind
        fun _abandoned => Action.Preserves.ofExcept (.error failure)

private theorem run_spares (transactional : Bool) {body : LeaseId → Action (World σ) α}
    (spares : ∀ id, World.Spares ignores count (body id)) :
    World.Spares ignores count (session.run transactional body) := by
  have releases (id : LeaseId) :
      World.Spares ignores count (Lease.release session.pool session.driver id) :=
    Action.Preserves.of_within (Lease.release_bounded session.pool session.driver id
      World.Steady.sparing fun _world sparing => sparing.closed id)
      fun _event => Event.spares_of_call
  unfold Session.run
  refine (World.spares_of_calls session.acquire_within).bind fun _acquired => ?_
  intro world sparing
  -- The lease of the run comes after all that were there, so it is one of those that are watched.
  have later : count ≤ nextLease world := sparing.among
  rw [Action.bind_of_ok _ _ world (nextLease world) rfl]
  cases transactional with
  | false => exact (spares _).thenAlways (releases _) _ (sparing.borrowed false)
  | true =>
      exact (session.inTransaction_spares later (spares _)).thenAlways (releases _) _
        (sparing.borrowed true)

private theorem pervades_spares :
    session.Pervades fun _α action _history => World.Spares ignores count action where
  ofExcept := Action.Preserves.ofExcept
  query := session.query_spares
  adjust := Adjustment.apply_spares
  pageFailed := fun page limit failure =>
    World.spares_of_inward (session.logPageFailure_within page limit failure)
  run := fun transactional _body _former spares => session.run_spares transactional spares
  attempt := fun _action _former spares => spares.attempt
  bind := fun _first _next _former _latter spares follows => spares.bind follows
  readLimit := fun _next _latter follows =>
    Action.Preserves.readThen fun world _sparing => follows world.settings.defaultLimit

/-- Whatever is asked of a session, the sink gets only statements that count. -/
theorem converse_spares (conversation : Conversation α) (world : World σ)
    {statement : FailedStatement}
    (reported : statement ∈ sinkTrace (session.converse conversation world).events) :
    world.settings.ignores statement.1 = .ok false := by
  have spares := session.pervades_spares.converse conversation world world.sparing_self
  obtain ⟨event, member, hands⟩ := List.mem_filterMap.mp reported
  exact spares.2 event member statement hands

/-! ### Markers -/

/-- What becomes of failed statements under a marker. -/
structure HeedsMarker (marker : Text) : Prop where
  -- They are ignored exactly if the marker occurs in them with a boundary at both ends.
  ignored : ∀ settings : Settings, settings.ignoreMarker = .text marker → ∀ sql,
    (Marker.Marks marker sql → settings.ignores sql = .ok true) ∧
      (¬ Marker.Marks marker sql → settings.ignores sql = .ok false)
  -- Then they never reach the sink, whatever is asked of the session.
  spared : ∀ {α : Type} (conversation : Conversation α) (world : World σ),
    world.settings.ignoreMarker = .text marker →
      ∀ statement ∈ sinkTrace (session.converse conversation world).events,
        ¬ Marker.Marks marker statement.1
  -- Otherwise each failure is recorded once it is logged.
  recorded : ∀ id sql params world failure, world.settings.ignoreMarker = .text marker →
    ¬ Marker.Marks marker sql →
      (Lease.execute session.driver id sql params world).outcome = .error failure →
        failure.isOrdinary = true → world.sink.NeverFails →
          session.CanLogFailure sql params world.settings →
            session.Records id sql params world [(sql, params)]
  -- Statements with the marker as a token are marked, all of them, exactly if the marker begins
  -- and ends with word characters.
  tokens : (∀ sql, Marker.HasToken marker sql → Marker.Marks marker sql) ↔
    Marker.IsWordLike marker
  -- A marker that does marks no statement in which a word character adjoins each occurrence.
  words : Marker.IsWordLike marker → ∀ sql,
    Marker.LacksIota marker ∨ CodePoint.lowIota ∉ sql →
      (Marker.Marks marker sql ↔
        ∃ occurrence : Marker.Occurrence marker sql, occurrence.StandsAlone)

theorem converse_heeds_marker (marker : Text) (nonempty : marker ≠ []) :
    session.HeedsMarker marker := by
  have ignored (settings : Settings) (reads : settings.ignoreMarker = .text marker) (sql : Text) :
      (Marker.Marks marker sql → settings.ignores sql = .ok true) ∧
        (¬ Marker.Marks marker sql → settings.ignores sql = .ok false) := by
    rw [Marker.ignores_of_marker reads nonempty, ← Marker.occursIn_iff_marks nonempty]
    exact ⟨congrArg Except.ok, fun absent => congrArg Except.ok (Bool.eq_false_iff.mpr absent)⟩
  refine ⟨ignored, ?_, ?_, Marker.marks_of_hasToken_iff, ?_⟩
  · intro α conversation world reads statement reported marks
    have counts := session.converse_spares conversation world reported
    rw [(ignored world.settings reads statement.1).1 marks] at counts
    cases counts
  · intro id sql params world failure reads unmarked failed ordinary quiet loggable
    have counts := (ignored world.settings reads sql).2 unmarked
    have records := records_counted failed ordinary quiet loggable
    rwa [counted_of_not_ignored counts] at records
  · intro wordLike sql plain
    exact exists_congr fun occurrence => occurrence.isBounded_iff_standsAlone wordLike plain

theorem willing_session_heeds_ignore :
    ("IGNORE" : Text) ≠ [] ∧
      (Rehearsal.willingSession .mysql (Rehearsal.refusing "bad")).HeedsMarker "IGNORE" :=
  ⟨by decide, converse_heeds_marker _ "IGNORE" (by decide)⟩

/-- A world in which a sign begins the marker. -/
def signedWorld : World Rehearsal.Stage :=
  { Rehearsal.quietWorld .silent (Rehearsal.refusing "bad") [] with
    settings := ⟨.silent, .int 10, .bool false, .int 1000, .text "@dup"⟩ }

/-- A token that begins with a sign marks nothing, in either mode; and a low iota between letters
marks, though letters adjoin. -/
theorem signed_insert_reported :
    (signedWorld.settings.ignoreMarker = .text "@dup" ∧
      Marker.HasToken "@dup" "INSERT INTO bad VALUES (1) @dup" ∧
      ∀ transactional, sinkTrace ((Rehearsal.willingSession .mysql
        (Rehearsal.refusing "bad")).runBody transactional
          (Body.ask "INSERT INTO bad VALUES (1) @dup" []) signedWorld).events =
            [(("INSERT INTO bad VALUES (1) @dup" : Text), [])]) ∧
      Marker.Marks "ι" "a\u0345b" ∧
      ∀ occurrence : Marker.Occurrence "ι" "a\u0345b", ¬ occurrence.StandsAlone := by
  refine ⟨⟨rfl, ⟨⟨"INSERT INTO bad VALUES (1) ", "@dup", [], rfl, by decide +kernel⟩,
    rfl, by decide +kernel, nofun⟩, ?_⟩, ?_, ?_⟩
  · intro transactional
    cases transactional <;> rfl
  · exact (Marker.occursIn_iff_marks (by decide)).mp (by decide +kernel)
  · rintro ⟨before, here, after, whole, alike⟩ ⟨begins, _ends⟩
    obtain ⟨point, rfl⟩ := List.length_eq_one_iff.mp (Text.length_of_sameLetters alike).symm
    change [.char 'a', CodePoint.lowIota, .char 'b'] = before ++ [point] ++ after at whole
    -- The letters around are no occurrences, so the letter before the low iota adjoins.
    match before with
    | [] =>
        obtain ⟨rfl, _rest⟩ := List.cons.inj whole
        exact absurd alike (by decide +kernel)
    | [first] =>
        obtain ⟨rfl, _rest⟩ := List.cons.inj whole
        change Keyword.endsWord (some (.char 'a')) = false at begins
        exact absurd begins (by decide +kernel)
    | [first, second] =>
        obtain ⟨_first, whole⟩ := List.cons.inj whole
        obtain ⟨_second, whole⟩ := List.cons.inj whole
        obtain ⟨rfl, _rest⟩ := List.cons.inj whole
        exact absurd alike (by decide +kernel)
    | first :: second :: third :: rest =>
        have lengths := congrArg List.length whole
        simp only [List.length_append, List.length_cons] at lengths
        omega

end Session
end PooledQuery
