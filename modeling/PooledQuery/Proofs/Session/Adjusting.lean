/-
What conversations do to the settings.

Of all that is asked of a session only adjustments change its settings, each in its own way,
and an adjustment that fails changes nothing at all.  So at every point of a conversation the
settings are those at its start with the adjustments up to there, and what they keep in one
adjustment they keep throughout: the bounds of the default limit and of the threshold for
slow statements.
-/
import PooledQuery.Proofs.Session.SlowHistory
import PooledQuery.Proofs.Session.Standing
import PooledQuery.Proofs.Settings.Bounds

namespace PooledQuery

variable {σ α β : Type}

/-! ### Adjustments -/

namespace Adjustment

def change : Adjustment → Settings → Except Failure Settings
  | .clearSlow, settings => .ok settings
  | .echo value, settings => settings.withEcho value
  | .defaultLimit value, settings => settings.withDefaultLimit value
  | .recordsSlow value, settings => .ok (settings.withRecordsSlow value)
  | .slowThreshold value, settings => settings.withSlowThreshold value

theorem updateSettings_of_error {change : Settings → Except Failure Settings} {world : World σ}
    {failure : Failure} (refused : change world.settings = .error failure) :
    World.updateSettings change world = ⟨.error failure, world, []⟩ := by
  unfold World.updateSettings
  rw [Action.read_bind, refused]
  rfl

theorem updateSettings_of_ok {change : Settings → Except Failure Settings} {world : World σ}
    {settings : Settings} (changed : change world.settings = .ok settings) :
    World.updateSettings change world = ⟨.ok (), { world with settings := settings }, []⟩ := by
  unfold World.updateSettings
  rw [Action.read_bind, changed]
  rfl

private theorem apply_of_error {adjustment : Adjustment} {world : World σ} {failure : Failure}
    (failed : (adjustment.apply world).outcome = .error failure) :
    adjustment.apply world = ⟨.error failure, world, []⟩ := by
  have refuses (change : Settings → Except Failure Settings)
      (failed : (World.updateSettings change world).outcome = .error failure) :
      World.updateSettings change world = ⟨.error failure, world, []⟩ := by
    cases changed : change world.settings with
    | error other =>
        rw [updateSettings_of_error changed] at failed ⊢
        cases failed
        rfl
    | ok settings =>
        rw [updateSettings_of_ok changed] at failed
        cases failed
  cases adjustment with
  | clearSlow => cases failed
  | echo value => exact refuses (fun settings => settings.withEcho value) failed
  | defaultLimit value => exact refuses (fun settings => settings.withDefaultLimit value) failed
  | recordsSlow value =>
      exact refuses (fun settings => .ok (settings.withRecordsSlow value)) failed
  | slowThreshold value => exact refuses (fun settings => settings.withSlowThreshold value) failed

def settingsAfter (adjustment : Adjustment) (settings : Settings) : Settings :=
  match adjustment.change settings with
  | .ok changed => changed
  | .error _ => settings

private theorem apply_settings (adjustment : Adjustment) (world : World σ) :
    (adjustment.apply world).state.settings = adjustment.settingsAfter world.settings := by
  have updates (change : Settings → Except Failure Settings) :
      (World.updateSettings change world).state.settings =
        match change world.settings with
        | .ok changed => changed
        | .error _ => world.settings := by
    cases changed : change world.settings with
    | error failure => rw [updateSettings_of_error changed]
    | ok settings => rw [updateSettings_of_ok changed]
  cases adjustment with
  | clearSlow => rfl
  | echo value => exact updates fun settings => settings.withEcho value
  | defaultLimit value => exact updates fun settings => settings.withDefaultLimit value
  | recordsSlow value => exact updates fun settings => .ok (settings.withRecordsSlow value)
  | slowThreshold value => exact updates fun settings => settings.withSlowThreshold value

theorem settingsAfter_of_change (property : Settings → Prop) {adjustment : Adjustment}
    {settings : Settings} (holds : property settings)
    (keeps : ∀ changed, adjustment.change settings = .ok changed → property changed) :
    property (adjustment.settingsAfter settings) := by
  unfold settingsAfter
  cases changes : adjustment.change settings with
  | ok changed => exact keeps changed changes
  | error failure => exact holds

theorem given_of_notBelow {value : Value} {bound : Int} {failure : Failure} {n : Number}
    (passed : value.notBelow bound failure = .ok n) : value = .number n := by
  obtain ⟨number, ordered, passed⟩ := Failure.bind_ok passed
  obtain ⟨below, holds, passed⟩ := Failure.bind_ok passed
  cases below with
  | true => cases passed
  | false =>
      cases passed
      cases value <;> cases ordered
      rfl

section Change

variable {adjustment : Adjustment} {settings changed : Settings}

/-- A limit that was not there before is the one that was given, and has passed its check;
and so is a threshold. -/
theorem change_cases (changes : adjustment.change settings = .ok changed) :
    (changed.defaultLimit = settings.defaultLimit ∨
      adjustment = .defaultLimit (.number changed.defaultLimit) ∧
        changed.defaultLimit.holds .less (.int 1) = .ok false) ∧
    (changed.slowThreshold = settings.slowThreshold ∨
      adjustment = .slowThreshold (.number changed.slowThreshold) ∧
        changed.slowThreshold.holds .less (.int 0) = .ok false) := by
  cases adjustment with
  | clearSlow =>
      cases changes
      exact ⟨.inl rfl, .inl rfl⟩
  | echo value =>
      obtain ⟨echo, _named, changes⟩ := Failure.bind_ok changes
      cases changes
      exact ⟨.inl rfl, .inl rfl⟩
  | defaultLimit value =>
      obtain ⟨limit, passed, changes⟩ := Failure.bind_ok changes
      cases changes
      exact ⟨.inr ⟨congrArg _ (given_of_notBelow passed), Settings.holds_of_notBelow passed⟩,
        .inl rfl⟩
  | recordsSlow value =>
      cases changes
      exact ⟨.inl rfl, .inl rfl⟩
  | slowThreshold value =>
      obtain ⟨threshold, passed, changes⟩ := Failure.bind_ok changes
      cases changes
      exact ⟨.inl rfl,
        .inr ⟨congrArg _ (given_of_notBelow passed), Settings.holds_of_notBelow passed⟩⟩

private theorem settingsAfter_bounded (bounded : settings.Bounded) :
    (adjustment.settingsAfter settings).Bounded := by
  refine settingsAfter_of_change Settings.Bounded bounded fun changed changes => ?_
  obtain ⟨limit, threshold⟩ := change_cases changes
  refine ⟨?_, ?_, Echo.ofName_name changed.echo⟩
  · rcases limit with same | ⟨_, notBelow⟩
    · rw [same]
      exact bounded.limit
    · exact Number.atLeast_iff_of_not_less notBelow
  · rcases threshold with same | ⟨_, notBelow⟩
    · rw [same]
      exact bounded.threshold
    · exact Number.atLeast_iff_of_not_less notBelow

private theorem settingsAfter_limit (proper : settings.defaultLimit ≠ .float .nan)
    (other : adjustment ≠ .defaultLimit (.number (.float .nan))) :
    (adjustment.settingsAfter settings).defaultLimit ≠ .float .nan := by
  refine settingsAfter_of_change (fun settings => settings.defaultLimit ≠ .float .nan) proper
    fun changed changes => ?_
  rcases (change_cases changes).1 with same | ⟨given, _⟩
  · rwa [same]
  · intro nowhere
    exact other (by rw [given, nowhere])

private theorem settingsAfter_threshold (proper : settings.slowThreshold ≠ .float .nan)
    (other : adjustment ≠ .slowThreshold (.number (.float .nan))) :
    (adjustment.settingsAfter settings).slowThreshold ≠ .float .nan := by
  refine settingsAfter_of_change (fun settings => settings.slowThreshold ≠ .float .nan) proper
    fun changed changes => ?_
  rcases (change_cases changes).2 with same | ⟨given, _⟩
  · rwa [same]
  · intro nowhere
    exact other (by rw [given, nowhere])

end Change
end Adjustment

/-! ### The settings at every point -/

namespace Deed

def settingsAfter : Deed σ → Settings → Settings
  | .adjusted adjustment _ => adjustment.settingsAfter
  | _ => id

end Deed

/-- The settings pass from each deed to the next. -/
inductive Adjusts : Settings → List (Deed σ) → Settings → Prop
  | nil (settings : Settings) : Adjusts settings [] settings
  | cons (deed : Deed σ) (rest : List (Deed σ)) (final : Settings)
      (follows : Adjusts (deed.settingsAfter deed.world.settings) rest final) :
      Adjusts deed.world.settings (deed :: rest) final

namespace Adjusts

variable {first between last : Settings} {former latter deeds : List (Deed σ)}

theorem append (adjusts : Adjusts first former between) (follows : Adjusts between latter last) :
    Adjusts first (former ++ latter) last := by
  induction adjusts with
  | nil settings => exact follows
  | cons deed rest final _ ih => exact .cons deed (rest ++ latter) last (ih follows)

theorem throughout (property : Settings → Prop) (adjusts : Adjusts first deeds last)
    (starts : property first)
    (keeps : ∀ adjustment world, .adjusted adjustment world ∈ deeds →
      ∀ settings, property settings → property (adjustment.settingsAfter settings)) :
    (∀ deed ∈ deeds, property deed.world.settings) ∧ property last := by
  induction adjusts with
  | nil settings => exact ⟨fun _deed member => absurd member List.not_mem_nil, starts⟩
  | cons deed rest final _ ih =>
      have next : property (deed.settingsAfter deed.world.settings) := by
        cases deed with
        | asked asking => exact starts
        | adjusted adjustment world => exact keeps adjustment world List.mem_cons_self _ starts
        | pageFailed page limit failure world => exact starts
      obtain ⟨during, afterwards⟩ := ih next fun adjustment world member =>
        keeps adjustment world (List.mem_cons_of_mem _ member)
      exact ⟨List.forall_mem_cons.mpr ⟨starts, during⟩, afterwards⟩

end Adjusts

namespace Session

variable (session : Session σ)

private theorem pervades_adjusts : session.Pervades fun _α action history =>
    ∀ world, Adjusts world.settings (history world) (action world).state.settings where
  ofExcept := fun _outcome world => .nil world.settings
  query := by
    intro id sql params world
    refine .cons (.asked ⟨id, sql, params, world⟩) [] _ ?_
    rw [((session.query_within id sql params).state world).settings]
    exact .nil world.settings
  adjust := by
    intro adjustment world
    refine .cons (.adjusted adjustment world) [] _ ?_
    rw [adjustment.apply_settings world]
    exact .nil _
  pageFailed := by
    intro page limit failure world
    refine .cons (.pageFailed page limit failure world) [] _ ?_
    have unchanged := (session.logPageFailure_unchanged page limit failure).state world
    change Adjusts world.settings [] (session.logPageFailure page limit failure world).state.settings
    rw [unchanged]
    exact .nil world.settings
  run := by
    intro α transactional body former adjusts world
    have stands := (session.run_stands transactional body world).settings
    have enters := (session.entered_stands transactional world).settings
    unfold runHistory
    split at stands
    · rename_i entered
      rw [if_pos entered, stands, ← enters]
      exact adjusts _ _
    · rename_i unentered
      rw [if_neg unentered, stands]
      exact .nil world.settings
  attempt := fun _action _former adjusts => adjusts
  bind := by
    intro α β first next former latter adjusts follows world
    unfold History.andThen
    cases outcome : (first world).outcome with
    | error failure =>
        rw [Action.bind_of_error first next world failure outcome, List.append_nil]
        exact adjusts world
    | ok result =>
        rw [Action.bind_of_ok first next world result outcome]
        exact (adjusts world).append (follows result (first world).state)
  readLimit := fun _next _latter follows world => follows world.settings.defaultLimit world

/-! ### The log of slow statements -/

variable {session}

private theorem mem_logAfter {deed : Deed σ} {log : SlowLog} {entry : SlowEntry}
    (member : entry ∈ session.logAfter deed log) :
    entry ∈ log ∨ session.deedEntry? deed = some entry := by
  unfold logAfter at member
  split at member
  · exact absurd member List.not_mem_nil
  · split at member
    · rename_i made entered
      unfold SlowLog.add at member
      split at member
      · exact .inl member
      · rcases List.mem_append.mp member with before | new
        · exact .inl before
        · rw [List.mem_singleton.mp new]
          exact .inr entered
    · exact .inl member

private theorem Leads.mem {first last : SlowLog} {deeds : List (Deed σ)}
    (leads : session.Leads first deeds last) {entry : SlowEntry} (member : entry ∈ last) :
    entry ∈ first ∨ ∃ deed ∈ deeds, session.deedEntry? deed = some entry := by
  induction leads with
  | nil log => exact .inl member
  | cons deed rest final _ ih =>
      rcases ih member with before | ⟨later, present, entered⟩
      · rcases mem_logAfter before with before | entered
        · exact .inl before
        · exact .inr ⟨deed, List.mem_cons_self, entered⟩
      · exact .inr ⟨later, List.mem_cons_of_mem _ present, entered⟩

/-- A statement is slow against a threshold that is a number and not negative, and takes
longer than it; or the threshold is no number. -/
def SlowAgainst (session : Session σ) (asking : Asking σ) : Prop :=
  asking.world.settings.slowThreshold = .float .nan ∨
    asking.world.settings.slowThreshold.AtLeast 0 ∧
      (Number.float (session.timeOf asking)).Exceeds asking.world.settings.slowThreshold

private theorem slowAgainst_of_slowEntry? {asking : Asking σ} {entry : SlowEntry}
    (bounded : asking.world.settings.Bounded) (number : (session.timeOf asking).isNumber = true)
    (entered : session.slowEntry? asking = some entry) : session.SlowAgainst asking := by
  by_cases nowhere : asking.world.settings.slowThreshold = .float .nan
  · exact .inl nowhere
  · have atLeast := bounded.threshold.mpr nowhere
    have slow := (slowEntry?_isSome_iff number atLeast.isNumber).mp (by rw [entered]; rfl)
    exact .inr ⟨atLeast, slow.2.2⟩

variable (session)

/-- What a conversation does to the settings, and what it records by them. -/
structure KeepsBounds (conversation : Conversation α) (world : World σ) : Prop where
  during : ∀ deed ∈ session.history conversation world, deed.world.settings.Bounded
  afterwards : (session.converse conversation world).state.settings.Bounded
  refused : ∀ adjustment before failure,
    .adjusted adjustment before ∈ session.history conversation world →
    (adjustment.apply before).outcome = .error failure →
    adjustment.apply before = ⟨.error failure, before, []⟩
  -- Where no limit is given that is no number, all limits are at least one.
  limit : world.settings.defaultLimit ≠ .float .nan →
    (∀ before, .adjusted (.defaultLimit (.number (.float .nan))) before ∉
      session.history conversation world) →
    (∀ deed ∈ session.history conversation world, deed.world.settings.defaultLimit.AtLeast 1) ∧
      (session.converse conversation world).state.settings.defaultLimit.AtLeast 1
  -- Where no threshold is given that is no number, no threshold is negative.
  threshold : world.settings.slowThreshold ≠ .float .nan →
    (∀ before, .adjusted (.slowThreshold (.number (.float .nan))) before ∉
      session.history conversation world) →
    (∀ deed ∈ session.history conversation world, deed.world.settings.slowThreshold.AtLeast 0) ∧
      (session.converse conversation world).state.settings.slowThreshold.AtLeast 0
  recorded : ∀ entry ∈ (session.converse conversation world).state.slowLog,
    entry ∈ world.slowLog ∨ ∃ asking, .asked asking ∈ session.history conversation world ∧
      entry.sql = asking.sql ∧ entry.params = asking.params ∧
      entry.elapsed = .float (session.timeOf asking) ∧
      ((session.timeOf asking).isNumber = true → session.SlowAgainst asking)

/-- However settings were settled, every conversation keeps their bounds, but for limits and
thresholds that are given as no number. -/
theorem converse_keeps_bounds (conversation : Conversation α) (world : World σ)
    (settled : (∃ draft : Settings.Draft, draft.settle = .ok world.settings) ∨
      ∃ environment stem overrides,
        Settings.Draft.settleWith environment stem overrides = .ok world.settings) :
    session.KeepsBounds conversation world := by
  have starts : world.settings.Bounded := by
    rcases settled with ⟨draft, settles⟩ | ⟨environment, stem, overrides, settles⟩
    · exact Settings.Draft.settle_bounded settles
    · exact Settings.Draft.settleWith_bounded settles
  have adjusts := session.pervades_adjusts.converse conversation world
  obtain ⟨during, afterwards⟩ := adjusts.throughout Settings.Bounded starts
    fun adjustment _world _member settings => adjustment.settingsAfter_bounded
  constructor
  case during => exact during
  case afterwards => exact afterwards
  case refused => exact fun _adjustment _before _failure _member failed => Adjustment.apply_of_error failed
  case limit =>
    intro proper given
    obtain ⟨properDuring, properAfterwards⟩ := adjusts.throughout
      (fun settings => settings.defaultLimit ≠ .float .nan) proper
      fun adjustment before member settings still =>
        Adjustment.settingsAfter_limit still fun same => given before (same ▸ member)
    exact ⟨fun deed member => (during deed member).limit.mpr (properDuring deed member),
      afterwards.limit.mpr properAfterwards⟩
  case threshold =>
    intro proper given
    obtain ⟨properDuring, properAfterwards⟩ := adjusts.throughout
      (fun settings => settings.slowThreshold ≠ .float .nan) proper
      fun adjustment before member settings still =>
        Adjustment.settingsAfter_threshold still fun same => given before (same ▸ member)
    exact ⟨fun deed member => (during deed member).threshold.mpr (properDuring deed member),
      afterwards.threshold.mpr properAfterwards⟩
  case recorded =>
    intro entry member
    have leads := (session.pervades_tells.converse conversation world).leads
    rcases leads.mem member with before | ⟨deed, present, entered⟩
    · exact .inl before
    · cases deed with
      | adjusted adjustment before => cases entered
      | pageFailed page limit failure before => cases entered
      | asked asking =>
          obtain ⟨_succeeded, _keyed, same⟩ := eq_of_slowEntry? entered
          refine .inr ⟨asking, present, ?_⟩
          rw [same]
          exact ⟨rfl, rfl, rfl, fun number =>
            slowAgainst_of_slowEntry? (during _ present) number entered⟩

def recordingDraft : Settings.Draft :=
  { Settings.Draft.empty with echo := some (.text "NONE"), recordsSlow := some (.bool true) }

/-- A limit of zero is refused, half a second is the new threshold, and a statement takes
longer. -/
def askedAfterAdjusting : Conversation (Except Failure Outcome) :=
  .adjust (.defaultLimit (.int 0)) fun _refused =>
    .adjust (.slowThreshold (.int 500)) fun _changed => askedOnce

theorem askedAfterAdjusting_keeps_bounds :
    recordingDraft.settle = .ok recordingWorld.settings ∧
      dawdlingSession.KeepsBounds askedAfterAdjusting recordingWorld := by
  have settles : recordingDraft.settle = .ok recordingWorld.settings := rfl
  exact ⟨settles, dawdlingSession.converse_keeps_bounds askedAfterAdjusting recordingWorld
    (.inl ⟨recordingDraft, settles⟩)⟩

/-- A limit that is no number is settled, although it is not at least one. -/
theorem settled_limit_below_one :
    ¬ ∀ (draft : Settings.Draft) (settings : Settings), draft.settle = .ok settings →
      settings.defaultLimit.AtLeast 1 ∧ settings.slowThreshold.AtLeast 0 := by
  intro bounded
  have settles : { Settings.Draft.empty with defaultLimit := some (.number (.float .nan)) }.settle =
      .ok ⟨.full, .float .nan, .bool false, .int 1000, .text "IGNORE"⟩ := rfl
  exact Number.not_atLeast_nan 1 (bounded _ _ settles).1

end Session
end PooledQuery
