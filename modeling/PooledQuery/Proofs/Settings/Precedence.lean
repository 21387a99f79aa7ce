/-
Overriding values and environment variables.

The variables of an environment are read one after the other before any of their values is
overridden, and three of the four can fail to be read.  So an overriding value wins over every
text of its variable that can be read, but not over one that cannot: its failure is the outcome
all the same.
-/
import PooledQuery.Proofs.Failure
import PooledQuery.Settings.Environment

namespace PooledQuery

namespace Environment

variable (environment : Environment) (name : Text)

def value? : Option Text :=
  (environment.find? fun entry => entry.1 == name).map (·.2)

theorem nonEmpty?_eq :
    environment.nonEmpty? name = (environment.value? name).filter fun text => !text.isEmpty := by
  unfold nonEmpty? value?
  cases environment.find? fun entry => entry.1 == name with
  | none => rfl
  | some entry =>
      obtain ⟨other, text⟩ := entry
      rw [Option.map_some, Option.filter_some]
      dsimp only
      cases text.isEmpty <;> rfl

theorem value?_singleton (other text : Text) :
    value? [(other, text)] name = if other = name then some text else none := by
  unfold value?
  rw [List.find?_singleton]
  by_cases same : other = name
  · rw [if_pos (beq_iff_eq.mpr same), if_pos same]
    rfl
  · rw [if_neg (fun equal => same (beq_iff_eq.mp equal)), if_neg same]
    rfl

end Environment

namespace Settings

inductive Setting where
  | echo
  | defaultLimit
  | recordsSlow
  | slowThreshold
  deriving DecidableEq

namespace Setting

/-- The settings in the order in which their variables are read. -/
def inOrder : List Setting :=
  [.echo, .defaultLimit, .recordsSlow, .slowThreshold]

def ending : Setting → Text
  | .echo => "LOG"
  | .defaultLimit => "LIMIT"
  | .recordsSlow => "SLOW_QUERY"
  | .slowThreshold => "SLOW_QUERY_MS"

def ofText : Setting → Text → Except Failure Value
  | .echo, text => Draft.echoOfText text
  | .defaultLimit, text => do return .int (← (Value.text text).toInteger)
  | .recordsSlow, text => .ok (.bool (Draft.isAffirmative text))
  | .slowThreshold, text => do return .float (← Number.readFloat text)

/-- What an environment gives for a setting, if it has a text for it. -/
def given (environment : Environment) (stem : Text) (setting : Setting) :
    Except Failure (Option Value) :=
  (environment.nonEmpty? (stem ++ setting.ending)).mapM setting.ofText

def malformed? (environment : Environment) (stem : Text) (setting : Setting) : Option Failure :=
  match setting.given environment stem with
  | .error failure => some failure
  | .ok _ => none

theorem ending_injective {setting other : Setting} (same : setting.ending = other.ending) :
    setting = other := by
  cases setting <;> cases other <;> first | rfl | exact absurd same (by decide)

private theorem mem_inOrder (setting : Setting) : setting ∈ inOrder := by
  cases setting <;> simp [inOrder]

section Reading

variable {environment : Environment} {stem : Text} {setting : Setting}

private theorem given_of_malformed {failure : Failure}
    (malformed : setting.malformed? environment stem = some failure) :
    setting.given environment stem = .error failure := by
  unfold malformed? at malformed
  cases given : setting.given environment stem with
  | error refusal =>
      rw [given] at malformed
      exact congrArg Except.error (Option.some.inj malformed)
  | ok value? =>
      rw [given] at malformed
      cases malformed

theorem exists_given_of_readable (readable : setting.malformed? environment stem = none) :
    ∃ value?, setting.given environment stem = .ok value? := by
  unfold malformed? at readable
  cases given : setting.given environment stem with
  | error failure =>
      rw [given] at readable
      cases readable
  | ok value? => exact ⟨value?, rfl⟩

/-- A failure to read a variable or one after it is the failure of reading them in turn. -/
theorem given_bind_of_malformed {failure : Failure} {later : Option Failure}
    {next : Option Value → Except Failure Draft}
    (malformed : (setting.malformed? environment stem).or later = some failure)
    (follows : ∀ value?, later = some failure → next value? = .error failure) :
    (setting.given environment stem >>= next) = .error failure := by
  cases reads : setting.malformed? environment stem with
  | some refusal =>
      rw [reads] at malformed
      cases malformed
      rw [given_of_malformed reads]
      rfl
  | none =>
      obtain ⟨value?, given⟩ := exists_given_of_readable reads
      rw [reads, Option.none_or] at malformed
      rw [given, Failure.ok_bind]
      exact follows value? malformed

end Reading
end Setting

/-- The failure of the first variable that cannot be read. -/
def firstMalformed? (environment : Environment) (stem : Text) : Option Failure :=
  Setting.inOrder.findSome? (Setting.malformed? environment stem)

theorem findSome?_cons_eq_or {α β : Type} (f : α → Option β) (item : α) (rest : List α) :
    (item :: rest).findSome? f = (f item).or (rest.findSome? f) := by
  rw [List.findSome?_cons]
  cases f item <;> rfl

namespace Draft

def value? (draft : Draft) : Setting → Option Value
  | .echo => draft.echo
  | .defaultLimit => draft.defaultLimit
  | .recordsSlow => draft.recordsSlow
  | .slowThreshold => draft.slowThreshold

private theorem ext_value? {draft other : Draft}
    (values : ∀ setting, draft.value? setting = other.value? setting)
    (markers : draft.ignoreMarker = other.ignoreMarker) : draft = other := by
  obtain ⟨echo, defaultLimit, recordsSlow, slowThreshold, ignoreMarker⟩ := draft
  cases values .echo
  cases values .defaultLimit
  cases values .recordsSlow
  cases values .slowThreshold
  cases markers
  rfl

theorem value?_overriddenBy (draft overrides : Draft) (setting : Setting) :
    (draft.overriddenBy overrides).value? setting =
      (overrides.value? setting).or (draft.value? setting) := by
  cases setting <;> rfl

theorem mapM_return {α β γ : Type} (read : α → Except Failure β) (wrap : β → γ)
    (given : Option α) :
    given.mapM (fun item => do return wrap (← read item) : α → Except Failure γ) =
      do return (← given.mapM read).map wrap := by
  cases given with
  | none => rfl
  | some item =>
      rw [Option.mapM_some, Option.mapM_some]
      cases read item <;> rfl

theorem ofEnvironment_eq (environment : Environment) (stem : Text) :
    ofEnvironment environment stem = do
      let echo ← Setting.echo.given environment stem
      let defaultLimit ← Setting.defaultLimit.given environment stem
      let recordsSlow ← Setting.recordsSlow.given environment stem
      let slowThreshold ← Setting.slowThreshold.given environment stem
      return ⟨echo, defaultLimit, recordsSlow, slowThreshold, none⟩ := by
  have limit : Setting.defaultLimit.given environment stem =
      do return (← (environment.nonEmpty? (stem ++ "LIMIT")).mapM
        fun text => (Value.text text).toInteger).map .int := mapM_return _ _ _
  have threshold : Setting.slowThreshold.given environment stem =
      do return (← (environment.nonEmpty? (stem ++ "SLOW_QUERY_MS")).mapM
        Number.readFloat).map .float := mapM_return _ _ _
  have slow : Setting.recordsSlow.given environment stem =
      .ok (((environment.nonEmpty? (stem ++ "SLOW_QUERY")).map isAffirmative).map .bool) := by
    change Option.mapM _ (environment.nonEmpty? (stem ++ "SLOW_QUERY")) = _
    cases environment.nonEmpty? (stem ++ "SLOW_QUERY") <;> rfl
  rw [limit, threshold, slow]
  change ((environment.nonEmpty? (stem ++ "LOG")).mapM echoOfText >>= _) =
    ((environment.nonEmpty? (stem ++ "LOG")).mapM echoOfText >>= _)
  cases (environment.nonEmpty? (stem ++ "LOG")).mapM echoOfText with
  | error failure => rfl
  | ok echo =>
      rw [Failure.ok_bind, Failure.ok_bind]
      cases (environment.nonEmpty? (stem ++ "LIMIT")).mapM
          fun text => (Value.text text).toInteger with
      | error failure => rfl
      | ok limit =>
          cases (environment.nonEmpty? (stem ++ "SLOW_QUERY_MS")).mapM Number.readFloat <;> rfl

section Reading

variable {environment : Environment} {stem : Text}

private theorem ofEnvironment_of_malformed {failure : Failure}
    (malformed : firstMalformed? environment stem = some failure) :
    ofEnvironment environment stem = .error failure := by
  unfold firstMalformed? Setting.inOrder at malformed
  simp only [findSome?_cons_eq_or] at malformed
  rw [ofEnvironment_eq]
  refine Setting.given_bind_of_malformed malformed fun echo malformed => ?_
  refine Setting.given_bind_of_malformed malformed fun defaultLimit malformed => ?_
  refine Setting.given_bind_of_malformed malformed fun recordsSlow malformed => ?_
  refine Setting.given_bind_of_malformed malformed fun slowThreshold none => ?_
  cases none

theorem exists_draft_of_readable (readable : firstMalformed? environment stem = none) :
    ∃ draft, ofEnvironment environment stem = .ok draft ∧ draft.ignoreMarker = none ∧
      ∀ setting : Setting, setting.given environment stem = .ok (draft.value? setting) := by
  have reads (setting : Setting) : ∃ value?, setting.given environment stem = .ok value? :=
    Setting.exists_given_of_readable
      (List.findSome?_eq_none_iff.mp readable setting setting.mem_inOrder)
  obtain ⟨echo, echoGiven⟩ := reads .echo
  obtain ⟨limit, limitGiven⟩ := reads .defaultLimit
  obtain ⟨slow, slowGiven⟩ := reads .recordsSlow
  obtain ⟨threshold, thresholdGiven⟩ := reads .slowThreshold
  refine ⟨⟨echo, limit, slow, threshold, none⟩, ?_, rfl, ?_⟩
  · rw [ofEnvironment_eq, echoGiven, limitGiven, slowGiven, thresholdGiven]
    rfl
  · intro setting
    cases setting with
    | echo => exact echoGiven
    | defaultLimit => exact limitGiven
    | recordsSlow => exact slowGiven
    | slowThreshold => exact thresholdGiven

end Reading

/-! ### Two environments -/

/-- Two environments that agree but for the variables of settings that are overridden. -/
def AgreeBeyond (stem : Text) (overrides : Draft) (first second : Environment) : Prop :=
  ∀ name, (∀ setting : Setting, (overrides.value? setting).isSome = true →
    name ≠ stem ++ setting.ending) → first.value? name = second.value? name

section Two

variable {stem : Text} {overrides : Draft} {first second : Environment}

theorem AgreeBeyond.given (agree : AgreeBeyond stem overrides first second) {setting : Setting}
    (kept : overrides.value? setting = none) :
    setting.given first stem = setting.given second stem := by
  have same : first.value? (stem ++ setting.ending) = second.value? (stem ++ setting.ending) := by
    refine agree _ fun other overridden equal => ?_
    have itself : setting = other := Setting.ending_injective (List.append_cancel_left equal)
    rw [← itself, kept] at overridden
    cases overridden
  unfold Setting.given
  rw [Environment.nonEmpty?_eq, Environment.nonEmpty?_eq, same]

/-- Where both environments can be read, the overridden variables make no difference. -/
theorem AgreeBeyond.settleWith (agree : AgreeBeyond stem overrides first second)
    (readable : firstMalformed? first stem = none)
    (readableToo : firstMalformed? second stem = none) :
    settleWith first stem overrides = settleWith second stem overrides := by
  obtain ⟨draft, reads, markers, values⟩ := exists_draft_of_readable readable
  obtain ⟨other, readsToo, markersToo, valuesToo⟩ := exists_draft_of_readable readableToo
  have same : draft.overriddenBy overrides = other.overriddenBy overrides := by
    refine ext_value? (fun setting => ?_) (congrArg overrides.ignoreMarker.or (markers.trans markersToo.symm))
    rw [value?_overriddenBy, value?_overriddenBy]
    cases given : overrides.value? setting with
    | some value => rfl
    | none =>
        have alike := agree.given given
        rw [values, valuesToo] at alike
        exact Except.ok.inj alike
  unfold Draft.settleWith
  rw [reads, readsToo, Failure.ok_bind, Failure.ok_bind, same]

end Two

/-! ### Texts that cannot be read -/

theorem exists_unreadable {setting : Setting} (fails : setting ≠ .recordsSlow) :
    ∃ text other failure another, setting.ofText text = .error failure ∧
      setting.ofText other = .error another ∧ failure ≠ another ∧
        text.isEmpty = false ∧ other.isEmpty = false := by
  cases setting with
  | echo =>
      exact ⟨"loud", "soft", .unknownEchoLevel "'LOUD'", .unknownEchoLevel "'SOFT'", rfl, rfl,
        by decide +kernel, rfl, rfl⟩
  | defaultLimit =>
      exact ⟨"ten", "two", .notAnInteger "'ten'", .notAnInteger "'two'", rfl, rfl,
        by decide +kernel, rfl, rfl⟩
  | slowThreshold =>
      exact ⟨"long", "short", .notAFloat "'long'", .notAFloat "'short'", rfl, rfl,
        by decide +kernel, rfl, rfl⟩
  | recordsSlow => exact absurd rfl fails

section Single

variable {stem text : Text} {setting : Setting}

theorem firstMalformed?_singleton {failure : Failure} (fails : setting.ofText text = .error failure)
    (filled : text.isEmpty = false) :
    firstMalformed? [(stem ++ setting.ending, text)] stem = some failure := by
  have itself : setting.malformed? [(stem ++ setting.ending, text)] stem = some failure := by
    unfold Setting.malformed? Setting.given
    rw [Environment.nonEmpty?_eq, Environment.value?_singleton, if_pos rfl, Option.filter_some,
      filled]
    change (match (do return some (← setting.ofText text) : Except Failure (Option Value)) with
      | .error failure => some failure
      | .ok _ => none) = _
    rw [fails]
    rfl
  have others (other : Setting) (different : setting ≠ other) :
      other.malformed? [(stem ++ setting.ending, text)] stem = none := by
    have apart : ¬ stem ++ setting.ending = stem ++ other.ending :=
      fun same => different (Setting.ending_injective (List.append_cancel_left same))
    unfold Setting.malformed? Setting.given
    rw [Environment.nonEmpty?_eq, Environment.value?_singleton, if_neg apart]
    rfl
  unfold firstMalformed? Setting.inOrder
  simp only [findSome?_cons_eq_or]
  cases setting with
  | echo => rw [itself, Option.some_or]
  | defaultLimit => rw [others .echo (by decide), itself, Option.none_or, Option.some_or]
  | recordsSlow =>
      rw [others .echo (by decide), others .defaultLimit (by decide), itself, Option.none_or,
        Option.none_or, Option.some_or]
  | slowThreshold =>
      rw [others .echo (by decide), others .defaultLimit (by decide),
        others .recordsSlow (by decide), itself, Option.none_or, Option.none_or, Option.none_or,
        Option.some_or]

private theorem agreeBeyond_singleton {overrides : Draft}
    (overridden : (overrides.value? setting).isSome = true) (text other : Text) :
    AgreeBeyond stem overrides [(stem ++ setting.ending, text)] [(stem ++ setting.ending, other)] := by
  intro name beyond
  have apart : ¬ stem ++ setting.ending = name := fun same => beyond setting overridden same.symm
  rw [Environment.value?_singleton, Environment.value?_singleton, if_neg apart, if_neg apart]

end Single

/-! ### Precedence -/

/-- How overriding values and the variables of an environment go together. -/
structure Precedence (stem : Text) (overrides : Draft) : Prop where
  -- Where all variables can be read, those of overridden settings make no difference.
  readable : ∀ first second, AgreeBeyond stem overrides first second →
    firstMalformed? first stem = none → firstMalformed? second stem = none →
      settleWith first stem overrides = settleWith second stem overrides
  -- The first variable that cannot be read is the outcome, also if its setting is
  -- overridden.
  malformed : ∀ environment failure, firstMalformed? environment stem = some failure →
    settleWith environment stem overrides = .error failure
  -- So the variables of overridden settings make no difference at all exactly if none of
  -- these settings has a variable that can fail to be read.
  invariant : (∀ first second, AgreeBeyond stem overrides first second →
      settleWith first stem overrides = settleWith second stem overrides) ↔
    overrides.echo = none ∧ overrides.defaultLimit = none ∧ overrides.slowThreshold = none

section Outcomes

variable {stem : Text} {overrides : Draft} {first second : Environment}

theorem settleWith_of_malformed {failure : Failure}
    (malformed : firstMalformed? first stem = some failure) :
    settleWith first stem overrides = .error failure := by
  unfold settleWith
  rw [ofEnvironment_of_malformed malformed]
  rfl

/-- An overridden setting whose variable can fail to be read makes a difference: two texts that
cannot be read fail differently. -/
theorem exists_difference (stem : Text) {setting : Setting} (fails : setting ≠ .recordsSlow)
    (overridden : (overrides.value? setting).isSome = true) :
    ∃ first second, AgreeBeyond stem overrides first second ∧
      settleWith first stem overrides ≠ settleWith second stem overrides := by
  obtain ⟨text, other, failure, another, reads, readsToo, different, filled, filledToo⟩ :=
    exists_unreadable fails
  refine ⟨_, _, agreeBeyond_singleton overridden text other, ?_⟩
  rw [settleWith_of_malformed (firstMalformed?_singleton reads filled),
    settleWith_of_malformed (firstMalformed?_singleton readsToo filledToo)]
  exact fun same => different (Except.error.inj same)

theorem AgreeBeyond.firstMalformed? (agree : AgreeBeyond stem overrides first second)
    (kept : ∀ setting : Setting, setting ≠ .recordsSlow → overrides.value? setting = none) :
    firstMalformed? first stem = firstMalformed? second stem := by
  have always (environment : Environment) :
      Setting.recordsSlow.malformed? environment stem = none := by
    unfold Setting.malformed? Setting.given
    cases environment.nonEmpty? (stem ++ Setting.recordsSlow.ending) <;> rfl
  have same (setting : Setting) :
      setting.malformed? first stem = setting.malformed? second stem := by
    by_cases slow : setting = .recordsSlow
    · rw [slow, always, always]
    · unfold Setting.malformed?
      rw [agree.given (kept setting slow)]
  exact congrArg Setting.inOrder.findSome? (funext same)

end Outcomes

theorem settleWith_precedence (stem : Text) (overrides : Draft) : Precedence stem overrides where
  readable _ _ agree readable readableToo := agree.settleWith readable readableToo
  malformed _ _ malformed := settleWith_of_malformed malformed
  invariant := by
    constructor
    · intro invariant
      have kept (setting : Setting) (fails : setting ≠ .recordsSlow) :
          overrides.value? setting = none := by
        refine Option.not_isSome_iff_eq_none.mp fun overridden => ?_
        obtain ⟨first, second, agree, different⟩ :=
          exists_difference stem fails overridden
        exact different (invariant first second agree)
      exact ⟨kept .echo (by decide), kept .defaultLimit (by decide),
        kept .slowThreshold (by decide)⟩
    · rintro ⟨echo, limit, threshold⟩ first second agree
      have kept (setting : Setting) (fails : setting ≠ .recordsSlow) :
          overrides.value? setting = none := by
        cases setting with
        | echo => exact echo
        | defaultLimit => exact limit
        | slowThreshold => exact threshold
        | recordsSlow => exact absurd rfl fails
      have same := agree.firstMalformed? kept
      cases reads : firstMalformed? first stem with
      | none => exact agree.settleWith reads (same.symm.trans reads)
      | some failure =>
          rw [settleWith_of_malformed reads, settleWith_of_malformed (same.symm.trans reads)]

/-- A default limit that is given does not keep the text of its variable from being read. -/
theorem overridden_limit_malformed :
    AgreeBeyond "ROW_SQL_" { empty with defaultLimit := some (.int 20) }
        [("ROW_SQL_LIMIT", "ten")] [] ∧
      settleWith [("ROW_SQL_LIMIT", "ten")] "ROW_SQL_"
          { empty with defaultLimit := some (.int 20) } = .error (.notAnInteger "'ten'") ∧
      settleWith [] "ROW_SQL_" { empty with defaultLimit := some (.int 20) } =
          .ok ⟨.full, .int 20, .bool false, .int 1000, .text "IGNORE"⟩ := by
  refine ⟨fun name beyond => ?_, rfl, rfl⟩
  have apart : ¬ (Text.ofString "ROW_SQL_LIMIT") = name :=
    fun same => beyond .defaultLimit rfl same.symm
  rw [Environment.value?_singleton, if_neg apart]
  rfl

end Draft
end Settings
end PooledQuery
