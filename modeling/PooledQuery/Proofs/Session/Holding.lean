/-
What conversations leave alone.

Nothing that is asked of a session changes its sink.  A run opens one lease and closes that
one again, and beyond this no lease is opened or closed; so the lease of a run stays open
for as long as its body runs.
-/
import PooledQuery.Proofs.Session.Conversation
import PooledQuery.Proofs.Session.Selection

namespace PooledQuery

variable {σ α : Type}

namespace World

/-- Two worlds with the same sink, of which the second has the first so many leases of the
first, open or closed as they were. -/
structure Holds (count : Nat) (before after : World σ) : Prop where
  sink : after.sink = before.sink
  leases : count ≤ before.leases.length → count ≤ after.leases.length ∧
    ∀ id < count, (after.lease id).isOpen = (before.lease id).isOpen

def holding (count : Nat) : Frame (World σ) where
  relates := Holds count
  refl := fun _world => ⟨rfl, fun enough => ⟨enough, fun _id _held => rfl⟩⟩
  trans := by
    intro first second third former latter
    refine ⟨latter.sink.trans former.sink, fun enough => ?_⟩
    obtain ⟨between, formerOpen⟩ := former.leases enough
    obtain ⟨still, latterOpen⟩ := latter.leases between
    exact ⟨still, fun id held => (latterOpen id held).trans (formerOpen id held)⟩

theorem Steady.holds {before after : World σ} (same : Steady before after) (count : Nat) :
    Holds count before after := by
  refine ⟨same.sink, fun enough => ⟨?_, fun id _held => by rw [same.lease id]⟩⟩
  rw [same.leases]
  exact enough

theorem updateLease_holding (count : Nat) (id : LeaseId) (change : Lease → Lease)
    (kept : id < count → ∀ lease, (change lease).isOpen = lease.isOpen) :
    Action.Within (holding count) (fun _event => True)
      (World.updateLease id change : Action (World σ) Unit) := by
  refine Action.Within.update _ fun world => ⟨rfl, fun enough => ⟨?_, fun other held => ?_⟩⟩
  · rw [List.length_modify]
    exact enough
  · by_cases same : other = id
    · subst same
      unfold World.lease
      simp only [List.getD_eq_getElem?_getD, List.getElem?_modify_eq]
      cases world.leases[other]? with
      | none => rfl
      | some lease => exact kept held lease
    · rw [lease_modify_other world id other change same]

/-- An action that keeps the sink, and opens or closes no lease that was there before. -/
def Upholds (action : Action (World σ) α) : Prop :=
  ∀ count, Action.Within (holding count) (fun _event => True) action

namespace Upholds

theorem of_steady {allowed : Event → Prop} {action : Action (World σ) α}
    (bounded : Action.Within steady allowed action) : Upholds action := by
  intro count
  exact (bounded.enlarge fun same => same.holds count).widen fun _event _allowed => trivial

theorem ofExcept (outcome : Except Failure α) :
    Upholds (Action.ofExcept outcome : Action (World σ) α) :=
  fun _count => Action.Within.ofExcept outcome

theorem bind {β : Type} {first : Action (World σ) α} {next : α → Action (World σ) β}
    (upholds : Upholds first) (follows : ∀ result, Upholds (next result)) :
    Upholds (first >>= next) :=
  fun count => (upholds count).bind fun result => follows result count

theorem attempt {action : Action (World σ) α} (upholds : Upholds action) :
    Upholds (Action.attempt action) :=
  fun count => (upholds count).attempt

theorem read : Upholds (Action.read : Action (World σ) (World σ)) :=
  fun _count => Action.Within.read

theorem update {change : World σ → World σ} (sink : ∀ world, (change world).sink = world.sink)
    (leases : ∀ world, (change world).leases = world.leases) : Upholds (Action.update change) := by
  refine fun count => Action.Within.update _ fun world => ⟨sink world, fun enough => ?_⟩
  unfold World.lease
  rw [leases]
  exact ⟨enough, fun _id _held => rfl⟩

theorem updateLease (id : LeaseId) {change : Lease → Lease}
    (kept : ∀ lease, (change lease).isOpen = lease.isOpen) :
    Upholds (World.updateLease id change : Action (World σ) Unit) :=
  fun count => updateLease_holding count id change fun _held => kept

theorem updateSettings (change : Settings → Except Failure Settings) :
    Upholds (World.updateSettings change : Action (World σ) Unit) :=
  read.bind fun world => (ofExcept (change world.settings)).bind fun _settings =>
    update (fun _world => rfl) fun _world => rfl

end Upholds
end World

namespace Session

variable (session : Session σ)

private theorem keepFailure_upholds (id : LeaseId) (sql : Text) (params : List Value) :
    World.Upholds (keepFailure id sql params : Action (World σ) Unit) := by
  unfold keepFailure
  refine World.Upholds.read.bind fun world => ?_
  refine (World.Upholds.ofExcept _).bind fun ignored => ?_
  cases ignored with
  | true => exact World.Upholds.ofExcept (.ok ())
  | false =>
      cases (world.lease id).transactional with
      | true => exact World.Upholds.updateLease id fun _lease => rfl
      | false => exact World.Upholds.of_steady (World.report_within (sql, params))

private theorem query_upholds (id : LeaseId) (sql : Text) (params : List Value) :
    World.Upholds (session.query id sql params) := by
  have now : World.Upholds session.now :=
    World.Upholds.read.bind fun world => World.Upholds.ofExcept (.ok _)
  have executes := World.Upholds.of_steady (Lease.execute_within session.driver id sql params)
  unfold Session.query
  refine now.bind fun started => executes.attempt.bind fun outcome => ?_
  cases outcome with
  | ok response =>
      exact now.bind fun ended =>
        World.Upholds.of_steady (session.complete_within sql params response _)
  | error failure =>
      have reports : World.Upholds (session.reportFailure id sql params) :=
        (World.Upholds.of_steady (session.logFailure_within sql params)).bind fun _logged =>
          keepFailure_upholds id sql params
      have raises : World.Upholds (Action.fail failure : Action (World σ) Outcome) :=
        World.Upholds.ofExcept (.error failure)
      dsimp only
      split
      · exact reports.bind fun _reported => raises
      · exact raises

section Framed

/-! A transaction keeps to a frame if its body does, because begin, commit and rollback leave
all leases as they are. -/

variable {frame : Frame (World σ)}
  (steady : ∀ {before after : World σ}, World.Steady before after → frame.relates before after)
  (id : LeaseId) {action : Action (World σ) α}
  (bounded : Action.Within frame (fun _event => True) action)

include steady bounded

theorem enclosed_framed : Action.Within frame (fun _event => True) (session.enclosed id action) := by
  have begins := ((Lease.begin_within session.driver session.dialect id).enlarge steady).widen
    fun _event _called => trivial
  have commits := ((Lease.commit_within session.driver id).enlarge steady).widen
    fun _event _called => trivial
  unfold enclosed
  exact begins.bind fun _begun => bounded.bind fun result =>
    commits.bind fun _committed => Action.Within.pure result

theorem inTransaction_framed :
    Action.Within frame (fun _event => True) (session.inTransaction id action) := by
  have abandons := ((session.abandon_within id).enlarge steady).widen fun _event _called => trivial
  refine (session.enclosed_framed steady id bounded).attempt.bind fun outcome => ?_
  cases outcome with
  | ok result => exact Action.Within.pure result
  | error failure => exact abandons.bind fun _abandoned => Action.Within.fail failure

end Framed

theorem release_holding (id : LeaseId) (count : Nat) (later : count ≤ id) :
    Action.Within (World.holding count) (fun _event => True)
      (Lease.release session.pool session.driver id) := by
  have closes := World.updateLease_holding (σ := σ) count id
    (fun lease => { lease with isOpen := false })
    fun earlier => absurd earlier (Nat.not_lt.mpr later)
  have bounded := Lease.release_bounded session.pool session.driver id
    (fun same => World.Steady.holds same count) closes.state
  exact bounded.widen fun _event _called => trivial

private theorem borrowed_holds (transactional : Bool) (world : World σ) (count : Nat)
    (among : count ≤ world.leases.length) :
    World.Holds count world (session.borrowed transactional world) where
  sink := session.borrowed_sink transactional world
  leases := by
    intro _enough
    refine ⟨?_, fun id held => ?_⟩
    · have same := (session.acquire_within.state world).leases
      unfold borrowed
      dsimp only
      rw [same, List.length_append]
      exact Nat.le_add_right_of_le among
    · rw [session.lease_borrowed_other transactional world
        (Nat.ne_of_lt (Nat.lt_of_lt_of_le held among))]

section Run

variable (transactional : Bool) (body : LeaseId → Action (World σ) α) (world : World σ)
  (upholds : ∀ id, World.Upholds (body id))

include upholds

theorem handled_holds (count : Nat) :
    World.Holds count (session.borrowed transactional world)
      (session.handled transactional body world).state := by
  cases transactional with
  | false => exact (upholds (nextLease world) count).state _
  | true =>
      exact (session.inTransaction_framed (fun same => World.Steady.holds same count)
        (nextLease world) (upholds _ count)).state _

/-- A run closes the lease that it has added itself. -/
theorem run_upholds : World.Upholds (session.run transactional body) := by
  intro count
  refine Action.Within.of_each fun world => ⟨?_, fun _event _member => trivial⟩
  have asked := (World.Upholds.of_steady session.acquire_within count).state world
  cases acquired : (session.acquire world).outcome with
  | error failure =>
      rw [session.run_of_refused transactional body world failure acquired]
      exact asked
  | ok done =>
      rw [session.run_stages transactional body world acquired]
      -- The run's own lease comes after all that were there, so closing it is no matter to them.
      refine ⟨?_, fun among => ?_⟩
      · have releases := (session.release_holding (nextLease world) 0 (Nat.zero_le _)).state
          (session.handled transactional body world).state
        have works := session.handled_holds transactional body world upholds 0
        exact releases.sink.trans (works.sink.trans (session.borrowed_sink transactional world))
      · have releases := (session.release_holding (nextLease world) count among).state
          (session.handled transactional body world).state
        have works := session.handled_holds transactional body world upholds count
        have borrows := session.borrowed_holds transactional world count among
        exact ((World.holding count).trans ((World.holding count).trans borrows works)
          releases).leases among

end Run

/-- Whatever is asked of a session, the sink stays, and so do the leases of other runs. -/
theorem pervades_upholds : session.Pervades fun _α action _history => World.Upholds action where
  ofExcept := World.Upholds.ofExcept
  query := session.query_upholds
  adjust := by
    intro adjustment
    cases adjustment with
    | clearSlow => exact World.Upholds.update (fun _world => rfl) fun _world => rfl
    | echo value => exact World.Upholds.updateSettings fun settings => settings.withEcho value
    | defaultLimit value =>
        exact World.Upholds.updateSettings fun settings => settings.withDefaultLimit value
    | recordsSlow value =>
        exact World.Upholds.updateSettings fun settings => .ok (settings.withRecordsSlow value)
    | slowThreshold value =>
        exact World.Upholds.updateSettings fun settings => settings.withSlowThreshold value
  pageFailed := fun page limit failure =>
    World.Upholds.of_steady (session.logPageFailure_within page limit failure)
  run := fun transactional body _former upholds =>
    session.run_upholds transactional body upholds
  attempt := fun _action _former upholds => upholds.attempt
  bind := fun _first _next _former _latter upholds follows => upholds.bind follows
  readLimit := fun _next _latter follows =>
    World.Upholds.read.bind fun world => follows world.settings.defaultLimit

end Session
end PooledQuery
