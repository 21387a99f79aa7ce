/-
What runs leave standing.

A run borrows a connection, begins, commits or rolls back, and gives the connection back.
All this leaves the settings, the transform and the sink as they were; so a run leaves them
as its body does, or as they were if the body is not entered.
-/
import PooledQuery.Proofs.Session.Stages

namespace PooledQuery

variable {σ α β : Type}

namespace World

/-- Two worlds with the same settings, transform and sink. -/
structure Stands (before after : World σ) : Prop where
  settings : after.settings = before.settings
  transform : after.transform = before.transform
  sink : after.sink = before.sink

/-- The frame of actions that change the collaborators, the leases and the log of slow
statements only. -/
def standing : Frame (World σ) where
  relates := Stands
  refl := fun _world => ⟨rfl, rfl, rfl⟩
  trans := fun former latter =>
    ⟨latter.settings.trans former.settings, latter.transform.trans former.transform,
      latter.sink.trans former.sink⟩

theorem standing_of_steady {allowed : Event → Prop} {action : Action (World σ) α}
    (bounded : Action.Within steady allowed action) : Action.Within standing allowed action :=
  bounded.enlarge fun same => ⟨same.settings, same.transform, same.sink⟩

end World

private theorem Lease.release_standing (pool : Pool σ) (driver : Driver σ) (id : LeaseId) :
    Action.Within World.standing (fun _event => True) (Lease.release pool driver id) := by
  have bounded : Action.Within World.standing (Event.CallsOneOf [.release, .selfRelease])
      (release pool driver id) :=
    release_bounded pool driver id (fun same => ⟨same.settings, same.transform, same.sink⟩)
      fun _world => ⟨rfl, rfl, rfl⟩
  exact bounded.widen fun _event _called => trivial

namespace Session

variable (session : Session σ)

section Run

variable {body : LeaseId → Action (World σ) α} {world : World σ}

theorem acquire_stands (world : World σ) : World.Stands world (session.acquire world).state :=
  (World.standing_of_steady session.acquire_within).state world

theorem begun_stands (world : World σ) : World.Stands world (session.begun world).state := by
  have asks := session.acquire_stands world
  have borrows : World.Stands world (session.borrowed true world) :=
    ⟨asks.settings, asks.transform, asks.sink⟩
  exact World.standing.trans borrows ((World.standing_of_steady (Lease.begin_within session.driver
    session.dialect (nextLease world))).state (session.borrowed true world))

theorem entered_stands (transactional : Bool) (world : World σ) :
    World.Stands world (session.entered transactional world) := by
  cases transactional with
  | false =>
      have asks := session.acquire_stands world
      exact ⟨asks.settings, asks.transform, asks.sink⟩
  | true => exact session.begun_stands world

private theorem tried_stands (begun : (session.begun world).outcome = .ok ()) :
    World.Stands (session.acted true body world).state (session.tried body world).state := by
  cases acted : (session.acted true body world).outcome with
  | error failure =>
      rw [session.tried_of_stopped body world failure begun acted]
      exact World.standing.refl _
  | ok result =>
      rw [session.tried_of_completed body world result begun acted]
      exact (World.standing_of_steady (Lease.commit_within session.driver (nextLease world))).state _

private theorem handled_stands :
    World.Stands (session.tried body world).state (session.handled true body world).state := by
  cases tried : (session.tried body world).outcome with
  | ok result =>
      rw [session.handled_of_tried body world result tried]
      exact World.standing.refl _
  | error failure =>
      rw [session.handled_of_failed body world failure tried]
      exact (World.standing_of_steady (session.abandon_within (nextLease world))).state _

/-- What a run does after its body stands, and so does all that it does if the body is not
entered. -/
theorem run_stands (transactional : Bool) (body : LeaseId → Action (World σ) α)
    (world : World σ) : World.Stands
    (if (session.acquire world).outcome.isOk &&
        (!transactional || (session.begun world).outcome.isOk) then
      (session.acted transactional body world).state else world)
    (session.run transactional body world).state := by
  cases acquired : (session.acquire world).outcome with
  | error failure =>
      rw [session.run_of_refused transactional body world failure acquired]
      exact session.acquire_stands world
  | ok done =>
      rw [session.run_stages transactional body world acquired]
      have returns : World.Stands (session.handled transactional body world).state
          (session.returned transactional body world).state :=
        (Lease.release_standing session.pool session.driver (nextLease world)).state _
      refine World.standing.trans ?_ returns
      cases transactional with
      | false => exact World.standing.refl _
      | true =>
          refine World.standing.trans ?_ session.handled_stands
          cases begun : (session.begun world).outcome with
          | error failure =>
              rw [session.tried_of_not_begun body world failure begun]
              exact session.begun_stands world
          | ok done => exact session.tried_stands begun

end Run
end Session
end PooledQuery
