import CameraRelay.Proofs.Broker.Shape
import CameraRelay.Proofs.Relay.Delivery

/-!
# Sessions over a run of the relay

What a step does to the roster is a sequence of changes, and a client is attached by a request of
its own that the step finishes well, and by nothing else. Main statement: `sessions_in_shape`.
-/

namespace CameraRelay

open Relation (ReflTransGen)

namespace Relay

/-- A request of a client for a device finishes well between two states. -/
def Admits (before after : Relay) (client : SubscriberId) (device : Device) : Prop :=
  ∃ number request, before.request? number = some request ∧ request.subscriber.id = client ∧
    request.device = device ∧ before.outcome? number = none ∧
      after.outcome? number = some (.ok ())

theorem outcome?_staged {relay next : Relay} {number : Nat} {request : Request} {stage : Stage}
    {outcome : Outcome} (found : relay.request? number = some request)
    (requests : next.requests = relay.staged number stage) :
    next.outcome? number = some outcome ↔ stage = .finished outcome := by
  have here := request?_staged found requests number
  rw [if_pos rfl] at here
  exact outcome?_eq_some here

/-- Over one action the roster changes, and nobody is attached but clients whose requests finish
well. -/
theorem changes_step (relay : Relay) (action : Action) :
    ReflTransGen (Roster.Change (relay.Admits (relay.step action))) relay.broker.roster
      (relay.step action).broker.roster := by
  have moved := relay.moves action
  generalize broker : (relay.step action).broker = next,
    requests : (relay.step action).requests = after at moved ⊢
  have pending {number : Nat} {request : Request} (found : relay.request? number = some request)
      (unfinished : ∀ outcome, request.stage ≠ .finished outcome) :
      relay.outcome? number = none := by
    cases finished : relay.outcome? number with
    | none => rfl
    | some outcome => exact absurd ((outcome?_eq_some found).mp finished) (unfinished outcome)
  cases moved with
  | post => exact .refl
  | ask => exact .refl
  | resolve => exact .refl
  | refuse => exact .refl
  | enter found stage =>
    refine ((Broker.shifts_enter ..).mono fun client device welcome => ?_).roster
    obtain ⟨outcome, entered, rfl, rfl, rfl⟩ := welcome
    refine ⟨_, _, found, rfl, rfl, pending found fun _ => by simp [stage], ?_⟩
    rw [outcome?_staged found requests, entered]
    rfl
  | wake found stage =>
    refine ((Broker.shifts_resume ..).mono fun client device welcome => ?_).roster
    obtain ⟨well, rfl, rfl⟩ := welcome
    refine ⟨_, _, found, rfl, rfl, pending found fun _ => by simp [stage], ?_⟩
    rw [outcome?_staged found requests, well]
  | abandon => exact .refl
  | withdraw => exact .refl
  | stop leaver device => exact (Broker.shifts_detach ..).lift.roster
  | disconnect leaver => exact (Broker.shifts_disconnect ..).lift.roster
  | shutdown => exact (Broker.shifts_close ..).lift.roster
  | report device session report => exact (Broker.shifts_report ..).lift.roster

theorem shaped_run {relay : Relay} (shaped : relay.broker.roster.Shaped) (actions : List Action) :
    (relay.run actions).broker.roster.Shaped := by
  induction actions generalizing relay with
  | nil => exact shaped
  | cons action rest ih => exact ih (Roster.shaped_of_changes (relay.changes_step action) shaped)

theorem succeeds_run (relay : Relay) (actions : List Action) :
    (relay.run actions).broker.roster.Succeeds relay.broker.roster := by
  induction actions generalizing relay with
  | nil => exact .refl _
  | cons action rest ih =>
    exact (ih (relay.step action)).trans
      (Roster.succeeds_of_changes (relay.changes_step action))

/-- In every state of every run each session stands under its own device, each device has at most
one, and each session has a subscriber. Their numbers are distinct and count up to how many sessions
were created; however the run goes on, a number that is free again stays free, and one that is in
use stays with its device. -/
theorem sessions_in_shape (settings : RelaySettings) (past later : List Action) :
    let roster := ((new settings).run past).broker.roster
    let afterwards := ((new settings).run (past ++ later)).broker.roster
    (∀ device session, roster.get? device = some session ↔
      session ∈ roster.sessions ∧ session.device = device) ∧
    roster.devices.Nodup ∧
    (∀ session ∈ roster.sessions, session.subscribers ≠ []) ∧
    roster.ids.Nodup ∧
    (∀ session ∈ roster.sessions, 1 ≤ session.id ∧ session.id ≤ roster.created) ∧
    roster.created ≤ afterwards.created ∧
    (∀ id ≤ roster.created, id ∉ roster.ids → id ∉ afterwards.ids) ∧
    (∀ session ∈ roster.sessions, ∀ other ∈ afterwards.sessions, other.id = session.id →
      other.device = session.device) := by
  intro roster afterwards
  have start : (new settings).broker.roster.Shaped := Roster.shaped_new
  have shaped : roster.Shaped := shaped_run start past
  have succeeds : afterwards.Succeeds roster := by
    have goesOn := succeeds_run ((new settings).run past) later
    rwa [← run_append] at goesOn
  refine ⟨fun device session => shaped.get?_eq_some, shaped.devices, shaped.watched, shaped.ids,
    shaped.numbered, succeeds.created, fun id => succeeds.never_reused, ?_⟩
  intro session here other there same
  rcases succeeds.sessions other there with latest | ⟨before, mem, id, device⟩
  · have bound := (shaped.numbered session here).2
    omega
  · have only : before = session :=
      List.inj_on_of_nodup_map shaped.ids mem here (id.trans same)
    rw [← device, only]

end Relay

end CameraRelay
