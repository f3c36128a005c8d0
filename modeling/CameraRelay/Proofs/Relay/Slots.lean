import CameraRelay.Proofs.Broker.Balance
import CameraRelay.Proofs.Relay.Moves

/-!
# Slots over a run of the relay

In every state of every run the slots held are those of the live sessions and of the unclaimed
grants.
-/

namespace CameraRelay

namespace Relay

theorem balanced_step {relay : Relay} (h : relay.broker.Balanced 0) (action : Action) :
    (relay.step action).broker.Balanced 0 := by
  have moved := relay.moves action
  generalize (relay.step action).broker = next, (relay.step action).requests = requests at moved ⊢
  cases moved with
  | post => exact h.of_eq rfl rfl
  | ask => exact h
  | resolve => exact h
  | refuse => exact h.told _
  | enter => exact h.enter
  | wake => exact h.resume _ _
  | abandon => exact h.abandon _
  | withdraw => exact h
  | stop => exact h.detach _ _
  | disconnect => exact h.disconnect _
  | shutdown => exact h.close
  | report => exact h.report _ _

theorem balanced_run {relay : Relay} (h : relay.broker.Balanced 0) (actions : List Action) :
    (relay.run actions).broker.Balanced 0 := by
  induction actions generalizing relay with
  | nil => exact h
  | cons action rest ih => exact ih (balanced_step h action)

theorem sessions_le (settings : RelaySettings) (actions : List Action) :
    ((new settings).run actions).broker.roster.sessions.length ≤ max settings.maxStreams 1 := by
  have balanced : ((new settings).run actions).broker.Balanced 0 :=
    balanced_run (Broker.balanced_new settings) actions
  obtain ⟨operations, _, history⟩ := history_run (new settings) actions
  have packed := Admission.packed_run settings.maxStreams operations
  have capacity := Admission.capacity_run (.new settings.maxStreams) operations
  have active := balanced.holds.active_eq
  have bound := packed.active_le
  rw [capacity] at bound
  refine Nat.le_trans ?_ bound
  have same : (Admission.new settings.maxStreams).run operations =
      ((new settings).run actions).broker.admission := history
  rw [same, active]
  exact Nat.le_add_right ..

/-- In every state of every run, the slots held are those of the live sessions, each of its own
device, and those of the unclaimed grants; they are no more than there are, no slot was ever given
back that was not held, and so there are never more sessions than slots. -/
theorem slots_conserved (settings : RelaySettings) (actions : List Action) :
    let broker := ((new settings).run actions).broker
    broker.admission.active = broker.roster.sessions.length + broker.admission.granted.length ∧
    broker.admission.active ≤ broker.admission.capacity ∧
    broker.admission.counters.unheldReleases = 0 ∧
    broker.roster.sessions.length ≤ max settings.maxStreams 1 ∧
    broker.admission.capacity = max settings.maxStreams 1 ∧
    broker.roster.devices.Nodup ∧
    (broker.admission.granted.map (·.1)).Nodup := by
  intro broker
  have balanced : broker.Balanced 0 := balanced_run (Broker.balanced_new settings) actions
  obtain ⟨operations, _, history⟩ := history_run (new settings) actions
  have packed : broker.admission.Packed := by
    rw [← history]
    exact Admission.packed_run settings.maxStreams operations
  have capacity : broker.admission.capacity = max settings.maxStreams 1 := by
    rw [← history]
    exact Admission.capacity_run _ operations
  obtain ⟨chronicle, faithful⟩ := balanced.accounted
  have active := balanced.holds.active_eq
  refine ⟨active, packed.active_le, balanced.holds.held, ?_, capacity, balanced.devices,
    faithful.nodup_granted⟩
  rw [← capacity]
  refine Nat.le_trans ?_ packed.active_le
  rw [active]
  exact Nat.le_add_right ..

end Relay

end CameraRelay
