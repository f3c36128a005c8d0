import CameraRelay.Proofs.Broker.Closing
import CameraRelay.Proofs.Broker.Order
import CameraRelay.Proofs.Relay.Parting

/-!
# Stopping twice

Whatever stops sessions leaves nothing of its kind to be stopped: a second time finds nothing to do,
though the first may have handed slots to others in line. A client that stops watching a device and
then leaves is where it would be had it just left. Main statement: `stopping_idempotent`.
-/

namespace CameraRelay

namespace Admission

variable {admission : Admission} {requester : SubscriberId}

theorem cancelRequester_of_lacks (lacks : admission.Lacks requester) :
    (admission.cancelRequester requester).1 = admission := by
  have entries : (admission.queue.filter fun e => e.requester == requester) = [] :=
    List.filter_eq_nil_iff.mpr fun e mem => by simpa using lacks.entries e mem
  have others : (admission.queue.filter fun e => !(e.requester == requester)) = admission.queue :=
    List.filter_eq_self.mpr fun e mem => by simpa using lacks.entries e mem
  have grants : admission.grantsOf requester = [] := by
    rw [grantsOf, List.map_eq_nil_iff]
    exact List.filter_eq_nil_iff.mpr fun g mem => by simpa using lacks.grants g mem
  rw [cancelRequester_eq, withoutRequester, withoutEntriesOf, entries, others, grants]
  simp [withdraw, revokeAll]

theorem cancelAll_of_none (queue : admission.queue = []) (granted : admission.granted = []) :
    admission.cancelAll.1 = admission := by
  obtain ⟨capacity, active, line, grants, issued, waiters, settlements, counters⟩ := admission
  obtain rfl : line = [] := queue
  obtain rfl : grants = [] := granted
  simp [cancelAll_eq, withdraw]

end Admission

namespace Broker

open Session (parting)

variable {broker first second : Broker} {client : SubscriberId} {device : Device}

theorem detach_detach (shaped : broker.roster.Shaped) (client : SubscriberId) (device : Device) :
    (broker.detach client device).detach client device = broker.detach client device := by
  refine detach_of_apart fun session found watches => ?_
  obtain ⟨mem, here⟩ := Roster.mem_of_get? found
  exact not_watches_detach shaped client
    (Roster.mem_devicesOf.mpr ⟨_, session, mem, rfl, here, watches⟩)

theorem disconnect_disconnect (shaped : broker.roster.Shaped) (client : SubscriberId) :
    (broker.disconnect client).disconnect client = broker.disconnect client := by
  have nowhere := devicesOf_disconnect shaped client
  have lacks := broker.lacks_disconnect client
  generalize broker.disconnect client = left at nowhere lacks ⊢
  simp only [disconnect, nowhere, List.foldl_nil, Admission.cancelRequester_of_lacks lacks]

theorem close_close (balanced : broker.Balanced 0) : broker.close.close = broker.close := by
  have shut := shut_close balanced
  generalize broker.close = closed at shut ⊢
  have nothing : closed.cancelled = closed := by
    have admission := Admission.cancelAll_of_none shut.queue shut.granted
    simp only [cancelled, admission, ← shut.closed]
  show closed.cancelled.roster.devices.foldl (·.teardown · .stop) closed.cancelled = closed
  rw [nothing, Roster.devices, shut.sessions, List.map_nil, List.foldl_nil]

theorem teardown_teardown (broker : Broker) (device : Device) (reason again : Teardown) :
    (broker.teardown device reason).teardown device again = broker.teardown device reason := by
  apply teardown_of_none
  rw [roster_teardown, Roster.get?_remove]

/-- Who leaves one session and then all others has left the same sessions as who leaves all. -/
theorem sifts_detach_foldl (tidy : broker.Tidy) (client : SubscriberId) (device : Device) :
    let left := broker.detach client device
    Sifts (parting client (broker.roster.devicesOf client)) broker
      ((left.roster.devicesOf client).foldl (·.detach client ·) left) := by
  intro left
  have now : Sifts (parting client [device]) broker left :=
    sifts_detach tidy.balanced.devices tidy.peopled client device
  have rest := sifts_foldl_detach (tidy.detach client device) client (left.roster.devicesOf client)
  have both := now.trans rest fun s _ => s.parting_cons device (left.roster.devicesOf client)
  refine both.congr fun s mem => ?_
  by_cases watches : s.hasSubscriber client = true
  · have listed : s.device ∈ broker.roster.devicesOf client :=
      Roster.mem_devicesOf.mpr ⟨_, s, mem, rfl, rfl, watches⟩
    have covered : s.device ∈ device :: left.roster.devicesOf client := by
      by_cases here : s.device = device
      · exact here ▸ List.mem_cons_self
      · have kept : s ∈ left.roster.sessions := by
          rw [now.roster]
          exact List.mem_filterMap.mpr ⟨s, mem, by simp [parting, here, Course.next?]⟩
        apply List.mem_cons_of_mem
        exact Roster.mem_devicesOf.mpr ⟨_, s, kept, rfl, rfl, watches⟩
    simp only [parting, listed, covered, if_true]
  · rw [Session.parting_of_apart watches, Session.parting_of_apart watches]

theorem Matches.cancelRequester (h : Matches first second) (client : SubscriberId) :
    Matches { first with admission := (first.admission.cancelRequester client).1 }
      { second with admission := (second.admission.cancelRequester client).1 } where
  roster := h.roster
  admission := congrArg (fun admission => (admission.cancelRequester client).1) h.admission
  mailboxes := h.mailboxes
  departed := h.departed
  framesDelivered := h.framesDelivered
  framesDropped := h.framesDropped
  closed := h.closed

theorem disconnect_detach (tidy : broker.Tidy) (client : SubscriberId) (device : Device) :
    Matches ((broker.detach client device).disconnect client) (broker.disconnect client) := by
  have alike := (sifts_detach_foldl tidy client device).matches
    (sifts_foldl_detach tidy client (broker.roster.devicesOf client))
  exact alike.cancelRequester client

end Broker

namespace Relay

/-- In every state of every run. To stop watching a device, to leave, to shut down or to tear a
session down, done twice in a row, is the same as done once. To stop watching a device and then leave
comes to the same as leaving, but for the order in which the sessions that ended are remembered. -/
theorem stopping_idempotent (settings : RelaySettings) (actions : List Action) :
    let relay := (new settings).run actions
    (∀ client device, (relay.step (.stop client device)).step (.stop client device) =
      relay.step (.stop client device)) ∧
    (∀ client, (relay.step (.disconnect client)).step (.disconnect client) =
      relay.step (.disconnect client)) ∧
    (relay.step .shutdown).step .shutdown = relay.step .shutdown ∧
    (∀ device reason again,
      (relay.broker.teardown device reason).teardown device again =
        relay.broker.teardown device reason) ∧
    ∀ client device,
      Broker.Matches ((relay.step (.stop client device)).step (.disconnect client)).broker
        (relay.step (.disconnect client)).broker := by
  intro relay
  have shaped : relay.broker.roster.Shaped := shaped_run Roster.shaped_new actions
  have tidy : relay.broker.Tidy := tidy_run settings actions
  refine ⟨fun client device => ?_, fun client => ?_, ?_, fun device reason again => ?_,
    fun client device => ?_⟩
  · simp only [step, Broker.detach_detach shaped]
  · simp only [step, Broker.disconnect_disconnect shaped]
  · simp only [step, Broker.close_close tidy.balanced]
  · exact relay.broker.teardown_teardown device reason again
  · simp only [step]
    exact Broker.disconnect_detach tidy client device

end Relay

end CameraRelay
