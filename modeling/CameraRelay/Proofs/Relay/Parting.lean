import CameraRelay.Proofs.Admission.Outcomes
import CameraRelay.Proofs.Broker.Deaf
import CameraRelay.Proofs.Broker.Parting
import CameraRelay.Proofs.Relay.Decoders
import CameraRelay.Proofs.Relay.Sessions
import CameraRelay.Proofs.Relay.Slots

/-!
# What a client leaves behind

A client that is disconnected gives back the slots of the sessions that only it watched and of its
unclaimed grants. They go to the others in line, in the order of their arrival, as if the client had
never stood in line itself. Main statement: `slots_handed_on`.
-/

namespace CameraRelay

namespace Admission

/-- Whoever was in line and has a grant now can read of it. -/
theorem Evolves.settlement_of_line {allowed : Operation → Prop} {before after : Admission}
    {chronicle : Chronicle} (evolves : Evolves allowed before after)
    (faithful : Faithful chronicle before) (unread : ∀ ticket, ¬ allowed (.poll ticket))
    {ticket : TicketId} (waits : ticket ∈ before.line) (held : ticket ∈ after.waiters)
    (granted : ticket ∈ after.granted.map (·.1)) :
    after.settlement? ticket = some .granted := by
  obtain ⟨operations, kinds, rfl⟩ := evolves
  have faithful' := faithful.run operations
  refine (faithful'.poll_eq_some ticket .granted).mpr
    ⟨held, fun read => ?_, .granted, faithful'.granted_of_mem granted, rfl⟩
  rcases List.mem_append.mp (Chronicle.read_append _ _ ▸ read) with early | late
  · exact faithful.not_gone waits (faithful.read ticket early)
  · obtain ⟨earlier, later, split, _⟩ := (mem_read ..).mp late
    exact unread ticket (kinds _ (by simp [split]))

end Admission

namespace Relay

theorem tidy_run (settings : RelaySettings) (actions : List Action) :
    ((new settings).run actions).broker.Tidy where
  balanced := balanced_run (Broker.balanced_new settings) actions
  packed := by
    obtain ⟨operations, _, history⟩ := history_run (new settings) actions
    have packed := Admission.packed_run settings.maxStreams operations
    rwa [← history]
  peopled := by
    have shaped : ((new settings).run actions).broker.roster.Shaped :=
      shaped_run Roster.shaped_new actions
    have sound : Sound Own ((new settings).run actions).broker.lives :=
      sound_run (sound_new settings) (.new settings) actions
    exact fun session mem => ⟨shaped.watched session mem, (sound.live session mem).distinct⟩

/-- In every state of every run. When a client is disconnected, nothing of it stays; its slots are
those of the sessions that only it watched and of its unclaimed grants. As many of the others who
still wait as there are such slots are granted one, the first in line first, and are told; the rest
wait on in the same order, and only slots that nobody waits for are free. Sessions that others watch
go on without the client. -/
theorem slots_handed_on (settings : RelaySettings) (actions : List Action)
    (client : SubscriberId) :
    let relay := (new settings).run actions
    let broker := relay.broker
    let after := (relay.step (.disconnect client)).broker
    let freed := (broker.roster.sessions.filter (·.isOnlyOf client)).length +
      (broker.admission.granted.filter fun g => g.2 == client).length
    let others := broker.admission.awaiting.filter fun e => e.requester != client
    let served := min freed others.length
    (others.map (·.ticket)).Pairwise (· < ·) ∧
    (∀ session ∈ after.roster.sessions, ¬ session.hasSubscriber client = true) ∧
    (∀ entry ∈ after.admission.queue, entry.requester ≠ client) ∧
    (∀ grant ∈ after.admission.granted, grant.2 ≠ client) ∧
    after.admission.granted = (broker.admission.granted.filter fun g => g.2 != client) ++
      (others.take served).map Entry.grant ∧
    (∀ entry ∈ others.take served, after.admission.settlement? entry.ticket = some .granted) ∧
    after.admission.awaiting = others.drop served ∧
    after.admission.active + (freed - served) = broker.admission.active ∧
    after.roster.sessions = broker.roster.sessions.filterMap (·.leave client) := by
  intro relay broker after freed others served
  have tidy : broker.Tidy := tidy_run settings actions
  obtain ⟨sessions, advances⟩ := Broker.advances_disconnect tidy client
  have own : (broker.admission.grantsOf client).length =
      (broker.admission.granted.filter fun g => g.2 == client).length := List.length_map ..
  have waiting : (broker.admission.vacate client).awaiting = others :=
    broker.admission.awaiting_vacate client
  rw [own] at advances
  have advances' : (broker.admission.vacate client).Advances after.admission freed served := by
    have reached := Admission.Advances.min_iff.mpr advances
    rwa [waiting] at reached
  have granted : after.admission.granted = (broker.admission.granted.filter fun g =>
      g.2 != client) ++ (others.take served).map Entry.grant := by
    rw [← waiting]
    exact advances'.granted
  have active : after.admission.active + freed =
      broker.admission.active + (others.take served).length := by
    rw [← waiting]
    exact advances'.active
  have lacks : after.admission.Lacks client := Broker.lacks_disconnect broker client
  have shaped : broker.roster.Shaped := shaped_run Roster.shaped_new actions
  obtain ⟨chronicle, faithful⟩ := tidy.balanced.accounted
  have inLine : (others.map (·.ticket)).Sublist broker.admission.line :=
    (List.filter_sublist.trans List.filter_sublist).map _
  refine ⟨faithful.sorted.sublist inLine, fun session mem watches => ?_, lacks.entries,
    lacks.grants, granted, fun entry mem => ?_, ?_, ?_, sessions⟩
  · have none : after.roster.devicesOf client = [] := Broker.devicesOf_disconnect shaped client
    have mem' : session.device ∈ after.roster.devicesOf client :=
      Roster.mem_devicesOf.mpr ⟨_, session, mem, rfl, rfl, watches⟩
    rw [none] at mem'
    cases mem'
  · obtain ⟨here, held⟩ := List.mem_filter.mp (List.mem_filter.mp (List.mem_of_mem_take mem)).1
    refine (Broker.evolves_disconnect broker client).admission.settlement_of_line faithful ?_
      (List.mem_map_of_mem here) ?_ ?_
    · rintro ticket (released | left)
      · cases released
      · cases left
    · have held' : entry.ticket ∈ broker.admission.waiters := by
        simpa [Admission.isAwaited] using held
      show entry.ticket ∈ after.admission.waiters
      rw [advances'.frame.waiters]
      exact held'
    · show entry.ticket ∈ after.admission.granted.map (·.1)
      rw [granted, List.map_append]
      exact List.mem_append_right _ (List.mem_map_of_mem (List.mem_map_of_mem mem))
  · rw [← waiting]
    exact advances'.awaiting
  · have few : served ≤ freed := Nat.min_le_left ..
    rw [List.length_take, Nat.min_eq_left (Nat.min_le_right ..)] at active
    omega

-- The slot of the session goes to the client's own entry first, which is revoked at once.
example :
    let relay := (new { maxStreams := 1 }).run
      [.register ⟨"cam-1"⟩ { locator := "rtsp://127.0.0.1:554/cam-1" },
       .register ⟨"cam-2"⟩ { locator := "rtsp://127.0.0.1:554/cam-2" }, .subscribe, .subscribe,
       .ask 1 ⟨"cam-1"⟩, .resolve 1, .enter 1 none, .ask 1 ⟨"cam-2"⟩, .resolve 2, .enter 2 none,
       .ask 2 ⟨"cam-2"⟩, .resolve 3, .enter 3 none, .disconnect 1]
    relay.broker.admission.granted = [(2, 2)] ∧ relay.broker.admission.queue = [] ∧
      relay.broker.admission.active = 1 := by decide

end Relay

end CameraRelay
