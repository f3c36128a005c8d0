import CameraRelay.Proofs.Broker.Deaf
import CameraRelay.Proofs.Relay.Sessions
import CameraRelay.Proofs.Relay.Slots

/-!
# Clients that are gone

A client is gone when its mailbox was dropped and it was disconnected after that. Its requests may
still be on their way, and may enter the broker in any order with everything else; none of them
leaves anything behind. Main statement: `client_forgotten`.
-/

namespace CameraRelay

namespace Relay

/-- A client that was there does not listen any more. -/
structure Deaf (relay : Relay) (client : SubscriberId) : Prop where
  known : client ≤ relay.subscribers
  closed : relay.broker.mailboxes.isClosed (handle client) = true

/-- Nothing is kept for a client that does not listen. -/
structure Forgotten (relay : Relay) (client : SubscriberId) : Prop where
  deaf : relay.Deaf client
  devices : relay.broker.roster.devicesOf client = []
  lacks : relay.broker.admission.Lacks client

variable {relay : Relay} {client : SubscriberId}

theorem Deaf.step (h : relay.Deaf client) (action : Action) : (relay.step action).Deaf client := by
  refine ⟨Nat.le_trans h.known (subscribers_le_step relay action), ?_⟩
  have shifted {may : SubscriberId → Device → Prop} {next : Broker}
      (shifts : Broker.Shifts may relay.broker next) :
      next.mailboxes.isClosed (handle client) = true :=
    (shifts.mailboxes (handle client)).trans h.closed
  have moved := relay.moves action
  generalize (relay.step action).broker = next, (relay.step action).requests = requests at moved ⊢
  cases moved with
  | post _ mailboxes deaf => exact deaf client h.known h.closed
  | ask => exact h.closed
  | resolve => exact h.closed
  | refuse => exact (relay.broker.mailboxes.isClosed_deliver ..).trans h.closed
  | enter => exact shifted (Broker.shifts_enter ..)
  | wake => exact shifted (Broker.shifts_resume ..)
  | abandon => exact h.closed
  | withdraw => exact h.closed
  | stop => exact shifted (Broker.shifts_detach ..)
  | disconnect => exact shifted (Broker.shifts_disconnect ..)
  | shutdown => exact shifted (Broker.shifts_close ..)
  | report => exact shifted (Broker.shifts_report ..)

theorem Deaf.run (h : relay.Deaf client) (actions : List Action) :
    (relay.run actions).Deaf client := by
  induction actions generalizing relay with
  | nil => exact h
  | cons action rest ih => exact ih (h.step action)

theorem deaf_dropMailbox (known : client ≤ relay.subscribers) :
    (relay.step (.dropMailbox client)).Deaf client :=
  ⟨known, relay.broker.mailboxes.isClosed_drop (handle client)⟩

/-- The requests of a client come from its one handle, so they are deaf as well. -/
theorem Deaf.isClosed_of_request {request : Request} (h : relay.Deaf request.subscriber.id)
    (orderly : relay.Orderly) {number : Nat} (found : relay.request? number = some request) :
    relay.broker.mailboxes.isClosed request.subscriber = true := by
  rw [orderly.handles number request found]
  exact h.closed

theorem Deaf.admits_nothing (h : relay.Deaf client) (orderly : relay.Orderly) (action : Action)
    (device : Device) : ¬ relay.Admits (relay.step action) client device := by
  intro admits
  obtain ⟨number, request, found, rfl, _, pending, finished⟩ := admits
  have closed := h.isClosed_of_request orderly found
  have last := finishes found pending finished
  generalize (relay.step action).broker = next at last
  cases last with
  | refuse _ eq => cases eq
  | enter _ eq => exact (Broker.handles_enter ..).ne_ok closed (Broker.Entered.outcome?_eq_some.mpr eq)
  | wake _ _ eq => exact (Broker.handles_resume ..).ne_ok closed (congrArg some eq.symm)

theorem Deaf.disconnect (h : relay.Deaf client) (shaped : relay.broker.roster.Shaped) :
    (relay.step (.disconnect client)).Forgotten client where
  deaf := h.step _
  devices := Broker.devicesOf_disconnect shaped client
  lacks := Broker.lacks_disconnect relay.broker client

theorem Forgotten.lacks_step (h : relay.Forgotten client) (orderly : relay.Orderly)
    (action : Action) : (relay.step action).broker.admission.Lacks client := by
  have moved := relay.moves action
  generalize (relay.step action).broker = next, (relay.step action).requests = requests at moved ⊢
  cases moved with
  | post => exact h.lacks
  | ask => exact h.lacks
  | resolve => exact h.lacks
  | refuse => exact h.lacks
  | @enter number fault request locator found =>
    by_cases own : request.subscriber.id = client
    · -- What its own request takes up in this step is given back in this step.
      obtain rfl := own
      exact Broker.lacks_enter (h.deaf.isClosed_of_request orderly found) h.lacks
    · exact (Broker.evolves_enter ..).lacks (fun _ => Broker.silent_of_enters own) h.lacks
  | wake => exact (Broker.evolves_resume ..).lacks (fun _ => Broker.silent_of_resumes) h.lacks
  | abandon => exact ⟨h.lacks.entries, h.lacks.grants⟩
  | withdraw => exact h.lacks
  | stop => exact (Broker.evolves_detach ..).lacks (fun _ => Broker.silent_of_releases) h.lacks
  | disconnect =>
    exact (Broker.evolves_disconnect ..).lacks (fun _ => Broker.silent_of_leaves) h.lacks
  | shutdown => exact Broker.lacks_close relay.broker client
  | report => exact (Broker.evolves_report ..).lacks (fun _ => Broker.silent_of_releases) h.lacks

theorem Forgotten.step (h : relay.Forgotten client) (orderly : relay.Orderly) (action : Action) :
    (relay.step action).Forgotten client where
  deaf := h.deaf.step action
  devices := by
    refine List.eq_nil_iff_forall_not_mem.mpr fun device mem => ?_
    rcases Roster.devicesOf_of_changes (changes_step relay action) mem with before | admits
    · rw [h.devices] at before
      cases before
    · exact h.deaf.admits_nothing orderly action device admits
  lacks := h.lacks_step orderly action

theorem Forgotten.run (h : relay.Forgotten client) (orderly : relay.Orderly)
    (actions : List Action) : (relay.run actions).Forgotten client := by
  induction actions generalizing relay with
  | nil => exact h
  | cons action rest ih => exact ih (h.step orderly action) (orderly.step action)

/-- A client whose mailbox was dropped and that was disconnected after that is forgotten for good,
however many of its requests were on their way and whatever happens before, between and afterwards:
it watches nothing, does not wait and has no unclaimed grant, and every slot that is held belongs to
a session that somebody else watches or was granted to somebody else. -/
theorem client_forgotten (settings : RelaySettings) (past between later : List Action)
    (client : SubscriberId) (known : client ≤ ((new settings).run past).subscribers) :
    let relay := (new settings).run
      (past ++ .dropMailbox client :: between ++ .disconnect client :: later)
    let roster := relay.broker.roster
    let admission := relay.broker.admission
    roster.devicesOf client = [] ∧
    (∀ entry ∈ admission.queue, entry.requester ≠ client) ∧
    (∀ grant ∈ admission.granted, grant.2 ≠ client) ∧
    admission.active = roster.sessions.length + admission.granted.length ∧
    (∀ session ∈ roster.sessions, ∃ other ∈ session.subscribers, other.id ≠ client) := by
  intro relay roster admission
  let there := (new settings).run past
  let dropped := (there.step (.dropMailbox client)).run between
  have stretches : relay = (dropped.step (.disconnect client)).run later := by
    show (new settings).run _ = _
    rw [run_append, run_append]
    rfl
  have before : (new settings).run (past ++ .dropMailbox client :: between) = dropped :=
    run_append ..
  have orderly : dropped.Orderly := before ▸ (Orderly.new settings).run _
  have shaped : dropped.broker.roster.Shaped := before ▸ shaped_run Roster.shaped_new _
  have deaf : dropped.Deaf client := (deaf_dropMailbox known).run between
  have forgotten : relay.Forgotten client := by
    rw [stretches]
    exact (deaf.disconnect shaped).run (orderly.step _) later
  have balanced : relay.broker.Balanced 0 := balanced_run (Broker.balanced_new settings) _
  have watched : roster.Shaped := shaped_run Roster.shaped_new _
  refine ⟨forgotten.devices, forgotten.lacks.entries, forgotten.lacks.grants,
    balanced.holds.active_eq, fun session here => ?_⟩
  -- Somebody watches the session, and the client does not.
  obtain ⟨other, first⟩ := List.exists_mem_of_ne_nil _ (watched.watched session here)
  refine ⟨other, first, fun own => ?_⟩
  have watches : session.hasSubscriber client = true :=
    (session.hasSubscriber_iff client).mpr (List.mem_map.mpr ⟨other, first, own⟩)
  have mem : session.device ∈ roster.devicesOf client :=
    Roster.mem_devicesOf.mpr ⟨_, session, here, rfl, rfl, watches⟩
  rw [forgotten.devices] at mem
  cases mem

/-- The second client goes while one of its requests was granted the slot of the first client and
another has not begun. -/
theorem client_forgotten_granted :
    let past := oneWatches ++ [.ask 2 ⟨"cam-2"⟩, .ask 2 ⟨"cam-1"⟩, .resolve 2, .enter 2 none]
    let later := [.wake 2 .settled none, .resolve 3, .enter 3 none]
    let relay := (new { maxStreams := 1 }).run
      (past ++ .dropMailbox 2 :: [.stop 1 ⟨"cam-1"⟩] ++ .disconnect 2 :: later)
    2 ≤ ((new { maxStreams := 1 }).run past).subscribers ∧
      relay.broker.roster.devicesOf 2 = [] ∧
      relay.broker.admission.active =
        relay.broker.roster.sessions.length + relay.broker.admission.granted.length := by
  intro past later relay
  have known : 2 ≤ ((new { maxStreams := 1 }).run past).subscribers := by decide
  obtain ⟨devices, _, _, active, _⟩ :=
    client_forgotten { maxStreams := 1 } past [.stop 1 ⟨"cam-1"⟩] later 2 known
  exact ⟨known, devices, active⟩

end Relay

end CameraRelay
