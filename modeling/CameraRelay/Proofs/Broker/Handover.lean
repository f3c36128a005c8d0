import CameraRelay.Proofs.Admission.Grants
import CameraRelay.Proofs.Broker.Answers
import CameraRelay.Proofs.Broker.Deaf

/-!
# What becomes of a granted slot

A waiter that takes up its grant creates a session in the slot, or gives the slot back at once: its
device has a session by now, its client listens no more, no decoder starts or the broker is closed.
A slot that is given back goes to the first in line who still waits. Either way no grant is left.
-/

namespace CameraRelay

namespace Admission

variable {before middle after : Admission} {apart : TicketId → Prop} {allowed : Operation → Prop}

theorem Evolves.waiters_subset (h : Evolves allowed before after)
    (silent : ∀ operation client, allowed operation → ¬ operation.Asks client) :
    after.waiters ⊆ before.waiters :=
  h.keeps (fun admission => admission.waiters ⊆ before.waiters) (fun _ operation allowed subset =>
    List.Subset.trans (waiters_act fun client => silent operation client allowed) subset)
    (List.Subset.refl _)

theorem Evolves.mem_granted (h : Evolves Releases before after) {grant : TicketId × SubscriberId}
    (mem : grant ∈ before.granted) : grant ∈ after.granted := by
  refine h.keeps (fun admission => grant ∈ admission.granted) ?_ mem
  rintro admission _ rfl mem
  exact mem_granted_release mem

theorem Serves.releases (h : before.Serves middle) (evolves : Evolves Releases middle after) :
    before.Serves after := fun entry first => evolves.mem_granted (h entry first)

theorem Wanted.evolves (h : before.Wanted apart) (evolves : Evolves allowed before after)
    (abandons : ∀ operation ticket, allowed operation → operation = .abandon ticket →
      apart ticket) : after.Wanted apart :=
  evolves.keeps (·.Wanted apart) (fun _ operation allowed wanted =>
    wanted.act operation fun ticket => abandons operation ticket allowed) h

/-- Slots that are given back are granted to nobody but those in line. -/
theorem Evolves.not_granted {ticket : TicketId} (h : Evolves Releases before after)
    (gone : ticket ∉ before.line) (ungranted : ticket ∉ before.granted.map (·.1)) :
    ticket ∉ after.granted.map (·.1) := by
  have start : before.Owners (fun t _ => t ≠ ticket) (fun t _ => t ≠ ticket) := by
    refine ⟨fun entry mem same => ?_, fun grant mem same => ?_⟩
    · exact gone (same ▸ List.mem_map_of_mem mem)
    · exact ungranted (same ▸ List.mem_map_of_mem mem)
  have owners := h.keeps (·.Owners (fun t _ => t ≠ ticket) (fun t _ => t ≠ ticket)) (by
    rintro admission _ rfl owners
    exact owners.release fun _ _ differs => differs) start
  intro mem
  obtain ⟨grant, granted, same⟩ := List.mem_map.mp mem
  exact owners.grants grant granted same

end Admission

open Admission

namespace Broker

variable {broker : Broker} {subscriber : Subscriber} {device : Device} {locator : String}
  {fault : Option SystemFault} {ticket : TicketId}

/-- Nobody but who is told to wait comes to hold a ticket. -/
theorem mem_waiters_enter
    (held : ticket ∈ (broker.enter subscriber device locator fault).1.admission.waiters) :
    ticket ∈ broker.admission.waiters ∨
      (broker.enter subscriber device locator fault).2 = .waiting ticket := by
  have released {next : Broker} (evolves : Evolves Releases broker next)
      (held : ticket ∈ next.admission.waiters) : ticket ∈ broker.admission.waiters :=
    evolves.admission.waiters_subset (fun _ _ => silent_of_releases) held
  by_cases closed : broker.closed = true
  · rw [enter_of_closed closed] at held
    exact .inl held
  by_cases session : broker.roster.contains device = true
  · rw [enter_of_session closed session] at held
    exact .inl (released (evolves_join broker subscriber device) held)
  by_cases free : broker.admission.active < broker.admission.capacity
  · rw [enter_of_free closed session free] at held
    have opens := evolves_openSession broker.taken subscriber device locator fault
    exact .inl (opens.admission.waiters_subset (fun _ _ => silent_of_releases) held)
  · rw [enter_of_full closed session free] at held ⊢
    have placed : ticket ∈ (broker.placed subscriber device).admission.waiters := by
      split at held
      · rwa [(frame_cancelRequester _ _).waiters] at held
      · exact held
    rcases List.mem_append.mp placed with old | new
    · exact .inl old
    · exact .inr (by rw [List.mem_singleton.mp new]; rfl)

/-- A grant that is taken up now creates a session. -/
def Opens (broker : Broker) (subscriber : Subscriber) (device : Device)
    (fault : Option SystemFault) : Prop :=
  broker.closed = false ∧ broker.mailboxes.isClosed subscriber = false ∧
    broker.roster.contains device = false ∧ fault = none

theorem devices_join (broker : Broker) (device : Device)
    (listens : ¬ broker.mailboxes.isClosed subscriber = true) :
    (broker.join subscriber device).1.roster.devices = broker.roster.devices := by
  simp only [join]
  split
  · rfl
  · next session _ =>
    let joined := { broker with roster := broker.roster.put (session.attach subscriber).1 }
    have listens' : ¬ joined.mailboxes.isClosed subscriber = true := listens
    show (joined.confirmStarted subscriber device).1.roster.devices = _
    rw [confirmStarted_eq, if_neg listens']
    exact Roster.devices_put ..

theorem devices_opened (broker : Broker) (subscriber : Subscriber) (device : Device)
    (locator : String) :
    (broker.opened subscriber device locator).roster.devices =
      broker.roster.devices ++ [device] := by
  rw [opened, Roster.devices_put]
  simp [grown, Roster.devices]

section

variable (found : (broker.admission.claim ticket).2 = true)

include found

theorem settled_of_opens (locator : String) (opens : broker.Opens subscriber device fault) :
    let next := (broker.settled subscriber device locator fault ticket .granted).1
    next.roster.devices = broker.roster.devices ++ [device] ∧
      next.admission = (broker.admission.claim ticket).1 := by
  obtain ⟨goesOn, listens, alone, rfl⟩ := opens
  let claimed := { broker with admission := (broker.admission.claim ticket).1 }
  have alone' : ¬ claimed.roster.contains device = true := by simp [claimed, alone]
  have listens' : ¬ (claimed.started subscriber device locator).mailboxes.isClosed subscriber =
      true := by
    show ¬ broker.mailboxes.isClosed subscriber = true
    simp [listens]
  have step : broker.settled subscriber device locator none ticket .granted =
      claimed.openSession subscriber device locator none := by
    simp [settled, found, goesOn, listens, alone, claimed]
  intro next
  have same : next =
      (claimed.started subscriber device locator).told subscriber (.started device) := by
    show (broker.settled subscriber device locator none ticket .granted).1 = _
    rw [step, openSession_of_start subscriber locator alone', confirmStarted_eq, if_neg listens']
  rw [same]
  exact ⟨(Roster.devices_put ..).trans (devices_opened claimed ..), rfl⟩

theorem settled_of_useless (locator : String) (packed : broker.admission.Packed)
    (positive : 0 < broker.admission.capacity)
    (useless : ¬ broker.Opens subscriber device fault) :
    let next := (broker.settled subscriber device locator fault ticket .granted).1
    next.roster.devices = broker.roster.devices ∧ broker.admission.Serves next.admission := by
  intro next
  let claimed := { broker with admission := (broker.admission.claim ticket).1 }
  have packed' : claimed.admission.Packed := ⟨packed.active_le, packed.full⟩
  have serves : broker.admission.Serves claimed.release.admission := packed'.serves positive
  have shown : next = (broker.settled subscriber device locator fault ticket .granted).1 := rfl
  by_cases closed : broker.closed = true
  · have same : next = (claimed.release.refuse subscriber device .shuttingDown).1 := by
      simp [shown, settled, found, closed, claimed]
    rw [same]
    exact ⟨rfl, serves⟩
  by_cases deaf : broker.mailboxes.isClosed subscriber = true
  · have same : next = claimed.release := by
      simp [shown, settled, found, closed, deaf, claimed]
    rw [same]
    exact ⟨rfl, serves⟩
  by_cases present : broker.roster.contains device = true
  · have same : next = (claimed.release.join subscriber device).1 := by
      simp [shown, settled, found, closed, deaf, present, claimed]
    rw [same]
    have joins := (evolves_join claimed.release subscriber device).admission
    exact ⟨devices_join claimed.release device deaf, serves.releases joins⟩
  have same : next = (claimed.openSession subscriber device locator fault).1 := by
    simp [shown, settled, found, closed, deaf, present, claimed]
  cases fault with
  | none =>
    have opens : broker.Opens subscriber device none :=
      ⟨by simpa using closed, by simpa using deaf, by simpa using present, rfl⟩
    exact absurd opens useless
  | some fault =>
    -- The new session is torn down at once, and its slot is the one that was granted.
    have alone : ¬ claimed.roster.contains device = true := present
    let opened := claimed.opened subscriber device locator
    obtain ⟨mailboxes, departed, eq⟩ := teardown_of_some opened device
      (.spawnFailed (Failure.processSpawn device fault).clientText)
      (get?_opened subscriber locator alone)
    rw [same, openSession_of_fault subscriber locator fault alone, eq]
    refine ⟨?_, serves⟩
    have absent : ∀ other ∈ broker.roster.devices, other ≠ device := by
      rintro other mem rfl
      exact present ((broker.roster.contains_iff other).mpr mem)
    show (opened.roster.remove device).devices = _
    rw [Roster.devices_remove, devices_opened]
    show (broker.roster.devices ++ [device]).filter _ = _
    rw [List.filter_append, List.filter_eq_self.mpr (by simpa using absent)]
    simp

end

section

variable {chronicle : Chronicle} {requester : SubscriberId}
  (faithful : Faithful chronicle broker.admission)
  (standing : Standing chronicle broker.admission ticket requester)

include faithful standing

theorem readSettlement_of_granted (granted : ticket ∈ broker.admission.granted.map (·.1)) :
    (broker.readSettlement ticket).2 = .granted := by
  have told : (broker.admission.poll ticket).2 = some .granted :=
    standing.settlement_of_granted faithful granted
  simp [readSettlement, told]

theorem not_granted_settled (subscriber : Subscriber) (device : Device) (locator : String)
    (fault : Option SystemFault) :
    ticket ∉ ((broker.readSettlement ticket).1.settled subscriber device locator fault ticket
      (broker.readSettlement ticket).2).1.admission.granted.map (·.1) := by
  cases read : (broker.readSettlement ticket).2 with
  | cancelled =>
    intro granted
    rw [readSettlement_of_granted faithful standing granted] at read
    cases read
  | granted =>
    have told : (broker.admission.poll ticket).2 = some .granted := by
      cases told : (broker.admission.poll ticket).2 with
      | none => simp [readSettlement, told] at read
      | some settlement => simpa [readSettlement, told] using read
    obtain ⟨_, _, fate, left, _⟩ := (faithful.poll_eq_some ticket .granted).mp told
    have gone : ticket ∉ broker.admission.line := fun waits =>
      faithful.not_gone waits (Chronicle.mem_gone.mpr ⟨fate, left⟩)
    have taken := evolves_granted (broker.readSettlement ticket).1 subscriber device locator fault
      ticket
    refine taken.admission.not_granted gone ?_
    simp [Admission.claim]

/-- However a request is woken, it leaves no grant behind. -/
theorem not_granted_resume (subscriber : Subscriber) (device : Device) (locator : String)
    (fault : Option SystemFault) (cause : Wake) :
    ticket ∉ (broker.resume subscriber device locator fault ticket cause).1.admission.granted.map
      (·.1) := by
  show ticket ∉
    (broker.wake subscriber device locator fault ticket cause).1.admission.granted.map (·.1)
  have settled := not_granted_settled faithful standing subscriber device locator fault
  cases cause with
  | settled => exact settled
  | deadline =>
    by_cases line : ticket ∈ broker.admission.line
    · rw [wake_of_line line]
      have same : (broker.admission.expire ticket).1.granted = broker.admission.granted := by
        simp only [expire]
        split <;> rfl
      show ticket ∉ (broker.admission.expire ticket).1.granted.map (·.1)
      rw [same]
      exact faithful.not_granted line
    · rw [wake_of_gone line]
      exact settled

/-- A waiter that was granted a slot creates a session in it, or hands it on. -/
theorem resume_of_granted (packed : broker.admission.Packed)
    (positive : 0 < broker.admission.capacity)
    (granted : ticket ∈ broker.admission.granted.map (·.1)) (cause : Wake) :
    let next := (broker.resume subscriber device locator fault ticket cause).1
    (broker.Opens subscriber device fault →
      next.roster.devices = broker.roster.devices ++ [device] ∧
        next.admission.active = broker.admission.active) ∧
    (¬ broker.Opens subscriber device fault →
      next.roster.devices = broker.roster.devices ∧ broker.admission.Serves next.admission) := by
  have gone : ticket ∉ broker.admission.line := fun waits => faithful.not_granted waits granted
  have read := readSettlement_of_granted faithful standing granted
  let polled := (broker.readSettlement ticket).1
  have found : (polled.admission.claim ticket).2 = true := by
    simpa [polled, readSettlement, Admission.claim, Admission.poll] using granted
  have packed' : polled.admission.Packed := ⟨packed.active_le, packed.full⟩
  have woken : (broker.wake subscriber device locator fault ticket cause).1 =
      (polled.settled subscriber device locator fault ticket .granted).1 := by
    rw [wake_of_gone gone, read]
  intro next
  have same : next =
      { (polled.settled subscriber device locator fault ticket .granted).1 with
        admission :=
          (polled.settled subscriber device locator fault ticket .granted).1.admission.abandon
            ticket } := by
    rw [← woken]
    rfl
  rw [same]
  constructor
  · intro opens
    have opens' : polled.Opens subscriber device fault := opens
    obtain ⟨devices, same⟩ := settled_of_opens found locator opens'
    refine ⟨devices, ?_⟩
    show (polled.settled subscriber device locator fault ticket .granted).1.admission.active = _
    rw [same]
    rfl
  · intro useless
    have useless' : ¬ polled.Opens subscriber device fault := useless
    exact settled_of_useless found locator packed' positive useless'

end

end Broker

end CameraRelay
