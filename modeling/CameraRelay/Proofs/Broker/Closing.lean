import CameraRelay.Proofs.Broker.Deaf

/-!
# A broker that was closed

Closing empties the line, revokes the grants and ends the sessions, so no slot is held afterwards.
Nothing that can be done to a closed broker brings any of it back, and it refuses every request.
-/

namespace CameraRelay

namespace Broker

structure Shut (broker : Broker) : Prop where
  closed : broker.closed = true
  sessions : broker.roster.sessions = []
  queue : broker.admission.queue = []
  granted : broker.admission.granted = []
  active : broker.admission.active = 0

variable {broker : Broker} {subscriber : Subscriber} {device : Device} {locator : String}
  {fault : Option SystemFault}

/-! ### Closing -/

theorem sessions_foldl_teardown (devices : List Device) {session : Session}
    (mem : session ∈ (devices.foldl (·.teardown · .stop) broker).roster.sessions) :
    session ∈ broker.roster.sessions ∧ session.device ∉ devices := by
  induction devices generalizing broker with
  | nil => exact ⟨mem, List.not_mem_nil⟩
  | cons device rest ih =>
    obtain ⟨here, later⟩ := ih mem
    rw [roster_teardown] at here
    obtain ⟨before, apart⟩ := List.mem_filter.mp here
    refine ⟨before, fun either => ?_⟩
    rcases List.mem_cons.mp either with same | after
    · simp [same] at apart
    · exact later after

theorem sessions_close (broker : Broker) : broker.close.roster.sessions = [] := by
  refine List.eq_nil_iff_forall_not_mem.mpr fun session mem => ?_
  obtain ⟨here, apart⟩ := sessions_foldl_teardown _ mem
  exact apart (List.mem_map_of_mem here)

theorem shut_close (balanced : broker.Balanced 0) : broker.close.Shut := by
  have queue : broker.close.admission.queue = [] :=
    List.eq_nil_iff_forall_not_mem.mpr fun entry mem =>
      (lacks_close broker entry.requester).entries entry mem rfl
  have granted : broker.close.admission.granted = [] :=
    List.eq_nil_iff_forall_not_mem.mpr fun grant mem =>
      (lacks_close broker grant.2).grants grant mem rfl
  refine ⟨broker.evolves_close.closed, sessions_close broker, queue, granted, ?_⟩
  have active := balanced.close.holds.active_eq
  simpa [sessions_close, granted] using active

/-! ### Afterwards -/

namespace Shut

variable (h : broker.Shut)

include h

theorem get?_eq_none (device : Device) : broker.roster.get? device = none := by
  simp [Roster.get?, h.sessions]

theorem post (mailboxes : Mailboxes) : { broker with mailboxes }.Shut :=
  ⟨h.closed, h.sessions, h.queue, h.granted, h.active⟩

theorem told (event : Event) : (broker.told subscriber event).Shut := h.post _

theorem abandon (ticket : TicketId) :
    { broker with admission := broker.admission.abandon ticket }.Shut :=
  ⟨h.closed, h.sessions, h.queue, h.granted, h.active⟩

theorem detach_eq (leaver : SubscriberId) : broker.detach leaver device = broker := by
  simp only [detach, h.get?_eq_none]

theorem disconnect (leaver : SubscriberId) :
    (broker.disconnect leaver).Shut ∧ (broker.disconnect leaver).roster = broker.roster := by
  have nowhere : broker.roster.devicesOf leaver = [] := by simp [Roster.devicesOf, h.sessions]
  have left : broker.disconnect leaver =
      { broker with admission := (broker.admission.cancelRequester leaver).1 } := by
    simp only [Broker.disconnect, nowhere, List.foldl_nil]
  rw [left]
  refine ⟨⟨h.closed, h.sessions, ?_, ?_, ?_⟩, rfl⟩
  all_goals simp [Admission.cancelRequester, Admission.revokeAll, h.queue, h.granted, h.active]

theorem close : broker.close.Shut ∧ broker.close.roster = broker.roster := by
  have nowhere : broker.cancelled.roster.devices = [] := by
    simp [cancelled, Roster.devices, h.sessions]
  have nothing : broker.close = broker.cancelled := by
    show broker.cancelled.roster.devices.foldl (·.teardown · .stop) broker.cancelled = _
    rw [nowhere, List.foldl_nil]
  rw [nothing]
  refine ⟨⟨rfl, h.sessions, ?_, rfl, ?_⟩, rfl⟩
  all_goals simp [cancelled, Admission.cancelAll, h.queue, h.granted, h.active]

theorem report_eq (device : Device) (id : Nat) (report : Report) :
    (broker.report device id report).1 = broker := by
  have stale : broker.roster.current? device id = none := by
    simp [Roster.current?, h.get?_eq_none]
  cases report <;> simp only [Broker.report, recordBytes, deliverFrame, decoderExited, stale]

theorem settled (ticket : TicketId) (settlement : Settlement) :
    let result := broker.settled subscriber device locator fault ticket settlement
    result.1.Shut ∧ result.1.roster = broker.roster ∧
      (result.2 = .error (.admissionCancelled device) ∨ result.2 = .error .shuttingDown) := by
  intro result
  cases settlement with
  | cancelled => exact ⟨h, rfl, .inl rfl⟩
  | granted =>
    let claimed := { broker with admission := (broker.admission.claim ticket).1 }
    have shut : claimed.Shut :=
      ⟨h.closed, h.sessions, h.queue, by simp [claimed, Admission.claim, h.granted], h.active⟩
    have unclaimed : (broker.admission.claim ticket).2 = false := by
      simp [Admission.claim, h.granted]
    have refused : result = claimed.refuse subscriber device .shuttingDown := by
      simp only [result, Broker.settled, unclaimed, Bool.not_false, if_true]
      exact if_pos h.closed
    rw [refused]
    exact ⟨shut.told (.error (some device) Failure.shuttingDown.clientText), rfl, .inr rfl⟩

/-- A waiter that is woken learns that it was cancelled, or that the broker was closed. -/
theorem resume (ticket : TicketId) (cause : Wake) :
    let result := broker.resume subscriber device locator fault ticket cause
    result.1.Shut ∧ result.1.roster = broker.roster ∧
      (result.2 = .error (.admissionCancelled device) ∨ result.2 = .error .shuttingDown) := by
  intro result
  have gone : ticket ∉ broker.admission.line := by simp [Admission.line, h.queue]
  have read : (broker.readSettlement ticket).1.Shut :=
    ⟨h.closed, h.sessions, h.queue, h.granted, h.active⟩
  simp only [result, Broker.resume, wake_of_gone gone]
  obtain ⟨shut, roster, failed⟩ := read.settled ticket (broker.readSettlement ticket).2
  exact ⟨shut.abandon ticket, roster, failed⟩

theorem resume_ne_ok (ticket : TicketId) (cause : Wake) :
    (broker.resume subscriber device locator fault ticket cause).2 ≠ .ok () := by
  obtain ⟨_, _, failed⟩ := @resume broker subscriber device locator fault h ticket cause
  intro well
  rcases failed with cancelled | refused
  · rw [cancelled] at well
    cases well
  · rw [refused] at well
    cases well

end Shut

end Broker

end CameraRelay
