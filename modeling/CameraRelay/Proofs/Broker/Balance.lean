import CameraRelay.Proofs.Broker.Evolution

/-!
# Every session holds one slot

The slots that admission counts as held are those of the sessions in the roster and those of the
grants that were not claimed yet. Between a granted or free slot that is taken and the session that
is created in it, one slot is spare; whoever took it creates the session or gives the slot back.
-/

namespace CameraRelay

namespace Roster

variable (roster : Roster) (device : Device)

@[simp] theorem devices_put (session : Session) :
    (roster.put session).devices = roster.devices := by
  simp only [devices, put, List.map_map]
  apply List.map_congr_left
  intro s _
  by_cases same : s.device = session.device <;> simp [same]

theorem contains_iff : roster.contains device = true ↔ device ∈ roster.devices := by
  simp [contains, get?, devices]

theorem devices_remove : (roster.remove device).devices = roster.devices.filter (· != device) := by
  simp [remove, devices, List.filter_map, Function.comp_def]

theorem length_remove (distinct : roster.devices.Nodup) (session : device ∈ roster.devices) :
    (roster.remove device).sessions.length + 1 = roster.sessions.length := by
  have lengths : ((roster.remove device).devices).length + 1 = roster.devices.length := by
    rw [devices_remove, ← distinct.erase_eq_filter, List.length_erase_of_mem session]
    exact Nat.succ_pred_eq_of_pos (List.length_pos_of_mem session)
  simpa [devices] using lengths

end Roster

namespace Broker

/-- Each session holds a slot of its own, as does each unclaimed grant, and some slots are spare. -/
structure Balanced (broker : Broker) (spare : Nat) : Prop where
  accounted : broker.admission.Accounted
  holds : broker.admission.HoldsFor (broker.roster.sessions.length + spare)
  devices : broker.roster.devices.Nodup

namespace Balanced

variable {broker : Broker} {spare : Nat} {subscriber : Subscriber} {device : Device}
  {locator : String} {fault : Option SystemFault}

theorem of_eq (h : broker.Balanced spare) {next : Broker}
    (admission : next.admission = broker.admission)
    (devices : next.roster.devices = broker.roster.devices) : next.Balanced spare where
  accounted := by
    rw [admission]
    exact h.accounted
  holds := by
    have lengths := congrArg List.length devices
    simp only [Roster.devices, List.length_map] at lengths
    rw [admission, lengths]
    exact h.holds
  devices := by
    rw [devices]
    exact h.devices

theorem put (h : broker.Balanced spare) (session : Session) :
    { broker with roster := broker.roster.put session }.Balanced spare :=
  h.of_eq rfl (Roster.devices_put ..)

theorem release (h : broker.Balanced (spare + 1)) : broker.release.Balanced spare where
  accounted := (evolves_release broker).admission.accounted h.accounted
  holds := Admission.HoldsFor.release h.holds
  devices := h.devices

/-- A session that ends gives its slot back. -/
theorem teardown (h : broker.Balanced spare) (device : Device) (reason : Teardown) :
    (broker.teardown device reason).Balanced spare := by
  cases found : broker.roster.get? device with
  | none => rwa [teardown_of_none broker device reason found]
  | some session =>
    obtain ⟨mailboxes, departed, eq⟩ := teardown_of_some broker device reason found
    have present : device ∈ broker.roster.devices :=
      (broker.roster.contains_iff device).mp (by simp [Roster.contains, found])
    have fewer := broker.roster.length_remove device h.devices present
    have spared : { broker with roster := broker.roster.remove device }.Balanced (spare + 1) := by
      refine ⟨h.accounted, ?_, ?_⟩
      · have holds := h.holds
        rwa [← fewer, Nat.add_assoc, Nat.add_comm 1] at holds
      · show (broker.roster.remove device).devices.Nodup
        rw [Roster.devices_remove]
        exact h.devices.sublist List.filter_sublist
    rw [eq]
    exact spared.release.of_eq rfl rfl

theorem detach (h : broker.Balanced spare) (device : Device) (leaver : SubscriberId) :
    (broker.detach leaver device).Balanced spare := by
  simp only [Broker.detach]
  split
  · exact h
  · next session _ =>
    split
    · exact h
    · split
      · exact (h.put (session.detach leaver).1).teardown device .stop
      · exact h.put (session.detach leaver).1

theorem told (h : broker.Balanced spare) (event : Event) :
    (broker.told subscriber event).Balanced spare :=
  h.of_eq rfl rfl

theorem confirmStarted (h : broker.Balanced spare) :
    (broker.confirmStarted subscriber device).1.Balanced spare := by
  rw [confirmStarted_eq]
  split
  · exact (h.told (.started device)).detach device subscriber.id
  · exact h.told (.started device)

theorem join (h : broker.Balanced spare) : (broker.join subscriber device).1.Balanced spare := by
  simp only [Broker.join]
  split
  · exact h
  · next session _ => exact (h.put (session.attach subscriber).1).confirmStarted

/-- A session is created in a spare slot, or the slot is given back. -/
theorem openSession (h : broker.Balanced (spare + 1)) :
    (broker.openSession subscriber device locator fault).1.Balanced spare := by
  by_cases present : broker.roster.contains device = true
  · rw [openSession_of_session subscriber locator fault present]
    exact h.release.join
  have grown : { broker with roster := broker.grown device locator }.Balanced spare := by
    refine ⟨h.accounted, ?_, ?_⟩
    · have holds := h.holds
      rw [Nat.add_comm spare, ← Nat.add_assoc] at holds
      simpa [Broker.grown] using holds
    · have absent : device ∉ broker.roster.devices := fun mem =>
        present ((broker.roster.contains_iff device).mpr mem)
      have devices : (broker.grown device locator).devices = broker.roster.devices ++ [device] := by
        simp [Broker.grown, Roster.devices]
      show (broker.grown device locator).devices.Nodup
      rw [devices, List.nodup_append]
      refine ⟨h.devices, by simp, ?_⟩
      rintro other mem _ new rfl
      rw [List.mem_singleton.mp new] at mem
      exact absent mem
  have opened : (broker.opened subscriber device locator).Balanced spare := grown.put _
  cases fault with
  | none =>
    rw [openSession_of_start subscriber locator present]
    have started : (broker.started subscriber device locator).Balanced spare := opened.put _
    exact started.confirmStarted
  | some fault =>
    rw [openSession_of_fault subscriber locator fault present]
    exact opened.teardown device (.spawnFailed (Failure.processSpawn device fault).clientText)

/-! ### Requests -/

theorem cancelRequester (h : broker.Balanced spare) (requester : SubscriberId) :
    { broker with admission := (broker.admission.cancelRequester requester).1 }.Balanced spare := by
  obtain ⟨chronicle, faithful⟩ := h.accounted
  exact ⟨⟨_, faithful.cancelRequester requester⟩, .cancelRequester faithful h.holds requester,
    h.devices⟩

theorem enter (h : broker.Balanced 0) :
    (broker.enter subscriber device locator fault).1.Balanced 0 := by
  have asked := h.holds.request device subscriber.id (broker.roster.contains device)
  have accounted := (evolves_requested broker subscriber device
    (broker.mailboxes.isClosed subscriber)).admission.accounted h.accounted
  by_cases closed : broker.closed = true
  · rw [enter_of_closed closed]
    exact h.told _
  by_cases session : broker.roster.contains device = true
  · rw [enter_of_session closed session]
    exact h.join
  by_cases free : broker.admission.active < broker.admission.capacity
  · rw [enter_of_free closed session free]
    rw [requested] at accounted
    rw [request_of_free session free] at asked accounted
    have taken : broker.taken.Balanced 1 := ⟨accounted, asked, h.devices⟩
    exact taken.openSession
  · rw [enter_of_full closed session free]
    rw [requested] at accounted
    rw [request_of_full session free] at asked accounted
    have waits : (broker.placed subscriber device).Balanced 0 := ⟨accounted, asked, h.devices⟩
    split
    · exact waits.cancelRequester subscriber.id
    · exact waits

/-! ### Waiters -/

theorem claim (h : broker.Balanced 0) (ticket : TicketId) :
    { broker with admission := (broker.admission.claim ticket).1 }.Balanced
      (if (broker.admission.claim ticket).2 then 1 else 0) := by
  obtain ⟨chronicle, faithful⟩ := h.accounted
  have holds := h.holds.claim faithful.nodup_granted ticket
  refine ⟨⟨_, faithful.claim ticket⟩, ?_, h.devices⟩
  split
  · next claimed => simpa [claimed] using holds
  · next unclaimed => simpa [unclaimed] using holds

theorem settled (h : broker.Balanced 0) (ticket : TicketId) (settlement : Settlement) :
    (broker.settled subscriber device locator fault ticket settlement).1.Balanced 0 := by
  cases settlement with
  | cancelled => exact h
  | granted =>
    have taken := h.claim ticket
    simp only [Broker.settled]
    split
    · next unclaimed =>
      rw [if_neg (by simpa using unclaimed)] at taken
      split
      · exact taken.told (.error (some device) Failure.shuttingDown.clientText)
      · exact taken
    · next claimed =>
      rw [if_pos (by simpa using claimed)] at taken
      split
      · exact taken.release.told (.error (some device) Failure.shuttingDown.clientText)
      · split
        · exact taken.release
        · split
          · exact taken.release.join
          · exact taken.openSession

theorem readSettlement (h : broker.Balanced 0) (ticket : TicketId) :
    (broker.readSettlement ticket).1.Balanced 0 := by
  have accounted := (evolves_readSettlement broker ticket).admission.accounted h.accounted
  exact ⟨accounted, h.holds.poll ticket, h.devices⟩

theorem wake (h : broker.Balanced 0) (ticket : TicketId) (cause : Wake) :
    (broker.wake subscriber device locator fault ticket cause).1.Balanced 0 := by
  cases cause with
  | settled => exact (h.readSettlement ticket).settled ticket _
  | deadline =>
    obtain ⟨chronicle, faithful⟩ := h.accounted
    have expired : { broker with admission := (broker.admission.expire ticket).1 }.Balanced 0 :=
      ⟨⟨_, faithful.expire ticket⟩, h.holds.expire ticket, h.devices⟩
    simp only [Broker.wake]
    split
    · next eq =>
      rw [eq] at expired
      exact expired.told (.error (some device) (Failure.admissionTimeout device).clientText)
    · next eq =>
      rw [eq] at expired
      exact (expired.readSettlement ticket).settled ticket _

theorem resume (h : broker.Balanced 0) (ticket : TicketId) (cause : Wake) :
    (broker.resume subscriber device locator fault ticket cause).1.Balanced 0 := by
  have woken : (broker.wake subscriber device locator fault ticket cause).1.Balanced 0 :=
    h.wake ticket cause
  obtain ⟨chronicle, faithful⟩ := woken.accounted
  exact ⟨⟨_, faithful.abandon ticket⟩, woken.holds.abandon ticket, woken.devices⟩

/-! ### Everything else -/

theorem abandon (h : broker.Balanced 0) (ticket : TicketId) :
    { broker with admission := broker.admission.abandon ticket }.Balanced 0 := by
  obtain ⟨chronicle, faithful⟩ := h.accounted
  exact ⟨⟨_, faithful.abandon ticket⟩, h.holds.abandon ticket, h.devices⟩

theorem report (h : broker.Balanced 0) (id : Nat) (report : Report) :
    (broker.report device id report).1.Balanced 0 := by
  cases report with
  | bytes count =>
    simp only [Broker.report, recordBytes]
    split
    · exact h
    · exact h.put _
  | frame frame =>
    simp only [Broker.report, deliverFrame]
    split
    · exact h
    · next session _ =>
      have shown : (broker.shown session frame).Balanced 0 :=
        h.of_eq rfl (Roster.devices_put ..)
      split
      · exact shown.teardown device .stop
      · exact shown
  | exit exit =>
    simp only [Broker.report, decoderExited]
    split
    · exact h
    · exact h.teardown device (.exit exit)

theorem disconnect (h : broker.Balanced 0) (leaver : SubscriberId) :
    (broker.disconnect leaver).Balanced 0 := by
  have left : ((broker.roster.devicesOf leaver).foldl (·.detach leaver ·) broker).Balanced 0 :=
    List.foldlRecOn (motive := fun left : Broker => left.Balanced 0) _ _ h fun _ h device _ =>
      h.detach device leaver
  exact left.cancelRequester leaver

theorem close (h : broker.Balanced 0) : broker.close.Balanced 0 := by
  obtain ⟨chronicle, faithful⟩ := h.accounted
  have closing : broker.cancelled.Balanced 0 :=
    ⟨⟨_, faithful.cancelAll⟩, h.holds.cancelAll, h.devices⟩
  exact List.foldlRecOn (motive := fun left : Broker => left.Balanced 0) _ _ closing
    fun _ h device _ => h.teardown device .stop

end Balanced

theorem balanced_new (settings : RelaySettings) : (new settings).Balanced 0 where
  accounted := ⟨{}, .new settings.maxStreams⟩
  holds := ⟨rfl, rfl⟩
  devices := .nil

end Broker

end CameraRelay
