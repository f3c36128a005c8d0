import CameraRelay.Proofs.Broker.Reports

/-!
# The frames that the broker has counted

The broker counts over all its sessions the frames that were taken in and those that were refused.
Nothing moves the counters but a frame that is reported of a session that goes on, and that moves
them by the outcome of its fan-out, also when nobody is left to watch the session afterwards.
-/

namespace CameraRelay.Broker

variable (broker : Broker) (subscriber : Subscriber) (device : Device) (locator : String)
  (fault : Option SystemFault)

/-- The frames that were taken in, and those that were refused. -/
def frameCounts (broker : Broker) : Nat × Nat := (broker.framesDelivered, broker.framesDropped)

theorem frameCounts_teardown (reason : Teardown) :
    (broker.teardown device reason).frameCounts = broker.frameCounts := by
  cases found : broker.roster.get? device with
  | none => rw [teardown_of_none broker device reason found]
  | some session =>
    obtain ⟨mailboxes, departed, eq⟩ := teardown_of_some broker device reason found
    rw [eq]
    rfl

theorem frameCounts_detach (leaver : SubscriberId) :
    (broker.detach leaver device).frameCounts = broker.frameCounts := by
  simp only [detach]
  split
  · rfl
  · split
    · rfl
    · split
      · exact frameCounts_teardown ..
      · rfl

theorem frameCounts_confirmStarted :
    (broker.confirmStarted subscriber device).1.frameCounts = broker.frameCounts := by
  rw [confirmStarted_eq]
  split
  · exact frameCounts_detach ..
  · rfl

theorem frameCounts_join : (broker.join subscriber device).1.frameCounts = broker.frameCounts := by
  simp only [join]
  split
  · rfl
  · exact frameCounts_confirmStarted ..

theorem frameCounts_openSession :
    (broker.openSession subscriber device locator fault).1.frameCounts = broker.frameCounts := by
  simp only [openSession]
  split
  · exact frameCounts_join ..
  · split
    · exact frameCounts_confirmStarted ..
    · exact frameCounts_teardown ..

theorem frameCounts_enter :
    (broker.enter subscriber device locator fault).1.frameCounts = broker.frameCounts := by
  by_cases closed : broker.closed = true
  · rw [enter_of_closed closed]
    rfl
  by_cases session : broker.roster.contains device = true
  · rw [enter_of_session closed session]
    exact frameCounts_join ..
  by_cases free : broker.admission.active < broker.admission.capacity
  · rw [enter_of_free closed session free]
    exact frameCounts_openSession ..
  · rw [enter_of_full closed session free]
    split <;> rfl

theorem frameCounts_settled (ticket : TicketId) (settlement : Settlement) :
    (broker.settled subscriber device locator fault ticket settlement).1.frameCounts =
      broker.frameCounts := by
  cases settlement with
  | cancelled => rfl
  | granted =>
    simp only [settled]
    split
    · split <;> rfl
    · split
      · rfl
      · split
        · rfl
        · split
          · exact frameCounts_join ..
          · exact frameCounts_openSession ..

theorem frameCounts_resume (ticket : TicketId) (cause : Wake) :
    (broker.resume subscriber device locator fault ticket cause).1.frameCounts =
      broker.frameCounts := by
  cases cause with
  | settled => exact frameCounts_settled ..
  | deadline =>
    simp only [resume, wake]
    split
    · rfl
    · exact frameCounts_settled ..

theorem frameCounts_foldl {change : Broker → Device → Broker}
    (same : ∀ broker device, (change broker device).frameCounts = broker.frameCounts)
    (devices : List Device) : (devices.foldl change broker).frameCounts = broker.frameCounts := by
  induction devices generalizing broker with
  | nil => rfl
  | cons device rest ih => exact (ih (change broker device)).trans (same broker device)

theorem frameCounts_disconnect (leaver : SubscriberId) :
    (broker.disconnect leaver).frameCounts = broker.frameCounts :=
  frameCounts_foldl broker (fun current device => frameCounts_detach current device leaver) _

theorem frameCounts_close : broker.close.frameCounts = broker.frameCounts :=
  frameCounts_foldl _ (fun current device => frameCounts_teardown current device .stop) _

/-! ### Reports -/

variable {broker : Broker} {device : Device} {id : Nat}

theorem frameCounts_report {report : Report} (unframed : ∀ image, report ≠ .frame image) :
    (broker.report device id report).1.frameCounts = broker.frameCounts := by
  cases report with
  | bytes count =>
    simp only [Broker.report, recordBytes]
    split <;> rfl
  | frame image => exact absurd rfl (unframed image)
  | exit exit =>
    simp only [Broker.report, decoderExited]
    split
    · rfl
    · exact frameCounts_teardown ..

theorem frameCounts_frame {session : Session}
    (current : broker.roster.current? device id = some session) (image : Frame) :
    let outcome := (session.broadcast broker.mailboxes image).2.2
    (broker.report device id (.frame image)).1.frameCounts =
      (broker.framesDelivered + outcome.delivered, broker.framesDropped + outcome.dropped) := by
  intro outcome
  simp only [Broker.report, deliverFrame, current]
  split
  · exact frameCounts_teardown ..
  · rfl

end CameraRelay.Broker
