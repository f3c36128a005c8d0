import CameraRelay.Proofs.Admission.Standing
import CameraRelay.Proofs.Broker.Evolution

/-!
# What a client is told of its request

A step that finishes a request tells the client of the outcome, by one event and by nothing else.
The exception is a request that is woken by a cancellation: it ends silently.
-/

namespace CameraRelay

def Event.ofOutcome (device : Device) : Outcome → Event
  | .ok () => .started device
  | .error failure => .error (some device) failure.clientText

/-- Whether an event is of the kind that an outcome calls for, and names the device. -/
def Event.answersTo (device : Device) : Outcome → Event → Bool
  | .ok (), .started named => named == device
  | .error _, .error named _ => named == some device
  | _, _ => false

namespace Roster

theorem get?_put (roster : Roster) (session : Session) (device : Device) :
    (roster.put session).get? device =
      (roster.get? device).map fun s => if s.device = session.device then session else s := by
  have devices : ((fun s : Session => s.device == device) ∘ fun s : Session =>
      if s.device = session.device then session else s) = fun s => s.device == device := by
    funext s
    by_cases same : s.device = session.device <;> simp [same]
  simp only [get?, put, List.find?_map, devices]

end Roster

theorem Session.fanOut_cons (event : Event) (subscriber : Subscriber) (rest : List Subscriber)
    (boxes : Mailboxes) :
    (fanOut event (subscriber :: rest) boxes).1 =
      (fanOut event rest (boxes.deliver subscriber event).1).1 := by
  simp only [fanOut]
  split <;> rfl

namespace Admission

theorem expire_of_line {admission : Admission} {ticket : TicketId}
    (waits : ticket ∈ admission.line) : (admission.expire ticket).2 = true := by
  have there : (admission.queue.any fun e => e.ticket == ticket) = true := by
    simpa [line] using waits
  simp only [expire, there, if_true]

theorem expire_of_gone {admission : Admission} {ticket : TicketId}
    (gone : ticket ∉ admission.line) : admission.expire ticket = (admission, false) := by
  have away : ¬ (admission.queue.any fun e => e.ticket == ticket) = true := by
    simpa [line] using gone
  simp only [expire, away]
  rfl

end Admission

namespace Broker

/-- A step told a subscriber of its outcome, and nobody of anything else. -/
def Tells (before : Broker) (subscriber : Subscriber) (device : Device)
    (result : Broker × Outcome) : Prop :=
  result.1.mailboxes =
    (before.mailboxes.deliver subscriber (.ofOutcome device result.2)).1

variable {broker : Broker} {subscriber : Subscriber} {device : Device} {locator : String}
  {fault : Option SystemFault}

theorem tells_confirmStarted (broker : Broker)
    (listens : ¬ broker.mailboxes.isClosed subscriber = true) :
    broker.Tells subscriber device (broker.confirmStarted subscriber device) := by
  rw [confirmStarted_eq, if_neg listens]
  rfl

theorem tells_join (broker : Broker) (listens : ¬ broker.mailboxes.isClosed subscriber = true)
    (session : broker.roster.contains device = true) :
    broker.Tells subscriber device (broker.join subscriber device) := by
  obtain ⟨session, found⟩ := Option.isSome_iff_exists.mp session
  simp only [join, found]
  let joined := { broker with roster := broker.roster.put (session.attach subscriber).1 }
  exact tells_confirmStarted joined listens

theorem firstSession_eq (broker : Broker) (subscriber : Subscriber) (device : Device)
    (locator : String) :
    broker.firstSession subscriber device locator =
      { id := broker.roster.created + 1, device, locator, subscribers := [subscriber] } := rfl

theorem get?_opened (subscriber : Subscriber) (locator : String)
    (alone : ¬ broker.roster.contains device = true) :
    (broker.opened subscriber device locator).roster.get? device =
      some (broker.firstSession subscriber device locator) := by
  have absent : broker.roster.get? device = none := by
    simpa [Roster.contains] using alone
  have created : (broker.grown device locator).get? device =
      some { id := broker.roster.created + 1, device, locator } := by
    have before : broker.roster.sessions.find? (fun s => s.device == device) = none := absent
    simp [Roster.get?, grown, List.find?_append, before]
  show ((broker.grown device locator).put _).get? device = _
  rw [Roster.get?_put, created, Option.map_some, firstSession_eq]
  exact congrArg some (if_pos rfl)

/-- When a decoder does not start, everybody who waits for it is told why. -/
theorem mailboxes_spawnFailed {broker : Broker} {session : Session}
    (found : broker.roster.get? device = some session) (message : String) :
    (broker.teardown device (.spawnFailed message)).mailboxes =
      (Session.fanOut (.error (some session.device) message) session.subscribers
        broker.mailboxes).1 := by
  simp only [teardown, found]
  rfl

theorem tells_openSession (broker : Broker)
    (listens : ¬ broker.mailboxes.isClosed subscriber = true) :
    broker.Tells subscriber device (broker.openSession subscriber device locator fault) := by
  by_cases session : broker.roster.contains device = true
  · rw [openSession_of_session subscriber locator fault session]
    exact tells_join broker.release listens session
  cases fault with
  | none =>
    rw [openSession_of_start subscriber locator session]
    exact tells_confirmStarted (broker.started subscriber device locator) listens
  | some fault =>
    rw [openSession_of_fault subscriber locator fault session]
    have found := get?_opened subscriber locator session
    have told := mailboxes_spawnFailed found (Failure.processSpawn device fault).clientText
    rw [firstSession_eq, Session.fanOut_cons] at told
    exact told

/-- A first step that finishes a request tells of its outcome. -/
theorem tells_enter (listens : ¬ broker.mailboxes.isClosed subscriber = true) {outcome : Outcome}
    (finished : (broker.enter subscriber device locator fault).2 = .finished outcome) :
    broker.Tells subscriber device ((broker.enter subscriber device locator fault).1, outcome) := by
  by_cases closed : broker.closed = true
  · rw [enter_of_closed closed] at finished ⊢
    obtain rfl := Entered.finished.inj finished
    rfl
  by_cases session : broker.roster.contains device = true
  · rw [enter_of_session closed session] at finished ⊢
    obtain rfl := Entered.finished.inj finished
    exact tells_join broker listens session
  by_cases free : broker.admission.active < broker.admission.capacity
  · rw [enter_of_free closed session free] at finished ⊢
    obtain rfl := Entered.finished.inj finished
    exact tells_openSession broker.taken listens
  · rw [enter_of_full closed session free] at finished
    cases finished

/-- A grant comes to an outcome that is told, unless it was revoked while the broker goes on. -/
theorem tells_granted (broker : Broker)
    (listens : ¬ broker.mailboxes.isClosed subscriber = true) {ticket : TicketId}
    (stands : (broker.admission.claim ticket).2 = true ∨ broker.closed = true) :
    broker.Tells subscriber device
      (broker.settled subscriber device locator fault ticket .granted) := by
  let claimed := { broker with admission := (broker.admission.claim ticket).1 }
  simp only [settled, if_neg listens]
  split
  · next unclaimed =>
    split
    · rfl
    · next opened =>
      rcases stands with found | closed
      · simp [found] at unclaimed
      · exact absurd closed opened
  · split
    · rfl
    · split
      · next session => exact tells_join claimed.release listens session
      · exact tells_openSession claimed listens

theorem wake_of_line {ticket : TicketId} (waits : ticket ∈ broker.admission.line) :
    broker.wake subscriber device locator fault ticket .deadline =
      { broker with admission := (broker.admission.expire ticket).1 }.refuse subscriber device
        (.admissionTimeout device) := by
  have found := Admission.expire_of_line waits
  simp only [wake]
  split
  · next eq => rw [eq]
  · next eq =>
    rw [eq] at found
    cases found

theorem wake_of_gone {ticket : TicketId} (gone : ticket ∉ broker.admission.line) (cause : Wake) :
    broker.wake subscriber device locator fault ticket cause =
      (broker.readSettlement ticket).1.settled subscriber device locator fault ticket
        (broker.readSettlement ticket).2 := by
  cases cause with
  | settled => rfl
  | deadline => simp only [wake, Admission.expire_of_gone gone]

end Broker

end CameraRelay
