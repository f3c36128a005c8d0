import CameraRelay.Proofs.Broker.Evolution

/-!
# What becomes of a request

A step that serves a request refuses it, lets it wait or gives it up, and then touches no session;
or it joins the session of the device, or opens one. The slots and the line apart, that is all.
-/

namespace CameraRelay

namespace Broker

/-- The sessions and the mailboxes stay as they were. -/
structure Alike (before after : Broker) : Prop where
  roster : after.roster = before.roster
  mailboxes : after.mailboxes = before.mailboxes
  departed : after.departed = before.departed

theorem Alike.trans {first second third : Broker} (h : first.Alike second)
    (h' : second.Alike third) : first.Alike third :=
  ⟨h'.roster.trans h.roster, h'.mailboxes.trans h.mailboxes, h'.departed.trans h.departed⟩

/-- What a first step came to; nothing yet if the request waits. -/
def Entered.outcome? : Entered → Option Outcome
  | .finished outcome => some outcome
  | .waiting _ => none

theorem Entered.outcome?_eq_some {entered : Entered} {outcome : Outcome} :
    entered.outcome? = some outcome ↔ entered = .finished outcome := by
  cases entered <;> simp [Entered.outcome?]

/-- What a step that serves a request does, apart from the slots and the line. -/
inductive Handles (before : Broker) (subscriber : Subscriber) (device : Device) (locator : String)
    (fault : Option SystemFault) (after : Broker) (outcome? : Option Outcome) : Prop
  | hush (useless : outcome? ≠ some (.ok ())) (alike : before.Alike after)
  | told (event : Event) (useless : outcome? ≠ some (.ok ())) (control : event.isFrame = false)
    (alike : (before.told subscriber event).Alike after)
  | joins {middle : Broker} (outcome : outcome? = some (middle.join subscriber device).2)
    (same : before.Alike middle) (alike : (middle.join subscriber device).1.Alike after)
  | opens {middle : Broker}
    (outcome : outcome? = some (middle.openSession subscriber device locator fault).2)
    (same : before.Alike middle)
    (alike : (middle.openSession subscriber device locator fault).1.Alike after)

variable {broker middle next : Broker} {subscriber : Subscriber} {device : Device}
  {locator : String} {fault : Option SystemFault} {outcome? : Option Outcome}

namespace Handles

theorem after (h : middle.Handles subscriber device locator fault next outcome?)
    (same : broker.Alike middle) : broker.Handles subscriber device locator fault next outcome? := by
  cases h with
  | hush useless alike => exact .hush useless (same.trans alike)
  | told event useless control alike =>
    have told : (broker.told subscriber event).Alike (middle.told subscriber event) := by
      refine ⟨same.roster, ?_, same.departed⟩
      simp only [Broker.told, same.mailboxes]
    exact .told event useless control (told.trans alike)
  | joins outcome same' alike => exact .joins outcome (same.trans same') alike
  | opens outcome same' alike => exact .opens outcome (same.trans same') alike

theorem before (h : broker.Handles subscriber device locator fault middle outcome?)
    (same : middle.Alike next) : broker.Handles subscriber device locator fault next outcome? := by
  cases h with
  | hush useless alike => exact .hush useless (alike.trans same)
  | told event useless control alike => exact .told event useless control (alike.trans same)
  | joins outcome same' alike => exact .joins outcome same' (alike.trans same)
  | opens outcome same' alike => exact .opens outcome same' (alike.trans same)

end Handles

variable (broker : Broker) (subscriber : Subscriber) (device : Device) (locator : String)
  (fault : Option SystemFault)

theorem handles_enter :
    broker.Handles subscriber device locator fault
      (broker.enter subscriber device locator fault).1
      (broker.enter subscriber device locator fault).2.outcome? := by
  by_cases closed : broker.closed = true
  · rw [enter_of_closed closed]
    exact .told _ (by simp [Entered.outcome?]) rfl ⟨rfl, rfl, rfl⟩
  by_cases session : broker.roster.contains device = true
  · rw [enter_of_session closed session]
    exact .joins rfl ⟨rfl, rfl, rfl⟩ ⟨rfl, rfl, rfl⟩
  by_cases free : broker.admission.active < broker.admission.capacity
  · rw [enter_of_free closed session free]
    exact .opens rfl ⟨rfl, rfl, rfl⟩ ⟨rfl, rfl, rfl⟩
  · rw [enter_of_full closed session free]
    refine .told (.queued device (broker.queued subscriber device).admission.queue.length)
      (by simp [Entered.outcome?]) rfl ?_
    split <;> exact ⟨rfl, rfl, rfl⟩

theorem handles_settled (ticket : TicketId) (settlement : Settlement) :
    broker.Handles subscriber device locator fault
      (broker.settled subscriber device locator fault ticket settlement).1
      (some (broker.settled subscriber device locator fault ticket settlement).2) := by
  cases settlement with
  | cancelled => exact .hush (by simp [settled]) ⟨rfl, rfl, rfl⟩
  | granted =>
    let refusal := Event.error (some device) Failure.shuttingDown.clientText
    simp only [settled]
    split
    · split
      · exact .told refusal (by simp [refuse]) rfl ⟨rfl, rfl, rfl⟩
      · exact .hush (by simp) ⟨rfl, rfl, rfl⟩
    · split
      · exact .told refusal (by simp [refuse]) rfl ⟨rfl, rfl, rfl⟩
      · split
        · exact .hush (by simp) ⟨rfl, rfl, rfl⟩
        · split
          · exact .joins rfl ⟨rfl, rfl, rfl⟩ ⟨rfl, rfl, rfl⟩
          · exact .opens rfl ⟨rfl, rfl, rfl⟩ ⟨rfl, rfl, rfl⟩

theorem handles_wake (ticket : TicketId) (cause : Wake) :
    broker.Handles subscriber device locator fault
      (broker.wake subscriber device locator fault ticket cause).1
      (some (broker.wake subscriber device locator fault ticket cause).2) := by
  have read (broker : Broker) : broker.Alike (broker.readSettlement ticket).1 := ⟨rfl, rfl, rfl⟩
  cases cause with
  | settled => exact (handles_settled ..).after (read broker)
  | deadline =>
    simp only [wake]
    split
    · let timeout := Event.error (some device) (Failure.admissionTimeout device).clientText
      exact .told timeout (by simp [refuse]) rfl ⟨rfl, rfl, rfl⟩
    · next admission _ =>
      have expired : broker.Alike { broker with admission } := ⟨rfl, rfl, rfl⟩
      exact (handles_settled ..).after (expired.trans (read { broker with admission }))

theorem handles_resume (ticket : TicketId) (cause : Wake) :
    broker.Handles subscriber device locator fault
      (broker.resume subscriber device locator fault ticket cause).1
      (some (broker.resume subscriber device locator fault ticket cause).2) :=
  (handles_wake broker subscriber device locator fault ticket cause).before ⟨rfl, rfl, rfl⟩

end Broker

end CameraRelay
