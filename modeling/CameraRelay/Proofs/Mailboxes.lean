import CameraRelay.Mailbox

/-!
# Mailboxes and deliveries

A delivery changes the mailbox it goes to and no other, and opens and closes none.
-/

namespace CameraRelay

namespace Mailbox

/-- What becomes of an event: a closed mailbox refuses everything, a frame needs a free slot
outside the reserve, any other event just a free slot. -/
def verdict (box : Mailbox) (event : Event) : Delivery :=
  if box.isClosed then .closed
  else if (if event.isFrame then controlReserve else 0) < box.free then .sent
  else .dropped

/-- Whether a frame finds room is looked at before whether anybody listens, and comes to the same. -/
theorem deliver_eq (box : Mailbox) (event : Event) :
    box.deliver event =
      match box.verdict event with
      | .sent => ({ box with queue := box.queue ++ [event] }, .sent)
      | other => (box, other) := by
  unfold deliver push verdict
  by_cases closed : box.isClosed = true
  · simp [closed]
  · by_cases frame : event.isFrame = true
    · by_cases reserved : box.free ≤ controlReserve
      · have none : ¬ controlReserve < box.free := by omega
        simp [closed, frame, reserved, none]
      · have room : controlReserve < box.free := by omega
        have free : box.free ≠ 0 := by omega
        simp [closed, frame, room, free]
    · by_cases full : box.free = 0
      · simp [closed, frame, full]
      · have free : 0 < box.free := by omega
        simp [closed, frame, full, free]

theorem isClosed_deliver (box : Mailbox) (event : Event) :
    (box.deliver event).1.isClosed = box.isClosed := by
  rw [deliver_eq]
  split <;> rfl

theorem isClosed_close (box : Mailbox) (closed : box.isClosed = true) :
    box.close.isClosed = true := by
  simp only [close]
  split
  · rfl
  · exact closed

end Mailbox

namespace Mailboxes

variable (boxes : Mailboxes) (subscriber : Subscriber) (event : Event)

theorem get?_set (number : Nat) (box : Mailbox) :
    (boxes.set number box).get? number = some box := by
  have put (entries : List (Nat × Mailbox)) :
      (set.put number box entries).lookup number = some box := by
    induction entries with
    | nil => simp [set.put]
    | cons entry rest ih =>
      obtain ⟨key, held⟩ := entry
      by_cases same : key = number
      · simp [set.put, same]
      · have differs : (number == key) = false := by
          simpa using fun eq => same eq.symm
        rw [set.put, if_neg same, List.lookup_cons, differs]
        exact ih
  exact put boxes.boxes

theorem get?_set_of_ne {number other : Nat} (apart : other ≠ number) (box : Mailbox) :
    (boxes.set number box).get? other = boxes.get? other := by
  have away : (other == number) = false := by simpa using apart
  have put (entries : List (Nat × Mailbox)) :
      (set.put number box entries).lookup other = entries.lookup other := by
    induction entries with
    | nil => rw [set.put, List.lookup_cons, away]
    | cons entry rest ih =>
      obtain ⟨key, held⟩ := entry
      by_cases same : key = number
      · simp only [set.put, same, if_true, List.lookup_cons, away]
      · rw [set.put, if_neg same, List.lookup_cons, List.lookup_cons, ih]
  exact put boxes.boxes

theorem get?_update (number : Nat) (change : Mailbox → Mailbox) :
    (boxes.update number change).get? number = (boxes.get? number).map change := by
  unfold update
  split
  · next box found => rw [get?_set, found, Option.map_some]
  · next absent => rw [absent, Option.map_none]

theorem get?_update_of_ne {number other : Nat} (apart : other ≠ number)
    (change : Mailbox → Mailbox) : (boxes.update number change).get? other = boxes.get? other := by
  unfold update
  split
  · exact get?_set_of_ne boxes apart _
  · rfl

/-- A mailbox that is changed but stays open or closed makes no difference to who is closed. -/
theorem isClosed_set {number : Nat} {box after : Mailbox} (found : boxes.get? number = some box)
    (same : after.isClosed = box.isClosed) :
    (boxes.set number after).isClosed subscriber = boxes.isClosed subscriber := by
  by_cases here : subscriber.mailbox = number
  · simp only [isClosed, here, get?_set, found, same]
  · simp only [isClosed, get?_set_of_ne boxes here]

theorem isClosed_deliver (other : Subscriber) :
    (boxes.deliver other event).1.isClosed subscriber = boxes.isClosed subscriber := by
  simp only [deliver]
  split
  · next box found => exact isClosed_set boxes subscriber found (box.isClosed_deliver event)
  · rfl

theorem get?_deliver {boxes : Mailboxes} {subscriber : Subscriber} {box : Mailbox} {event : Event}
    (found : boxes.get? subscriber.mailbox = some box) (control : event.isFrame = false)
    (listens : ¬ box.isClosed = true) (room : 0 < box.free) :
    (boxes.deliver subscriber event).1.get? subscriber.mailbox =
      some { box with queue := box.queue ++ [event] } := by
  have verdict : box.verdict event = .sent := by
    simp [Mailbox.verdict, listens, control, room]
  simp only [deliver, found, Mailbox.deliver_eq, verdict, get?_set]

theorem deliver_eq_closed :
    (boxes.deliver subscriber event).2 = .closed ↔ boxes.isClosed subscriber = true := by
  simp only [deliver, isClosed]
  cases boxes.get? subscriber.mailbox with
  | none => simp
  | some box =>
    by_cases closed : box.isClosed = true
    · simp [Mailbox.deliver_eq, Mailbox.verdict, closed]
    · simp only [Mailbox.deliver_eq, Mailbox.verdict, closed]
      by_cases room : (if event.isFrame then controlReserve else 0) < box.free <;> simp [room]

/-- A mailbox that is closed stays closed, whatever its owner does with it. -/
theorem isClosed_update {change : Mailbox → Mailbox} (number : Nat)
    (closes : ∀ box, box.isClosed = true → (change box).isClosed = true)
    (closed : boxes.isClosed subscriber = true) :
    (boxes.update number change).isClosed subscriber = true := by
  by_cases here : subscriber.mailbox = number
  · simp only [isClosed, here, get?_update] at closed ⊢
    cases found : boxes.get? number with
    | none => rfl
    | some box =>
      rw [found] at closed
      exact closes box closed
  · simpa only [isClosed, get?_update_of_ne boxes here] using closed

theorem isClosed_drop : (boxes.update subscriber.mailbox .drop).isClosed subscriber = true := by
  simp only [isClosed, get?_update]
  cases boxes.get? subscriber.mailbox <;> rfl

end Mailboxes

end CameraRelay
