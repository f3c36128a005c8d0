import CameraRelay.Proofs.Broker.Reports

/-!
# The count of a fan-out

Every subscriber that a fan-out goes to is counted once, by what became of its delivery. As each has
a mailbox of its own, that is what would have become of it if nobody had been served before. Main
statement: `broadcast_accounts`.
-/

namespace CameraRelay

/-- What becomes of an event for a subscriber. -/
def Mailboxes.verdict (boxes : Mailboxes) (event : Event) (subscriber : Subscriber) : Delivery :=
  ((boxes.get? subscriber.mailbox).map (·.verdict event)).getD .closed

namespace FanOut

/-- One more delivery, made before the others. -/
def count (others : FanOut) (id : SubscriberId) : Delivery → FanOut
  | .sent => { others with delivered := others.delivered + 1 }
  | .dropped => { others with dropped := others.dropped + 1 }
  | .closed => { others with failed := id :: others.failed }

/-- How many deliveries came out in some way. -/
def number (outcome : FanOut) : Delivery → Nat
  | .sent => outcome.delivered
  | .dropped => outcome.dropped
  | .closed => outcome.failed.length

theorem number_count (others : FanOut) (id : SubscriberId) (made delivery : Delivery) :
    (others.count id made).number delivery =
      others.number delivery + if made = delivery then 1 else 0 := by
  cases made <;> cases delivery <;> rfl

theorem count_total (others : FanOut) (id : SubscriberId) (made : Delivery) :
    let outcome := others.count id made
    outcome.delivered + outcome.dropped + outcome.failed.length =
      others.delivered + others.dropped + others.failed.length + 1 := by
  cases made <;> simp only [count, List.length_cons] <;> omega

theorem failed_count (others : FanOut) (id : SubscriberId) (made : Delivery) :
    (others.count id made).failed =
      if made = .closed then id :: others.failed else others.failed := by
  cases made <;> rfl

/-- What the outcome of a fan-out tells of the subscribers before it and after it. -/
structure Accounts (outcome : FanOut) (boxes : Mailboxes) (before after : List Subscriber) :
    Prop where
  total : outcome.delivered + outcome.dropped + outcome.failed.length = before.length
  kept : after = before.filter fun s => !outcome.failed.contains s.id
  failed : ∀ id, id ∈ outcome.failed ↔ ∃ s ∈ before, s.id = id ∧ boxes.isClosed s = true
  once : (before.map (·.id)).Nodup → outcome.failed.Nodup

end FanOut

namespace Mailboxes

variable (boxes : Mailboxes) (event : Event)

theorem deliver_snd (subscriber : Subscriber) :
    (boxes.deliver subscriber event).2 = boxes.verdict event subscriber := by
  simp only [deliver, verdict]
  cases boxes.get? subscriber.mailbox with
  | none => rfl
  | some box =>
    simp only [Option.map_some, Option.getD_some, Mailbox.deliver_eq]
    split
    · next sent => exact sent.symm
    · rfl

theorem verdict_deliver {first second : Subscriber} (apart : first.mailbox ≠ second.mailbox) :
    (boxes.deliver first event).1.verdict event second = boxes.verdict event second := by
  simp only [verdict, boxes.get?_deliver_of_ne apart.symm]

end Mailboxes

namespace Session

theorem fanOut_cons_eq (event : Event) (subscriber : Subscriber) (rest : List Subscriber)
    (boxes : Mailboxes) :
    fanOut event (subscriber :: rest) boxes =
      let next := boxes.deliver subscriber event
      ((fanOut event rest next.1).1,
        (fanOut event rest next.1).2.count subscriber.id next.2) := by
  cases delivery : (boxes.deliver subscriber event).2 <;>
    simp only [fanOut, FanOut.count, delivery]

theorem outcome_cons (event : Event) (subscriber : Subscriber) (rest : List Subscriber)
    (boxes : Mailboxes) :
    (fanOut event (subscriber :: rest) boxes).2 =
      (fanOut event rest (boxes.deliver subscriber event).1).2.count subscriber.id
        (boxes.deliver subscriber event).2 :=
  congrArg Prod.snd (fanOut_cons_eq event subscriber rest boxes)

theorem fanOut_total (event : Event) (subscribers : List Subscriber) (boxes : Mailboxes) :
    let outcome := (fanOut event subscribers boxes).2
    outcome.delivered + outcome.dropped + outcome.failed.length = subscribers.length := by
  induction subscribers generalizing boxes with
  | nil => rfl
  | cons subscriber rest ih =>
    have others := ih (boxes.deliver subscriber event).1
    simp only [outcome_cons, FanOut.count_total, List.length_cons, others]

theorem failed_fanOut (event : Event) (subscribers : List Subscriber) (boxes : Mailboxes) :
    (fanOut event subscribers boxes).2.failed =
      (subscribers.filter boxes.isClosed).map (·.id) := by
  induction subscribers generalizing boxes with
  | nil => rfl
  | cons subscriber rest ih =>
    have same : (boxes.deliver subscriber event).1.isClosed = boxes.isClosed :=
      funext (boxes.isClosed_deliver · event subscriber)
    have refused := boxes.deliver_eq_closed subscriber event
    rw [outcome_cons, FanOut.failed_count, ih, same]
    by_cases closed : boxes.isClosed subscriber = true
    · rw [if_pos (refused.mpr closed), List.filter_cons_of_pos closed, List.map_cons]
    · rw [if_neg (mt refused.mp closed), List.filter_cons_of_neg closed]

theorem mem_failed {event : Event} {subscribers : List Subscriber} {boxes : Mailboxes}
    {id : SubscriberId} :
    id ∈ (fanOut event subscribers boxes).2.failed ↔
      ∃ subscriber ∈ subscribers, subscriber.id = id ∧ boxes.isClosed subscriber = true := by
  simp only [failed_fanOut, List.mem_map, List.mem_filter, and_assoc]
  exact exists_congr fun subscriber => and_congr_right fun _ => and_comm

/-- The deliveries that come out in some way are those of the subscribers for whom they would. -/
theorem number_fanOut (event : Event) {subscribers : List Subscriber}
    (distinct : (subscribers.map (·.mailbox)).Nodup) (boxes : Mailboxes) (delivery : Delivery) :
    (fanOut event subscribers boxes).2.number delivery =
      (subscribers.filter fun s => boxes.verdict event s = delivery).length := by
  induction subscribers generalizing boxes with
  | nil => cases delivery <;> rfl
  | cons subscriber rest ih =>
    obtain ⟨first, others⟩ := List.nodup_cons.mp distinct
    have same : rest.filter (fun s => (boxes.deliver subscriber event).1.verdict event s = delivery) =
        rest.filter (fun s => boxes.verdict event s = delivery) := by
      refine List.filter_congr fun other mem => ?_
      have apart : subscriber.mailbox ≠ other.mailbox := fun eq =>
        first (List.mem_map.mpr ⟨other, mem, eq.symm⟩)
      rw [boxes.verdict_deliver event apart]
    rw [outcome_cons, FanOut.number_count, ih others, same, boxes.deliver_snd, List.filter_cons]
    by_cases here : boxes.verdict event subscriber = delivery <;> simp [here]

/-- A broadcast accounts for everybody who was there: those whose mailboxes are closed, and nobody
else, are told apart and detached. -/
theorem broadcast_accounts (session : Session) (boxes : Mailboxes) (frame : Frame) :
    let shown := session.broadcast boxes frame
    shown.2.2.Accounts boxes session.subscribers shown.1.subscribers := by
  intro shown
  refine ⟨fanOut_total .., rfl, fun id => mem_failed, fun distinct => ?_⟩
  have failed : shown.2.2.failed = (session.subscribers.filter boxes.isClosed).map (·.id) :=
    failed_fanOut ..
  rw [failed]
  exact distinct.sublist (List.filter_sublist.map _)

end Session

end CameraRelay
