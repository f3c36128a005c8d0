import CameraRelay.Proofs.Session.FanOut

/-!
# Subscribers called in any order

An event for all subscribers of a session reaches each of them in a mailbox of its own, so it makes
no difference who is called first: the mailboxes, the counts and those who are found gone are the
same, the latter in another order. Main statement: `fanOut_perm`.
-/

namespace CameraRelay

namespace Mailboxes

variable {boxes : Mailboxes}

theorem set_set {number other : Nat} (apart : number ≠ other) (present : boxes.get? number ≠ none)
    (box after : Mailbox) :
    (boxes.set number box).set other after = (boxes.set other after).set number box := by
  have put (entries : List (Nat × Mailbox)) (there : entries.lookup number ≠ none) :
      set.put other after (set.put number box entries) =
        set.put number box (set.put other after entries) := by
    induction entries with
    | nil => exact absurd rfl there
    | cons entry rest ih =>
      obtain ⟨key, held⟩ := entry
      by_cases first : key = number
      · obtain rfl := first
        simp [set.put, apart]
      · by_cases second : key = other
        · obtain rfl := second
          simp [set.put, first]
        · have away : (number == key) = false := by simpa using fun same => first (Eq.symm same)
          rw [List.lookup_cons, away] at there
          simp [set.put, first, second, ih there]
  exact congrArg Mailboxes.mk (put boxes.boxes present)

variable {first second : Subscriber} (event : Event)

theorem delivery_of_apart (apart : first.mailbox ≠ second.mailbox) :
    ((boxes.deliver first event).1.deliver second event).2 = (boxes.deliver second event).2 := by
  rw [deliver_snd, deliver_snd, boxes.verdict_deliver event apart]

theorem deliver_of_none {subscriber : Subscriber} (absent : boxes.get? subscriber.mailbox = none) :
    (boxes.deliver subscriber event).1 = boxes := by
  simp only [deliver, absent]

theorem deliver_of_some {subscriber : Subscriber} {box : Mailbox}
    (found : boxes.get? subscriber.mailbox = some box) :
    (boxes.deliver subscriber event).1 =
      boxes.set subscriber.mailbox (box.deliver event).1 := by
  simp only [deliver, found]

theorem deliver_deliver (apart : first.mailbox ≠ second.mailbox) :
    ((boxes.deliver first event).1.deliver second event).1 =
      ((boxes.deliver second event).1.deliver first event).1 := by
  have one := boxes.get?_deliver_of_ne apart event
  have two := boxes.get?_deliver_of_ne apart.symm event
  cases found : boxes.get? first.mailbox with
  | none =>
    rw [found] at one
    rw [deliver_of_none event found, deliver_of_none event one]
  | some box =>
    cases found' : boxes.get? second.mailbox with
    | none =>
      rw [found'] at two
      rw [deliver_of_none event found', deliver_of_none event two]
    | some box' =>
      rw [found] at one
      rw [found'] at two
      rw [deliver_of_some event one, deliver_of_some event two, deliver_of_some event found,
        deliver_of_some event found']
      exact set_set apart (by simp [found]) _ _

end Mailboxes

namespace FanOut

/-- The same outcomes, those who failed in any order. -/
structure Alike (first second : FanOut) : Prop where
  delivered : first.delivered = second.delivered
  dropped : first.dropped = second.dropped
  failed : first.failed.Perm second.failed

variable {first second third : FanOut}

theorem Alike.refl (outcome : FanOut) : outcome.Alike outcome := ⟨rfl, rfl, .refl _⟩

theorem Alike.trans (h : first.Alike second) (h' : second.Alike third) : first.Alike third :=
  ⟨h.delivered.trans h'.delivered, h.dropped.trans h'.dropped, h.failed.trans h'.failed⟩

theorem Alike.count (h : first.Alike second) (id : SubscriberId) (delivery : Delivery) :
    (first.count id delivery).Alike (second.count id delivery) := by
  cases delivery with
  | sent => exact ⟨congrArg (· + 1) h.delivered, h.dropped, h.failed⟩
  | dropped => exact ⟨h.delivered, congrArg (· + 1) h.dropped, h.failed⟩
  | closed => exact ⟨h.delivered, h.dropped, h.failed.cons id⟩

theorem alike_count_count (outcome : FanOut) (id id' : SubscriberId)
    (delivery delivery' : Delivery) :
    ((outcome.count id delivery).count id' delivery').Alike
      ((outcome.count id' delivery').count id delivery) := by
  cases delivery <;> cases delivery'
  case closed.closed => exact ⟨rfl, rfl, .swap ..⟩
  all_goals exact .refl _

end FanOut

namespace Session

variable {session : Session} {boxes : Mailboxes} {event : Event}

/-- Whoever is called first: the mailboxes come out the same, and so do the outcomes. -/
theorem fanOut_perm {subscribers others : List Subscriber} (same : subscribers.Perm others)
    (distinct : (subscribers.map (·.mailbox)).Nodup) (event : Event) (boxes : Mailboxes) :
    (fanOut event subscribers boxes).1 = (fanOut event others boxes).1 ∧
      (fanOut event subscribers boxes).2.Alike (fanOut event others boxes).2 := by
  induction same generalizing boxes with
  | nil => exact ⟨rfl, .refl _⟩
  | cons subscriber _ ih =>
    obtain ⟨boxes', outcome⟩ := ih (List.nodup_cons.mp distinct).2 (boxes.deliver subscriber event).1
    simp only [fanOut_cons_eq]
    exact ⟨boxes', outcome.count _ _⟩
  | swap first second rest =>
    have apart : second.mailbox ≠ first.mailbox := by
      intro same
      simp [same] at distinct
    simp only [fanOut_cons_eq, Mailboxes.deliver_deliver event apart,
      Mailboxes.delivery_of_apart event apart, Mailboxes.delivery_of_apart event apart.symm]
    exact ⟨trivial, FanOut.alike_count_count ..⟩
  | trans same _ ih ih' =>
    have distinct' := ((same.map (·.mailbox)).nodup_iff).mp distinct
    obtain ⟨boxes₁, outcome₁⟩ := ih distinct boxes
    obtain ⟨boxes₂, outcome₂⟩ := ih' distinct' boxes
    exact ⟨boxes₁.trans boxes₂, outcome₁.trans outcome₂⟩

/-! ### Frames and last events -/

/-- An order in which the subscribers of a session are called. -/
structure Calling (session : Session) where
  subscribers : List Subscriber
  all : subscribers.Perm session.subscribers

def Calling.listed (session : Session) : session.Calling := ⟨session.subscribers, .refl _⟩

/-- `broadcast` with the subscribers called in some order. -/
def broadcastIn (session : Session) (order : session.Calling) (boxes : Mailboxes) (frame : Frame) :
    Session × Mailboxes × FanOut :=
  let (boxes, outcome) := fanOut (.frame session.device frame) order.subscribers boxes
  let kept := session.subscribers.filter fun s => !outcome.failed.contains s.id
  ({ session with
      subscribers := kept
      frames := session.frames + 1
      framesDropped := session.framesDropped + outcome.dropped },
    boxes, outcome)

/-- `notifyAll` with the subscribers called in some order. -/
def notifyAllIn (session : Session) (order : session.Calling) (boxes : Mailboxes) (event : Event) :
    Session × Mailboxes × Nat :=
  let (boxes, outcome) := fanOut event order.subscribers boxes
  ({ session with subscribers := [] }, boxes, outcome.delivered)

theorem broadcastIn_listed (session : Session) (boxes : Mailboxes) (frame : Frame) :
    session.broadcastIn (.listed session) boxes frame = session.broadcast boxes frame := rfl

theorem notifyAllIn_listed (session : Session) (boxes : Mailboxes) (event : Event) :
    session.notifyAllIn (.listed session) boxes event = session.notifyAll boxes event := rfl

theorem fanOut_calling (distinct : (session.subscribers.map (·.mailbox)).Nodup)
    (first second : session.Calling) (event : Event) (boxes : Mailboxes) :
    (fanOut event first.subscribers boxes).1 = (fanOut event second.subscribers boxes).1 ∧
      (fanOut event first.subscribers boxes).2.Alike (fanOut event second.subscribers boxes).2 :=
  fanOut_perm (first.all.trans second.all.symm)
    (((first.all.map (·.mailbox)).nodup_iff).mpr distinct) event boxes

theorem broadcastIn_congr (distinct : (session.subscribers.map (·.mailbox)).Nodup)
    (first second : session.Calling) (boxes : Mailboxes) (frame : Frame) :
    let one := session.broadcastIn first boxes frame
    let two := session.broadcastIn second boxes frame
    one.1 = two.1 ∧ one.2.1 = two.2.1 ∧ one.2.2.Alike two.2.2 := by
  intro one two
  obtain ⟨boxes', outcome⟩ := fanOut_calling distinct first second (.frame session.device frame) boxes
  refine ⟨?_, boxes', outcome⟩
  have gone (id : SubscriberId) :
      (fanOut (.frame session.device frame) first.subscribers boxes).2.failed.contains id =
        (fanOut (.frame session.device frame) second.subscribers boxes).2.failed.contains id :=
    outcome.failed.contains_eq
  simp only [one, two, broadcastIn, gone, outcome.dropped]

theorem notifyAllIn_congr (distinct : (session.subscribers.map (·.mailbox)).Nodup)
    (first second : session.Calling) (boxes : Mailboxes) (event : Event) :
    session.notifyAllIn first boxes event = session.notifyAllIn second boxes event := by
  obtain ⟨boxes', outcome⟩ := fanOut_calling distinct first second event boxes
  simp only [notifyAllIn, boxes', outcome.delivered]

end Session

end CameraRelay
