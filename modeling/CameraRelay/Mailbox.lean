import CameraRelay.Event

/-!
# Mailboxes

A mailbox is the queue of events between the relay and one client: first in, first out, and of fixed
size. Its last slots are kept for control events, so that frames alone never crowd one out. A client
may close its mailbox and still take what is in it, or drop it with all it holds.
-/

namespace CameraRelay

/-- Slots that frames never take. -/
def controlReserve : Nat := 4

inductive Delivery where
  | sent
  /-- There was no room; nobody else is affected. -/
  | dropped
  | closed
deriving DecidableEq

inductive Reception where
  | receiving
  /-- Nothing new is taken in; what is there can still be received. -/
  | closed
  | gone
deriving DecidableEq

structure Mailbox where
  /-- How many frames may wait; at least 1. -/
  buffer : Nat
  /-- The events that wait, the oldest first. -/
  queue : List Event := []
  reception : Reception := .receiving

namespace Mailbox

/-- An empty mailbox. A buffer of 0 counts as 1. -/
def new (buffer : Nat) : Mailbox := { buffer := max buffer 1 }

def capacity (box : Mailbox) : Nat := box.buffer + controlReserve

def free (box : Mailbox) : Nat := box.capacity - box.queue.length

/-- Whether nothing new is taken in. -/
def isClosed (box : Mailbox) : Bool := box.reception != .receiving

/-- Puts an event in, if anything is taken in and there is a free slot. -/
def push (box : Mailbox) (event : Event) : Mailbox × Delivery :=
  if box.isClosed then (box, .closed)
  else if box.free = 0 then (box, .dropped)
  else ({ box with queue := box.queue ++ [event] }, .sent)

/-- Delivers an event. A frame is refused once only the reserve is left. -/
def deliver (box : Mailbox) (event : Event) : Mailbox × Delivery :=
  if event.isFrame && decide (box.free ≤ controlReserve) then
    (box, if box.isClosed then .closed else .dropped)
  else box.push event

/-- Takes the oldest events out, `count` of them at most. -/
def receiveMany (box : Mailbox) (count : Nat) : Mailbox × List Event :=
  ({ box with queue := box.queue.drop count }, box.queue.take count)

/-- Takes the oldest event out. -/
def receive (box : Mailbox) : Mailbox × Option Event :=
  ((box.receiveMany 1).1, (box.receiveMany 1).2.head?)

def close (box : Mailbox) : Mailbox :=
  match box.reception with
  | .receiving => { box with reception := .closed }
  | _ => box

def drop (box : Mailbox) : Mailbox := { box with queue := [], reception := .gone }

end Mailbox

/-- A client's handle as the sessions hold it. A client may be given another mailbox; sessions
that hold the older handle then still deliver to the older one. -/
structure Subscriber where
  id : SubscriberId
  mailbox : Nat
deriving DecidableEq

structure Mailboxes where
  boxes : List (Nat × Mailbox) := []

namespace Mailboxes

def get? (boxes : Mailboxes) (number : Nat) : Option Mailbox := boxes.boxes.lookup number

def set (boxes : Mailboxes) (number : Nat) (box : Mailbox) : Mailboxes :=
  { boxes := put boxes.boxes }
where
  put : List (Nat × Mailbox) → List (Nat × Mailbox)
    | [] => [(number, box)]
    | (n, b) :: rest => if n = number then (n, box) :: rest else (n, b) :: put rest

/-- Changes the mailbox with a number, if there is one. -/
def update (boxes : Mailboxes) (number : Nat) (change : Mailbox → Mailbox) : Mailboxes :=
  match boxes.get? number with
  | some box => boxes.set number (change box)
  | none => boxes

/-- Delivers an event to a subscriber; without a mailbox it counts as gone. -/
def deliver (boxes : Mailboxes) (subscriber : Subscriber) (event : Event) :
    Mailboxes × Delivery :=
  match boxes.get? subscriber.mailbox with
  | some box =>
    let (box, delivery) := box.deliver event
    (boxes.set subscriber.mailbox box, delivery)
  | none => (boxes, .closed)

/-- Whether a subscriber takes nothing in any more. -/
def isClosed (boxes : Mailboxes) (subscriber : Subscriber) : Bool :=
  match boxes.get? subscriber.mailbox with
  | some box => box.isClosed
  | none => true

end Mailboxes

end CameraRelay
