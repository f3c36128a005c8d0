import CameraRelay.Admission
import CameraRelay.Decoder.Supervisor
import CameraRelay.Roster
import CameraRelay.Source

/-!
# The broker

The broker holds the slots, the sessions and the mailboxes, and changes them in steps that never
interleave. A start request takes one step (`enter`) or, if it had to wait in line, two (`enter` and
`resume`). Decoders report to it, clients leave it, and once it is closed it starts nothing more.

Every session that is registered holds exactly one slot; `teardown` is the only way out of the
roster, and gives the slot back. A session that leaves is kept as it ended: its decoder is
not wanted any more.
-/

namespace CameraRelay

/-- What a finished start request came to. -/
abbrev Outcome := Except Failure Unit

/-- Why a session is torn down. -/
inductive Teardown where
  | stop
  | exit (exit : DecoderExit)
  | spawnFailed (message : String)

structure Broker where
  roster : Roster := {}
  admission : Admission
  mailboxes : Mailboxes := {}
  /-- The sessions that left the roster, as they ended, the latest first. -/
  departed : List Session := []
  framesDelivered : Nat := 0
  framesDropped : Nat := 0
  closed : Bool := false

namespace Broker

def new (settings : RelaySettings) : Broker := { admission := .new settings.maxStreams }

def deliver (broker : Broker) (subscriber : Subscriber) (event : Event) : Broker × Delivery :=
  let (mailboxes, delivery) := broker.mailboxes.deliver subscriber event
  ({ broker with mailboxes }, delivery)

def refuse (broker : Broker) (subscriber : Subscriber) (device : Device) (failure : Failure) :
    Broker × Outcome :=
  ((broker.deliver subscriber (.error (some device) failure.clientText)).1, .error failure)

def release (broker : Broker) : Broker :=
  { broker with admission := broker.admission.release.1 }

/-- What a session that leaves the roster goes through: the phases, and the last event of its
subscribers. -/
def conclude (broker : Broker) (session : Session) : Teardown → Broker × Session
  | .stop => (broker, session.stopDecoder.1.advance .terminated)
  | .exit .stopped => (broker, session.stopDecoder.1.advance .terminated)
  | .exit (.exited _) =>
    let (session, mailboxes, _) :=
      (session.advance .ended).notifyAll broker.mailboxes (.ended session.device)
    ({ broker with mailboxes }, session.advance .terminated)
  | .exit (.failed message) =>
    let (session, mailboxes, _) :=
      (session.advance .error).notifyAll broker.mailboxes
        (.error (some session.device) ("stream error: " ++ message))
    ({ broker with mailboxes }, session.stopDecoder.1.advance .terminated)
  | .spawnFailed message =>
    let (session, mailboxes, _) :=
      (session.advance .error).notifyAll broker.mailboxes (.error (some session.device) message)
    ({ broker with mailboxes }, session.advance .terminated)

/-- Takes a device's session out of the roster, dismisses its decoder and gives its slot back.
Without a session nothing happens. -/
def teardown (broker : Broker) (device : Device) (reason : Teardown) : Broker :=
  match broker.roster.get? device with
  | none => broker
  | some session =>
    let (broker, session) :=
      { broker with roster := broker.roster.remove device }.conclude session reason
    { broker with departed := session :: broker.departed }.release

/-- Whether the decoder of a session was told to stop or lost its handle: the session is gone, and
had a decoder. -/
def isDismissed (broker : Broker) (id : Nat) : Bool :=
  broker.departed.any fun s => s.id == id && s.decoder != .absent

/-- Detaches a subscriber; a session that nobody watches any more is torn down. -/
def detach (broker : Broker) (subscriber : SubscriberId) (device : Device) : Broker :=
  match broker.roster.get? device with
  | none => broker
  | some session =>
    let (session, wasAttached) := session.detach subscriber
    if !wasAttached then broker
    else
      let broker := { broker with roster := broker.roster.put session }
      if session.isIdle then broker.teardown device .stop else broker

/-- Tells a subscriber that it watches a device; one that is gone is detached again. -/
def confirmStarted (broker : Broker) (subscriber : Subscriber) (device : Device) :
    Broker × Outcome :=
  match broker.deliver subscriber (.started device) with
  | (broker, .closed) =>
    (broker.detach subscriber.id device, .error (.delivery subscriber.id))
  | (broker, _) => (broker, .ok ())

def join (broker : Broker) (subscriber : Subscriber) (device : Device) : Broker × Outcome :=
  match broker.roster.get? device with
  | none => (broker, .error (.roster (.sessionNotFound device)))
  | some session =>
    let session := (session.attach subscriber).1
    { broker with roster := broker.roster.put session }.confirmStarted subscriber device

/-- Creates a session in a slot that is held and starts its decoder; `fault` is what keeps the
decoder from starting, if anything does. -/
def openSession (broker : Broker) (subscriber : Subscriber) (device : Device) (locator : String)
    (fault : Option SystemFault) : Broker × Outcome :=
  match broker.roster.create device locator with
  | .error _ => broker.release.join subscriber device
  | .ok (roster, session) =>
    let session := (session.attach subscriber).1
    let broker := { broker with roster := roster.put session }
    match fault with
    | none =>
      let broker := { broker with roster := broker.roster.put session.setDecoder }
      broker.confirmStarted subscriber device
    | some fault =>
      let failure := Failure.processSpawn device fault
      (broker.teardown device (.spawnFailed failure.clientText), .error failure)

/-- What the first step of a start request came to. -/
inductive Entered where
  | finished (outcome : Outcome)
  | waiting (ticket : TicketId)

/-- The first step of a start request whose source is known. -/
def enter (broker : Broker) (subscriber : Subscriber) (device : Device) (locator : String)
    (fault : Option SystemFault) : Broker × Entered :=
  if broker.closed then
    let (broker, outcome) := broker.refuse subscriber device .shuttingDown
    (broker, .finished outcome)
  else
    match broker.admission.request device subscriber.id (broker.roster.contains device) with
    | (admission, .join) =>
      let (broker, outcome) := { broker with admission }.join subscriber device
      (broker, .finished outcome)
    | (admission, .create) =>
      let (broker, outcome) := { broker with admission }.openSession subscriber device locator fault
      (broker, .finished outcome)
    | (admission, .queued ticket position) =>
      match { broker with admission }.deliver subscriber (.queued device position) with
      | (broker, .closed) =>
        ({ broker with admission := (broker.admission.cancelRequester subscriber.id).1 },
          .waiting ticket)
      | (broker, _) => (broker, .waiting ticket)

/-- What a settlement comes to when its waiter takes it up. A grant that was revoked has given its
slot back already; one that is of no use gives it back here. -/
def settled (broker : Broker) (subscriber : Subscriber) (device : Device) (locator : String)
    (fault : Option SystemFault) (ticket : TicketId) : Settlement → Broker × Outcome
  | .cancelled => (broker, .error (.admissionCancelled device))
  | .granted =>
    let (admission, claimed) := broker.admission.claim ticket
    let broker := { broker with admission }
    if !claimed then
      if broker.closed then broker.refuse subscriber device .shuttingDown
      else (broker, .error (.admissionCancelled device))
    else if broker.closed then broker.release.refuse subscriber device .shuttingDown
    else if broker.mailboxes.isClosed subscriber then
      (broker.release, .error (.admissionCancelled device))
    else if broker.roster.contains device then broker.release.join subscriber device
    else broker.openSession subscriber device locator fault

/-- Reads a settlement; a ticket without one counts as cancelled. -/
def readSettlement (broker : Broker) (ticket : TicketId) : Broker × Settlement :=
  let (admission, settlement) := broker.admission.poll ticket
  ({ broker with admission }, settlement.getD .cancelled)

/-- How a waiting request was woken. -/
inductive Wake where
  | settled
  | deadline
deriving DecidableEq

/-- The second step of a start request, while it still holds its ticket. At the deadline a request
that was not settled leaves the line. -/
def wake (broker : Broker) (subscriber : Subscriber) (device : Device) (locator : String)
    (fault : Option SystemFault) (ticket : TicketId) : Wake → Broker × Outcome
  | .settled =>
    let (broker, settlement) := broker.readSettlement ticket
    broker.settled subscriber device locator fault ticket settlement
  | .deadline =>
    match broker.admission.expire ticket with
    | (admission, true) =>
      { broker with admission }.refuse subscriber device (.admissionTimeout device)
    | (admission, false) =>
      let (broker, settlement) := { broker with admission }.readSettlement ticket
      broker.settled subscriber device locator fault ticket settlement

/-- The second step of a start request. Its ticket is let go of in the end. -/
def resume (broker : Broker) (subscriber : Subscriber) (device : Device) (locator : String)
    (fault : Option SystemFault) (ticket : TicketId) (cause : Wake) : Broker × Outcome :=
  let (broker, outcome) := broker.wake subscriber device locator fault ticket cause
  ({ broker with admission := broker.admission.abandon ticket }, outcome)

/-- Counts what was read from the decoder of a session. False if the session is gone. -/
def recordBytes (broker : Broker) (device : Device) (id count : Nat) : Broker × Bool :=
  match broker.roster.current? device id with
  | none => (broker, false)
  | some session =>
    let session := { session with bytesRead := session.bytesRead + count }
    ({ broker with roster := broker.roster.put session }, true)

/-- Hands a frame to the subscribers of a session. False if the session is gone, or is now. -/
def deliverFrame (broker : Broker) (device : Device) (id : Nat) (frame : Frame) :
    Broker × Bool :=
  match broker.roster.current? device id with
  | none => (broker, false)
  | some session =>
    let (session, mailboxes, outcome) := session.broadcast broker.mailboxes frame
    let broker := { broker with
      roster := broker.roster.put session
      mailboxes
      framesDelivered := broker.framesDelivered + outcome.delivered
      framesDropped := broker.framesDropped + outcome.dropped }
    if session.isIdle then (broker.teardown device .stop, false) else (broker, true)

/-- Ends the session of a decoder whose supervision ended, unless it is gone already. -/
def decoderExited (broker : Broker) (device : Device) (id : Nat) (exit : DecoderExit) : Broker :=
  match broker.roster.current? device id with
  | none => broker
  | some _ => broker.teardown device (.exit exit)

/-- Takes a report of a decoder in; answers whether more is wanted. -/
def report (broker : Broker) (device : Device) (id : Nat) : Report → Broker × Bool
  | .bytes count => broker.recordBytes device id count
  | .frame frame => broker.deliverFrame device id frame
  | .exit exit => (broker.decoderExited device id exit, false)

/-- A client is gone: it leaves every session and the line, and its grants are revoked. -/
def disconnect (broker : Broker) (subscriber : SubscriberId) : Broker :=
  let left := (broker.roster.devicesOf subscriber).foldl (·.detach subscriber ·) broker
  { left with admission := (left.admission.cancelRequester subscriber).1 }

/-- Refuses requests from now on, empties the line and ends every session. -/
def close (broker : Broker) : Broker :=
  let closing :=
    { broker with closed := true, admission := broker.admission.cancelAll.1 }
  closing.roster.devices.foldl (·.teardown · .stop) closing

end Broker

end CameraRelay
