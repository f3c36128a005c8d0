import CameraRelay.Mailbox
import CameraRelay.Phase
import CameraRelay.Text.Quoted

/-!
# Sessions

A session is one live binding of a decoder to a device, shared by all subscribers of the device.
Subscribers are kept in the order in which they came; each stands there once.
-/

namespace CameraRelay

inductive DecoderHold where
  | absent
  | running
  | told
deriving DecidableEq

structure Session where
  id : Nat
  device : Device
  /-- May hold a login; it is never logged as it is. -/
  locator : String
  phase : Phase := .starting
  decoder : DecoderHold := .absent
  subscribers : List Subscriber := []
  bytesRead : Nat := 0
  frames : Nat := 0
  framesDropped : Nat := 0
  /-- How often a move to a phase was asked for that is not legal. -/
  refusedMoves : Nat := 0

structure FanOut where
  delivered : Nat := 0
  dropped : Nat := 0
  failed : List SubscriberId := []
deriving DecidableEq

namespace Session

/-- Moves to a phase if that is legal; a move that is not is refused and counted. -/
def advance (session : Session) (next : Phase) : Session :=
  { session with
    phase := session.phase.advance next
    refusedMoves := session.refusedMoves + (if session.phase.canMoveTo next then 0 else 1) }

def setDecoder (session : Session) : Session :=
  { session with decoder := .running }.advance .live

/-- Tells the decoder to stop; true only the first time. -/
def stopDecoder (session : Session) : Session × Bool :=
  match session.decoder with
  | .running => ({ session with decoder := .told }, true)
  | _ => (session, false)

def hasSubscriber (session : Session) (id : SubscriberId) : Bool :=
  session.subscribers.any fun s => s.id == id

/-- Attaches a subscriber; one that is there already has its handle replaced. True if it is new. -/
def attach (session : Session) (subscriber : Subscriber) : Session × Bool :=
  if session.hasSubscriber subscriber.id then
    let replaced := session.subscribers.map fun s => if s.id = subscriber.id then subscriber else s
    ({ session with subscribers := replaced }, false)
  else ({ session with subscribers := session.subscribers ++ [subscriber] }, true)

/-- Detaches a subscriber. True if it was attached. -/
def detach (session : Session) (id : SubscriberId) : Session × Bool :=
  ({ session with subscribers := session.subscribers.filter fun s => s.id != id },
    session.hasSubscriber id)

def isIdle (session : Session) : Bool := session.subscribers.isEmpty

/-- Delivers an event to subscribers in turn and counts the outcomes. -/
def fanOut (event : Event) : List Subscriber → Mailboxes → Mailboxes × FanOut
  | [], boxes => (boxes, {})
  | subscriber :: rest, boxes =>
    let (boxes, delivery) := boxes.deliver subscriber event
    let (boxes, others) := fanOut event rest boxes
    match delivery with
    | .sent => (boxes, { others with delivered := others.delivered + 1 })
    | .dropped => (boxes, { others with dropped := others.dropped + 1 })
    | .closed => (boxes, { others with failed := subscriber.id :: others.failed })

/-- Hands a frame to every subscriber; those whose mailbox is closed are detached. -/
def broadcast (session : Session) (boxes : Mailboxes) (frame : Frame) :
    Session × Mailboxes × FanOut :=
  let (boxes, outcome) := fanOut (.frame session.device frame) session.subscribers boxes
  let kept := session.subscribers.filter fun s => !outcome.failed.contains s.id
  ({ session with
      subscribers := kept
      frames := session.frames + 1
      framesDropped := session.framesDropped + outcome.dropped },
    boxes, outcome)

/-- Hands a last event to every subscriber and detaches them all; tells how many got it. -/
def notifyAll (session : Session) (boxes : Mailboxes) (event : Event) :
    Session × Mailboxes × Nat :=
  let (boxes, outcome) := fanOut event session.subscribers boxes
  ({ session with subscribers := [] }, boxes, outcome.delivered)

/-- The session as it is shown to its operator; the locator stays out. -/
def summary (session : Session) : String :=
  "StreamSession \x7b id: " ++ toString session.id ++
  ", device: DeviceId(" ++ String.ofList (Text.quoted session.device.name.toList) ++
  "), phase: " ++ session.phase.label ++
  ", subscribers: " ++ toString session.subscribers.length ++ ", pid: None \x7d"

end Session

end CameraRelay
