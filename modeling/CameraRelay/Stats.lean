import CameraRelay.Broker
import CameraRelay.Number.Binary64

/-!
# Statistics

Snapshots of the broker and of its sessions.
-/

namespace CameraRelay

structure SessionStats where
  device : Device
  session : Nat
  phase : Phase
  subscribers : Nat
  bytesRead : Nat
  frames : Nat
  framesDropped : Nat
deriving DecidableEq

def Session.stats (session : Session) : SessionStats where
  device := session.device
  session := session.id
  phase := session.phase
  subscribers := session.subscribers.length
  bytesRead := session.bytesRead
  frames := session.frames
  framesDropped := session.framesDropped

/-- Bits per second over the whole seconds of a session's life, 0 in its first second. -/
def bitrate (bytesRead : Nat) (uptime : Span) : Nat := bytesRead * 8 / uptime.seconds

structure BrokerStats where
  activeSessions : Nat := 0
  heldSlots : Nat := 0
  capacity : Nat := 0
  queuedRequests : Nat := 0
  sessionsCreated : Nat := 0
  grantedFromQueue : Nat := 0
  timedOut : Nat := 0
  cancelled : Nat := 0
  framesDelivered : Nat := 0
  framesDropped : Nat := 0
deriving DecidableEq

def Broker.stats (broker : Broker) : BrokerStats where
  activeSessions := broker.roster.sessions.length
  heldSlots := broker.admission.active
  capacity := broker.admission.capacity
  queuedRequests := broker.admission.queue.length
  sessionsCreated := broker.roster.created
  grantedFromQueue := broker.admission.counters.granted
  timedOut := broker.admission.counters.timedOut
  cancelled := broker.admission.counters.cancelled
  framesDelivered := broker.framesDelivered
  framesDropped := broker.framesDropped

/-- The held part of the capacity as a binary fraction; 0 without capacity. Both counts are rounded
before they are divided. -/
def BrokerStats.utilization (stats : BrokerStats) : Binary64 :=
  if stats.capacity = 0 then .zero
  else ((Binary64.ofNat stats.heldSlots).div? (Binary64.ofNat stats.capacity)).getD .zero

end CameraRelay
