import CameraRelay.Device

/-!
# Events

What a subscriber is told: that it watches a device, that it waits for one, a frame, the end of a
stream, or a failure.
-/

namespace CameraRelay

/-- A run of bytes, as a decoder writes and a client receives it. -/
abbrev Bytes := List UInt8

/-- One unit of a decoder's output, numbered from 0 within its session. -/
structure Frame where
  sequence : Nat
  data : Bytes
deriving DecidableEq

inductive Event where
  | started (device : Device)
  /-- The subscriber waits for a slot, at a place in line counted from 1. -/
  | queued (device : Device) (position : Nat)
  | frame (device : Device) (frame : Frame)
  | ended (device : Device)
  | error (device : Option Device) (message : String)
deriving DecidableEq

namespace Event

def device? : Event → Option Device
  | started device => some device
  | queued device _ => some device
  | frame device _ => some device
  | ended device => some device
  | error device _ => device

/-- Only frames may be dropped for want of room. -/
def isFrame : Event → Bool
  | frame _ _ => true
  | _ => false

end Event

end CameraRelay
