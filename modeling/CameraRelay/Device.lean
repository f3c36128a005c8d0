/-!
# Devices and subscribers

A device is named by a text that its operator chose; a subscriber is a client context with a number.
Devices are ordered by the code points of their names, which is also the order of their UTF-8 bytes.
-/

namespace CameraRelay

structure Device where
  name : String
deriving DecidableEq

/-- The number of a client context; numbers are given out from 1. -/
abbrev SubscriberId := Nat

namespace Device

/-- Code points compared from the left, a proper beginning before what it begins. -/
def codePointsLe : List Char → List Char → Bool
  | [], _ => true
  | _ :: _, [] => false
  | a :: as, b :: bs =>
    if a.toNat = b.toNat then codePointsLe as bs else a.toNat.blt b.toNat

/-- The order of devices in every listing. -/
def le (a b : Device) : Bool := codePointsLe a.name.toList b.name.toList

/-- A listing: ordered, each device once. -/
def listing (devices : List Device) : List Device := (devices.mergeSort le).eraseReps

end Device

end CameraRelay
