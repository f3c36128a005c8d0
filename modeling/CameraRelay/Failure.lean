import CameraRelay.Decoder.ExitStatus
import CameraRelay.Device
import CameraRelay.Json.Fault
import CameraRelay.SystemFault

/-!
# Failures

Everything that can go wrong, each cause with the wording for the operator (`text`) and, where it
differs, the one for the client (`clientText`).
-/

namespace CameraRelay

inductive RosterFault where
  | sessionExists (device : Device)
  | sessionNotFound (device : Device)
deriving DecidableEq

def RosterFault.text : RosterFault → String
  | sessionExists device => "Session already exists: " ++ device.name
  | sessionNotFound device => "Session not found: " ++ device.name

inductive Failure where
  | sourceUnresolved (device : Device)
  | invalidSource (reason : String)
  /-- Queued until the deadline. -/
  | admissionTimeout (device : Device)
  | admissionCancelled (device : Device)
  | processSpawn (device : Device) (fault : SystemFault)
  | processExit (device : Device) (status : ExitStatus)
  | delivery (subscriber : SubscriberId)
  | shuttingDown
  | roster (fault : RosterFault)
  | protocol (reason : String)
  | io (fault : SystemFault)
  | json (fault : Json.Fault)
deriving DecidableEq

namespace Failure

def text : Failure → String
  | sourceUnresolved device => "Source not registered: " ++ device.name
  | invalidSource reason => "Invalid source: " ++ reason
  | admissionTimeout device => "Admission timed out: " ++ device.name
  | admissionCancelled device => "Admission cancelled: " ++ device.name
  | processSpawn device fault => "Decoder spawn failed for " ++ device.name ++ ": " ++ fault.text
  | processExit device status => "Decoder for " ++ device.name ++ " exited: " ++ status.text
  | delivery subscriber => "Delivery to subscriber " ++ toString subscriber ++ " failed"
  | shuttingDown => "Broker is shutting down"
  | roster fault => "Registry error: " ++ fault.text
  | protocol reason => "Protocol error: " ++ reason
  | io fault => "IO error: " ++ fault.text
  | json fault => "JSON error: " ++ String.ofList fault.text

def clientText : Failure → String
  | sourceUnresolved device => "no camera registered for device " ++ device.name
  | admissionTimeout _ => "stream queue wait timed out"
  | processSpawn _ fault => "failed to start stream: " ++ fault.text
  | other => other.text

/-- The wording of the failure underneath, where there is one. -/
def cause? : Failure → Option String
  | processSpawn _ fault => some fault.text
  | io fault => some fault.text
  | json fault => some (String.ofList fault.text)
  | roster fault => some fault.text
  | _ => none

end Failure

end CameraRelay
