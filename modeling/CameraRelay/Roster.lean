import CameraRelay.Failure
import CameraRelay.Session

/-!
# The roster of sessions

At most one session per device. Sessions are numbered from 1 in the order of their creation, and no
number is used twice.
-/

namespace CameraRelay

/-- The sessions that are live, in the order of their creation. -/
structure Roster where
  sessions : List Session := []
  /-- How many sessions were ever created; also the number of the latest. -/
  created : Nat := 0

namespace Roster

def get? (roster : Roster) (device : Device) : Option Session :=
  roster.sessions.find? fun s => s.device == device

def contains (roster : Roster) (device : Device) : Bool := (roster.get? device).isSome

/-- The session of a device, if it is still the one with that number. -/
def current? (roster : Roster) (device : Device) (id : Nat) : Option Session :=
  (roster.get? device).filter fun s => s.id == id

def put (roster : Roster) (session : Session) : Roster :=
  { roster with
    sessions := roster.sessions.map fun s => if s.device = session.device then session else s }

/-- Creates a session that starts; a device that has one is refused. -/
def create (roster : Roster) (device : Device) (locator : String) :
    Except RosterFault (Roster × Session) :=
  if roster.contains device then .error (.sessionExists device)
  else
    let session : Session := { id := roster.created + 1, device, locator }
    .ok ({ sessions := roster.sessions ++ [session], created := roster.created + 1 }, session)

def remove (roster : Roster) (device : Device) : Roster :=
  { roster with sessions := roster.sessions.filter fun s => s.device != device }

def devices (roster : Roster) : List Device := roster.sessions.map (·.device)

def devicesOf (roster : Roster) (subscriber : SubscriberId) : List Device :=
  (roster.sessions.filter fun s => s.hasSubscriber subscriber).map (·.device)

end Roster

end CameraRelay
