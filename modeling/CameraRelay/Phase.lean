/-!
# Lifecycle of a stream

A request waits for admission, its session starts a decoder, goes live, and ends by the decoder's
exit, by a failure, or by the departure of its last subscriber.
-/

namespace CameraRelay

/-- Where a stream stands between its request and its teardown. -/
inductive Phase where
  /-- Queued for admission; no decoder yet. -/
  | pendingAdmission
  | starting
  | live
  | error
  | ended
  | terminated
deriving DecidableEq

namespace Phase

/-- The phases in the order of a listing. -/
def all : List Phase := [pendingAdmission, starting, live, error, ended, terminated]

def canMoveTo : Phase → Phase → Bool
  | pendingAdmission, starting => true
  | starting, live => true
  | starting, error => true
  | live, error => true
  | live, ended => true
  | live, terminated => true
  | error, terminated => true
  | ended, terminated => true
  | _, _ => false

def isRunning : Phase → Bool
  | starting => true
  | live => true
  | _ => false

def successors (p : Phase) : List Phase := all.filter p.canMoveTo

/-- The phase after an attempted move: an illegal one is refused and leaves the phase as it was. -/
def advance (p next : Phase) : Phase := if p.canMoveTo next then next else p

def label : Phase → String
  | pendingAdmission => "PendingAdmission"
  | starting => "Starting"
  | live => "Live"
  | error => "Error"
  | ended => "Ended"
  | terminated => "Terminated"

def ofLabel? (s : String) : Option Phase := all.find? fun p => p.label == s

end Phase

end CameraRelay
