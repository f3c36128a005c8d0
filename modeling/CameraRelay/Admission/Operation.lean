import CameraRelay.Admission

/-!
# Operations on admission

Everything that can happen to the slots and the line, as data: a history of admission is a list of
operations, in any order and with any arguments.
-/

namespace CameraRelay

namespace Admission

inductive Operation where
  | request (device : Device) (requester : SubscriberId) (sessionExists : Bool)
  | release
  | claim (ticket : TicketId)
  | expire (ticket : TicketId)
  | cancelRequester (requester : SubscriberId)
  | cancelAll
  | position (ticket : TicketId)
  | poll (ticket : TicketId)
  | abandon (ticket : TicketId)
deriving DecidableEq

inductive Answer where
  | decision (decision : Decision)
  | count (count : Nat)
  | found (found : Bool)
  /-- A place in line, counted from 1. -/
  | place (place : Option Nat)
  | settlement (settlement : Option Settlement)
deriving DecidableEq

def act (admission : Admission) : Operation → Admission × Answer
  | .request device requester sessionExists =>
    let (admission, decision) := admission.request device requester sessionExists
    (admission, .decision decision)
  | .release =>
    let (admission, count) := admission.release
    (admission, .count count)
  | .claim ticket =>
    let (admission, found) := admission.claim ticket
    (admission, .found found)
  | .expire ticket =>
    let (admission, found) := admission.expire ticket
    (admission, .found found)
  | .cancelRequester requester =>
    let (admission, count) := admission.cancelRequester requester
    (admission, .count count)
  | .cancelAll =>
    let (admission, count) := admission.cancelAll
    (admission, .count count)
  | .position ticket => (admission, .place (admission.position? ticket))
  | .poll ticket =>
    let (admission, settlement) := admission.poll ticket
    (admission, .settlement settlement)
  | .abandon ticket => (admission.abandon ticket, .found (admission.isHeld ticket))

def run (admission : Admission) (operations : List Operation) : Admission :=
  operations.foldl (fun admission operation => (admission.act operation).1) admission

/-- The answers of operations carried out one after the other. -/
def answers (admission : Admission) : List Operation → List Answer
  | [] => []
  | operation :: rest =>
    let (admission, answer) := admission.act operation
    answer :: admission.answers rest

end Admission

end CameraRelay
