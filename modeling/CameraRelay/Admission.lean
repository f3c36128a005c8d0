import CameraRelay.Device

/-!
# Admission

Slots cap the number of live sessions. A slot is held from the moment a request is told to create a
session until that session is torn down. Requests beyond the cap wait in line in the order of their
arrival, each with a ticket; a slot that becomes free is granted to the head of the line and is held
for it until the waiter claims it.

A waiter may let go of its ticket at any time. Its place in line stays until the next request or the
next free slot comes upon it.
-/

namespace CameraRelay

/-- The number of a ticket; tickets are numbered from 1. -/
abbrev TicketId := Nat

inductive Settlement where
  | granted
  | cancelled
deriving DecidableEq

structure Entry where
  ticket : TicketId
  requester : SubscriberId
  device : Device
deriving DecidableEq

inductive Decision where
  /-- A session exists; no slot is used. -/
  | join
  /-- A slot is taken; the session is to be created. -/
  | create
  /-- Wait with this ticket, at this place in line counted from 1. -/
  | queued (ticket : TicketId) (position : Nat)
deriving DecidableEq

structure AdmissionCounters where
  granted : Nat := 0
  timedOut : Nat := 0
  cancelled : Nat := 0
  /-- How often a slot was given back while none was held. -/
  unheldReleases : Nat := 0
deriving DecidableEq

structure Admission where
  capacity : Nat
  active : Nat := 0
  /-- The line, its head first. -/
  queue : List Entry := []
  /-- Granted tickets that were not claimed yet, with their requesters. -/
  granted : List (TicketId × SubscriberId) := []
  /-- How many tickets were ever issued; also the number of the latest. -/
  issued : Nat := 0
  /-- Tickets whose waiter still holds them, in the order of issue. -/
  waiters : List TicketId := []
  /-- Settlements that their waiters have not read yet, in the order in which they were made. -/
  settlements : List (TicketId × Settlement) := []
  counters : AdmissionCounters := {}

namespace Admission

/-- All slots free and nobody in line. A capacity of 0 counts as 1. -/
def new (capacity : Nat) : Admission := { capacity := max capacity 1 }

def isAwaited (admission : Admission) (entry : Entry) : Bool :=
  admission.waiters.contains entry.ticket

def isHeld (admission : Admission) (ticket : TicketId) : Bool := admission.waiters.contains ticket

/-- The place of a ticket in line, counted from 1. -/
def position? (admission : Admission) (ticket : TicketId) : Option Nat :=
  (admission.queue.findIdx? fun e => e.ticket == ticket).map (· + 1)

/-- Takes entries whose waiter is gone out of the line and counts them as cancelled. -/
def prune (admission : Admission) : Admission :=
  let kept := admission.queue.filter admission.isAwaited
  { admission with
    queue := kept
    counters.cancelled :=
      admission.counters.cancelled + (admission.queue.length - kept.length) }

def enqueue (admission : Admission) (device : Device) (requester : SubscriberId) : Admission :=
  let ticket := admission.issued + 1
  { admission with
    queue := admission.queue ++ [{ ticket, requester, device }]
    issued := ticket
    waiters := admission.waiters ++ [ticket] }

/-- Answers a request: join the session if there is one, take a free slot, or wait. -/
def request (admission : Admission) (device : Device) (requester : SubscriberId)
    (sessionExists : Bool) : Admission × Decision :=
  if sessionExists then (admission, .join)
  else if admission.active < admission.capacity then
    ({ admission with active := admission.active + 1 }, .create)
  else
    let admission := admission.prune.enqueue device requester
    (admission, .queued admission.issued admission.queue.length)

/-- Settles the request of an entry for its waiter, if there still is one. -/
def settle (admission : Admission) (entry : Entry) (settlement : Settlement) : Admission :=
  if admission.isAwaited entry then
    { admission with settlements := admission.settlements ++ [(entry.ticket, settlement)] }
  else admission

def grant (admission : Admission) (entry : Entry) : Admission :=
  { admission.settle entry .granted with
    active := admission.active + 1
    granted := admission.granted ++ [(entry.ticket, entry.requester)]
    counters.granted := admission.counters.granted + 1 }

/-- Grants free slots along the line. Entries whose waiter is gone are passed over. -/
def grantAlong (admission : Admission) : List Entry → Admission × Nat
  | [] => ({ admission with queue := [] }, 0)
  | entry :: rest =>
    if admission.active < admission.capacity then
      if admission.isAwaited entry then
        let (admission, count) := (admission.grant entry).grantAlong rest
        (admission, count + 1)
      else admission.grantAlong rest
    else ({ admission with queue := entry :: rest }, 0)

/-- Gives a slot back and grants what is free along the line; tells how many grants that were. To
give back what is not held is a fault, and is counted. -/
def release (admission : Admission) : Admission × Nat :=
  let faults := if admission.active = 0 then 1 else 0
  { admission with
    active := admission.active - 1
    counters.unheldReleases := admission.counters.unheldReleases + faults }.grantAlong
      admission.queue

/-- Takes over the slot granted to a ticket. False if there is no such grant, or no longer. -/
def claim (admission : Admission) (ticket : TicketId) : Admission × Bool :=
  ({ admission with granted := admission.granted.filter fun g => g.1 != ticket },
    admission.granted.any fun g => g.1 == ticket)

/-- Takes a request whose deadline passed out of the line. False if it is not there. -/
def expire (admission : Admission) (ticket : TicketId) : Admission × Bool :=
  if admission.queue.any fun e => e.ticket == ticket then
    ({ admission with
        queue := admission.queue.filter fun e => e.ticket != ticket
        counters.timedOut := admission.counters.timedOut + 1 }, true)
  else (admission, false)

/-- Revokes grants and releases their slots one after the other. -/
def revokeAll (admission : Admission) : List TicketId → Admission
  | [] => admission
  | ticket :: rest =>
    let revoked := { admission with granted := admission.granted.filter fun g => g.1 != ticket }
    revoked.release.1.revokeAll rest

/-- Cancels the requests of a requester that wait and revokes its grants that were not claimed;
tells how many those were. A revoked slot goes to the next in line. -/
def cancelRequester (admission : Admission) (requester : SubscriberId) : Admission × Nat :=
  let (own, others) := admission.queue.partition fun e => e.requester == requester
  let admission := own.foldl (fun a e => a.settle e .cancelled) { admission with queue := others }
  let revoked := (admission.granted.filter fun g => g.2 == requester).map (·.1)
  let admission := admission.revokeAll revoked
  let count := own.length + revoked.length
  ({ admission with counters.cancelled := admission.counters.cancelled + count }, count)

/-- Cancels every request that waits and revokes every grant that was not claimed; tells how many
those were. -/
def cancelAll (admission : Admission) : Admission × Nat :=
  let settled :=
    admission.queue.foldl (fun a e => a.settle e .cancelled) { admission with queue := [] }
  let count := admission.queue.length + admission.granted.length
  ({ settled with
      granted := []
      active := admission.active - admission.granted.length
      counters.cancelled := admission.counters.cancelled + count }, count)

/-- The settlement that waits to be read by the holder of a ticket. -/
def settlement? (admission : Admission) (ticket : TicketId) : Option Settlement :=
  admission.settlements.lookup ticket

/-- The holder of a ticket reads its settlement; it can be read once. -/
def poll (admission : Admission) (ticket : TicketId) : Admission × Option Settlement :=
  ({ admission with settlements := admission.settlements.filter fun s => s.1 != ticket },
    admission.settlement? ticket)

def abandon (admission : Admission) (ticket : TicketId) : Admission :=
  { admission with
    waiters := admission.waiters.filter (· != ticket)
    settlements := admission.settlements.filter fun s => s.1 != ticket }

end Admission

end CameraRelay
