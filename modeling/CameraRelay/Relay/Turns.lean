import CameraRelay.Decoder.Diagnostics
import CameraRelay.Relay

/-!
# Taking turns

In a live relay requests take turns. A request becomes ready when it is made, when its wait is
settled, when its deadline passes and when it is given up; ready requests run one after the other,
first ready first, each as far as it can go. Decoders that were dismissed stop in the meantime. The
relay is at rest when nobody is ready.

`Turns` is one such order of the actions of `Relay`: everything it does is a run of the relay.
-/

namespace CameraRelay

structure Turns where
  relay : Relay
  /-- Numbers of the requests that are ready, the first to run first. -/
  ready : List Nat := []
  givenUp : List Nat := []
  /-- Whether every deadline has passed, those of later requests included. -/
  late : Bool := false
  programFound : Bool := true
  diagnostics : List (Nat × List Char) := []

namespace Turns

def ticket? (turns : Turns) (number : Nat) : Option TicketId :=
  match turns.relay.request? number with
  | some request =>
    match request.stage with
    | .waiting _ ticket => some ticket
    | _ => none
  | none => none

def numbers (turns : Turns) : List Nat := (List.range turns.relay.requests.length).map (· + 1)

def holder? (turns : Turns) (ticket : TicketId) : Option Nat :=
  turns.numbers.find? fun number => turns.ticket? number == some ticket

/-- Makes a request ready unless it is. -/
def makeReady (turns : Turns) (number : Nat) : Turns :=
  if turns.ready.contains number then turns
  else { turns with ready := turns.ready ++ [number] }

/-- Makes the holders of tickets ready, in the order of the tickets. -/
def wakeHolders (turns : Turns) (tickets : List TicketId) : Turns :=
  (tickets.filterMap turns.holder?).foldl makeReady turns

/-- Makes the requests ready that were made since there were `known`. -/
def wakeNew (turns : Turns) (known : Nat) : Turns :=
  (turns.numbers.drop known).foldl makeReady turns

/-- The relay has gone on: whoever was settled becomes ready, and every request that was made. -/
def follow (turns : Turns) (relay : Relay) : Turns :=
  let next := { turns with relay }
  (next.wakeHolders (relay.broker.admission.settlements.map (·.1))).wakeNew
    turns.relay.requests.length

def act (turns : Turns) (action : Action) : Turns := turns.follow (turns.relay.step action)

/-- What keeps the decoder for a locator from starting: a NUL in its arguments, or a program that is
not there. -/
def fault? (turns : Turns) (locator : String) : Option SystemFault :=
  let arguments := turns.relay.settings.decoder.renderArguments locator
  if arguments.any fun argument => argument.toList.contains (Char.ofNat 0) then
    some .nulInArgument
  else if turns.programFound then none
  else some .missingFile

def ask (turns : Turns) (subscriber : SubscriberId) (device : Device) : Turns :=
  turns.act (.ask subscriber device)

/-- Gives a request up when its turn comes. False if there is none, or it is over: to give one up
again before its turn changes nothing. -/
def giveUp (turns : Turns) (number : Nat) : Turns × Bool :=
  match turns.relay.request? number with
  | none => (turns, false)
  | some request =>
    let isOver :=
      match request.stage with
      | .finished _ => true
      | .abandoned => true
      | _ => false
    if isOver then (turns, false)
    else ({ turns with givenUp := number :: turns.givenUp }.makeReady number, true)

def expire (turns : Turns) : Turns :=
  { turns with late := true }.wakeHolders turns.relay.broker.admission.waiters

/-- A waiting request goes on if it was settled or its deadline has passed. -/
def goOn (turns : Turns) (number : Nat) (locator : String) (ticket : TicketId) : Turns :=
  if (turns.relay.broker.admission.settlement? ticket).isSome then
    turns.act (.wake number .settled (turns.fault? locator))
  else if turns.late then turns.act (.wake number .deadline (turns.fault? locator))
  else turns

/-- A request whose camera was found enters; one that would wait past its deadline does not wait. -/
def enter (turns : Turns) (number : Nat) (locator : String) : Turns :=
  let next := turns.act (.enter number (turns.fault? locator))
  match next.ticket? number with
  | some ticket => next.goOn number locator ticket
  | none => next

def turn (turns : Turns) (number : Nat) : Turns :=
  if turns.givenUp.contains number then turns.act (.abandon number)
  else
    match turns.relay.request? number with
    | none => turns
    | some request =>
      match request.stage with
      | .asked =>
        let next := turns.act (.resolve number)
        match next.relay.request? number with
        | some ⟨_, _, .resolved locator⟩ => next.enter number locator
        | _ => next
      | .resolved locator => turns.enter number locator
      | .waiting locator ticket => turns.goOn number locator ticket
      | .finished _ => turns
      | .abandoned => turns

/-- Ready requests take their turns, `fuel` of them at most. -/
def takeTurns : Nat → Turns → Turns
  | 0, turns => turns
  | fuel + 1, turns =>
    match turns.ready with
    | [] => turns
    | number :: rest => ({ turns with ready := rest }.turn number).takeTurns fuel

/-- What a supervisor does next without waiting for its decoder's output. -/
def decoderAction? (relay : Relay) (supervisor : Supervisor) : Option Action :=
  if supervisor.due?.isSome then some (.report supervisor.session)
  else
    match supervisor.watch with
    | .stopping => some (.observe supervisor.session .terminated)
    | .watching =>
      if relay.broker.isDismissed supervisor.session then
        some (.observe supervisor.session .stopRequest)
      else none
    | _ => none

/-- Supervisors do what they can, `fuel` actions at most. -/
def attendDecoders : Nat → Turns → Turns
  | 0, turns => turns
  | fuel + 1, turns =>
    match turns.relay.decoders.findSome? (decoderAction? turns.relay) with
    | none => turns
    | some action => (turns.act action).attendDecoders fuel

/-- Enough actions for every supervisor to come to rest: its reports, the stop and the exit. -/
def decoderFuel (turns : Turns) : Nat :=
  turns.relay.decoders.foldl (fun fuel s => fuel + s.reportsLeft + 4) 0

/-- Decoders and requests act until nobody can. A request takes its turn at most twice, and once
more if it is given up. -/
def rest (turns : Turns) : Turns :=
  let turns := turns.attendDecoders turns.decoderFuel
  let turns := turns.takeTurns (turns.ready.length + 3 * turns.relay.requests.length)
  turns.attendDecoders turns.decoderFuel

def onAir? (turns : Turns) (device : Device) : Option (Session × Supervisor) := do
  let session ← turns.relay.broker.roster.get? device
  let supervisor ← turns.relay.decoder? session.id
  some (session, supervisor)

/-- The decoder of a session does something that its supervisor observes. -/
def observe (turns : Turns) (session : Nat) (observation : Observation) : Turns :=
  turns.act (.observe session observation)

/-- The decoder of a session writes diagnostics: the lines that this completes are logged. -/
def diagnose (turns : Turns) (session : Nat) (text : List Char) :
    Turns × List (Diagnostics.Level × List Char) :=
  let begun := (turns.diagnostics.lookup session).getD []
  let (entries, unfinished) := Diagnostics.log (begun ++ text)
  let others := turns.diagnostics.filter fun d => d.1 != session
  ({ turns with diagnostics := (session, unfinished) :: others }, entries)

end Turns

end CameraRelay
