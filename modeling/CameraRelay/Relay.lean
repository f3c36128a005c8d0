import CameraRelay.Broker

/-!
# The relay

The relay is the broker together with everything that acts on it: cameras that are bound and
unbound, clients that ask, stop, receive and leave, start requests on their way, and the supervisors
of decoders. `Relay.step` is one action of one of them; a run of the relay is any list of actions.
An action that is not possible in a state leaves it as it is.
-/

namespace CameraRelay

inductive Stage where
  /-- Nothing was done yet. -/
  | asked
  | resolved (locator : String)
  | waiting (locator : String) (ticket : TicketId)
  | finished (outcome : Outcome)
  | abandoned

structure Request where
  subscriber : Subscriber
  device : Device
  stage : Stage := .asked

structure Relay where
  settings : RelaySettings
  directory : Directory := {}
  broker : Broker
  /-- How many subscribers there were; their numbers count from 1. -/
  subscribers : Nat := 0
  /-- Request number `n` stands at place `n - 1`. -/
  requests : List Request := []
  decoders : List Supervisor := []

/-- What can happen next. Whether a decoder starts is up to its surroundings, so the actions that
may start one carry the fault that keeps it from starting. -/
inductive Action where
  | register (device : Device) (source : Source)
  | unregister (device : Device)
  | subscribe
  | ask (subscriber : SubscriberId) (device : Device)
  | resolve (request : Nat)
  | enter (request : Nat) (fault : Option SystemFault)
  | wake (request : Nat) (cause : Broker.Wake) (fault : Option SystemFault)
  | abandon (request : Nat)
  | stop (subscriber : SubscriberId) (device : Device)
  | disconnect (subscriber : SubscriberId)
  | shutdown
  | receive (subscriber : SubscriberId) (count : Nat)
  | closeMailbox (subscriber : SubscriberId)
  | dropMailbox (subscriber : SubscriberId)
  /-- The supervisor of a session observes something of its decoder. -/
  | observe (session : Nat) (observation : Observation)
  /-- The supervisor of a session makes the report that is due. -/
  | report (session : Nat)
  | notice (device : Device) (session : Nat) (report : Report)
  | complain (subscriber : SubscriberId) (message : String)

namespace Relay

def new (settings : RelaySettings) : Relay := { settings, broker := .new settings }

def handle (subscriber : SubscriberId) : Subscriber := ⟨subscriber, subscriber⟩

def request? (relay : Relay) (number : Nat) : Option Request :=
  match number with
  | 0 => none
  | n + 1 => relay.requests[n]?

def setStage (relay : Relay) (number : Nat) (stage : Stage) : Relay :=
  { relay with requests := relay.requests.modify (number - 1) fun r => { r with stage } }

/-- Takes on the supervisor of a decoder that was started in a step from `before`. -/
def hire (relay before : Relay) (device : Device) (fault : Option SystemFault) : Relay :=
  if before.broker.roster.created < relay.broker.roster.created && fault.isNone then
    let session := relay.broker.roster.created
    { relay with
      decoders := relay.decoders ++ [.start relay.settings.decoder device session] }
  else relay

def decoder? (relay : Relay) (session : Nat) : Option Supervisor :=
  relay.decoders.find? fun s => s.session == session

def setDecoder (relay : Relay) (supervisor : Supervisor) : Relay :=
  { relay with
    decoders := relay.decoders.map fun s =>
      if s.session = supervisor.session then supervisor else s }

def resolve (relay : Relay) (number : Nat) (request : Request) : Relay :=
  match relay.directory.resolve request.device with
  | .ok source => relay.setStage number (.resolved source.effectiveLocator)
  | .error failure =>
    let (broker, outcome) := relay.broker.refuse request.subscriber request.device failure
    { relay with broker }.setStage number (.finished outcome)

/-- The first step of a request. -/
def enter (relay : Relay) (number : Nat) (request : Request) (locator : String)
    (fault : Option SystemFault) : Relay :=
  let (broker, entered) := relay.broker.enter request.subscriber request.device locator fault
  let next := { relay with broker }.hire relay request.device fault
  match entered with
  | .finished outcome => next.setStage number (.finished outcome)
  | .waiting ticket => next.setStage number (.waiting locator ticket)

def wake (relay : Relay) (number : Nat) (request : Request) (locator : String)
    (ticket : TicketId) (cause : Broker.Wake) (fault : Option SystemFault) : Relay :=
  let (broker, outcome) :=
    relay.broker.resume request.subscriber request.device locator fault ticket cause
  ({ relay with broker }.hire relay request.device fault).setStage number (.finished outcome)

/-- Gives a request up that has not finished; a ticket it holds is let go of. -/
def abandon (relay : Relay) (number : Nat) (request : Request) : Relay :=
  match request.stage with
  | .waiting _ ticket =>
    let broker :=
      { relay.broker with admission := relay.broker.admission.abandon ticket }
    { relay with broker }.setStage number .abandoned
  | .asked => relay.setStage number .abandoned
  | .resolved _ => relay.setStage number .abandoned
  | .finished _ => relay
  | .abandoned => relay

/-- What waits for a client, the oldest event first. -/
def events (relay : Relay) (client : SubscriberId) : List Event :=
  ((relay.broker.mailboxes.get? (handle client).mailbox).map (·.queue)).getD []

def updateMailbox (relay : Relay) (subscriber : SubscriberId) (change : Mailbox → Mailbox) :
    Relay :=
  { relay with
    broker := { relay.broker with
      mailboxes := relay.broker.mailboxes.update (handle subscriber).mailbox change } }

/-- Whether a supervisor can observe something now: a request to stop only once its session was
dismissed. -/
def canObserve (relay : Relay) (supervisor : Supervisor) : Observation → Bool
  | .stopRequest => relay.broker.isDismissed supervisor.session
  | _ => true

def step (relay : Relay) : Action → Relay
  | .register device source =>
    match relay.directory.register device source with
    | .ok directory => { relay with directory }
    | .error _ => relay
  | .unregister device =>
    match relay.directory.remove device with
    | .ok directory => { relay with directory }
    | .error _ => relay
  | .subscribe =>
    let number := relay.subscribers + 1
    { relay with
      subscribers := number
      broker := { relay.broker with
        mailboxes := relay.broker.mailboxes.set (handle number).mailbox
          (.new relay.settings.subscriberBuffer) } }
  | .ask subscriber device =>
    { relay with requests := relay.requests ++ [{ subscriber := handle subscriber, device }] }
  | .resolve number =>
    match relay.request? number with
    | some request =>
      match request.stage with
      | .asked => relay.resolve number request
      | _ => relay
    | none => relay
  | .enter number fault =>
    match relay.request? number with
    | some request =>
      match request.stage with
      | .resolved locator => relay.enter number request locator fault
      | _ => relay
    | none => relay
  | .wake number cause fault =>
    match relay.request? number with
    | some request =>
      match request.stage with
      | .waiting locator ticket =>
        if cause = .settled && (relay.broker.admission.settlement? ticket).isNone then relay
        else relay.wake number request locator ticket cause fault
      | _ => relay
    | none => relay
  | .abandon number =>
    match relay.request? number with
    | some request => relay.abandon number request
    | none => relay
  | .stop subscriber device => { relay with broker := relay.broker.detach subscriber device }
  | .disconnect subscriber => { relay with broker := relay.broker.disconnect subscriber }
  | .shutdown => { relay with broker := relay.broker.close }
  | .receive subscriber count =>
    relay.updateMailbox subscriber fun box => (box.receiveMany count).1
  | .closeMailbox subscriber => relay.updateMailbox subscriber .close
  | .dropMailbox subscriber => relay.updateMailbox subscriber .drop
  | .observe session observation =>
    match relay.decoder? session with
    | some supervisor =>
      if relay.canObserve supervisor observation then
        relay.setDecoder (supervisor.observe observation)
      else relay
    | none => relay
  | .report session =>
    match relay.decoder? session with
    | some supervisor =>
      match supervisor.due? with
      | some report =>
        let (broker, wanted) := relay.broker.report supervisor.device supervisor.session report
        { relay with broker }.setDecoder (supervisor.answer wanted)
      | none => relay
    | none => relay
  | .notice device session report =>
    { relay with broker := (relay.broker.report device session report).1 }
  | .complain subscriber message =>
    { relay with broker := (relay.broker.deliver (handle subscriber) (.error none message)).1 }

def run (relay : Relay) (actions : List Action) : Relay := actions.foldl step relay

end Relay

end CameraRelay
