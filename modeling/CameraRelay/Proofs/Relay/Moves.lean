import CameraRelay.Relay
import CameraRelay.Proofs.Broker.Evolution

/-!
# What one action does

What an action of the relay does to the broker and to the requests is said once, case by case
(`moves`). From it follows which operations of admission each action has at its disposal.
-/

namespace CameraRelay

def Broker.Entered.stage (locator : String) : Broker.Entered → Stage
  | .finished outcome => .finished outcome
  | .waiting ticket => .waiting locator ticket

namespace Relay

open Admission (Evolves Releases Enters Resumes Leaves Operation)

def staged (relay : Relay) (number : Nat) (stage : Stage) : List Request :=
  relay.requests.modify (number - 1) fun r => { r with stage }

/-- What an action does to the broker and to the requests. -/
inductive Moves (relay : Relay) : Action → Broker → List Request → Prop
  /-- Nothing, but for events that are delivered or received. Who listens no more never does. -/
  | post (action : Action) (mailboxes : Mailboxes)
    (deaf : ∀ client ≤ relay.subscribers,
      relay.broker.mailboxes.isClosed (handle client) = true →
        mailboxes.isClosed (handle client) = true) :
    Moves relay action { relay.broker with mailboxes } relay.requests
  | ask (subscriber : SubscriberId) (device : Device) :
    Moves relay (.ask subscriber device) relay.broker
      (relay.requests ++ [{ subscriber := handle subscriber, device }])
  | resolve {number : Nat} {request : Request} (source : Source)
    (found : relay.request? number = some request) (stage : request.stage = .asked) :
    Moves relay (.resolve number) relay.broker
      (relay.staged number (.resolved source.effectiveLocator))
  | refuse {number : Nat} {request : Request} (failure : Failure)
    (found : relay.request? number = some request) (stage : request.stage = .asked) :
    Moves relay (.resolve number)
      (relay.broker.told request.subscriber (.error (some request.device) failure.clientText))
      (relay.staged number (.finished (.error failure)))
  | enter {number : Nat} {fault : Option SystemFault} {request : Request} {locator : String}
    (found : relay.request? number = some request) (stage : request.stage = .resolved locator) :
    Moves relay (.enter number fault)
      (relay.broker.enter request.subscriber request.device locator fault).1
      (relay.staged number
        ((relay.broker.enter request.subscriber request.device locator fault).2.stage locator))
  | wake {number : Nat} {cause : Broker.Wake} {fault : Option SystemFault} {request : Request}
    {locator : String} {ticket : TicketId} (found : relay.request? number = some request)
    (stage : request.stage = .waiting locator ticket)
    (due : cause = .settled → relay.broker.admission.settlement? ticket ≠ none) :
    Moves relay (.wake number cause fault)
      (relay.broker.resume request.subscriber request.device locator fault ticket cause).1
      (relay.staged number (.finished
        (relay.broker.resume request.subscriber request.device locator fault ticket cause).2))
  | abandon {number : Nat} {request : Request} {locator : String} {ticket : TicketId}
    (found : relay.request? number = some request)
    (stage : request.stage = .waiting locator ticket) :
    Moves relay (.abandon number)
      { relay.broker with admission := relay.broker.admission.abandon ticket }
      (relay.staged number .abandoned)
  | withdraw {number : Nat} {request : Request} (found : relay.request? number = some request)
    (stage : request.stage = .asked ∨ ∃ locator, request.stage = .resolved locator) :
    Moves relay (.abandon number) relay.broker (relay.staged number .abandoned)
  | stop (subscriber : SubscriberId) (device : Device) :
    Moves relay (.stop subscriber device) (relay.broker.detach subscriber device) relay.requests
  | disconnect (subscriber : SubscriberId) :
    Moves relay (.disconnect subscriber) (relay.broker.disconnect subscriber) relay.requests
  | shutdown : Moves relay .shutdown relay.broker.close relay.requests
  | report {action : Action} (device : Device) (session : Nat) (report : Report)
    (kind : action = .report session ∨ action = .notice device session report) :
    Moves relay action (relay.broker.report device session report).1 relay.requests

theorem broker_hire (relay before : Relay) (device : Device) (fault : Option SystemFault) :
    (relay.hire before device fault).broker = relay.broker := by
  simp only [hire]
  split <;> rfl

theorem requests_hire (relay before : Relay) (device : Device) (fault : Option SystemFault) :
    (relay.hire before device fault).requests = relay.requests := by
  simp only [hire]
  split <;> rfl

theorem broker_enter (relay : Relay) (number : Nat) (request : Request) (locator : String)
    (fault : Option SystemFault) :
    (relay.enter number request locator fault).broker =
      (relay.broker.enter request.subscriber request.device locator fault).1 := by
  simp only [enter]
  split <;> exact broker_hire ..

theorem requests_enter (relay : Relay) (number : Nat) (request : Request) (locator : String)
    (fault : Option SystemFault) :
    (relay.enter number request locator fault).requests =
      relay.staged number
        ((relay.broker.enter request.subscriber request.device locator fault).2.stage locator) := by
  simp only [enter]
  split <;> next entered =>
    simp only [setStage, requests_hire, staged, entered, Broker.Entered.stage]

theorem broker_wake (relay : Relay) (number : Nat) (request : Request) (locator : String)
    (ticket : TicketId) (cause : Broker.Wake) (fault : Option SystemFault) :
    (relay.wake number request locator ticket cause fault).broker =
      (relay.broker.resume request.subscriber request.device locator fault ticket cause).1 :=
  broker_hire ..

theorem requests_wake (relay : Relay) (number : Nat) (request : Request) (locator : String)
    (ticket : TicketId) (cause : Broker.Wake) (fault : Option SystemFault) :
    (relay.wake number request locator ticket cause fault).requests =
      relay.staged number (.finished
        (relay.broker.resume request.subscriber request.device locator fault ticket cause).2) := by
  simp only [wake, setStage, requests_hire, staged]

theorem decoder_session {relay : Relay} {session : Nat} {supervisor : Supervisor}
    (found : relay.decoder? session = some supervisor) : supervisor.session = session := by
  simpa using List.find?_some found

theorem moves (relay : Relay) (action : Action) :
    Moves relay action (relay.step action).broker (relay.step action).requests := by
  have idle (action : Action) : Moves relay action relay.broker relay.requests :=
    .post action relay.broker.mailboxes fun _ _ closed => closed
  -- A client does something with its own mailbox.
  have update (action : Action) (client : SubscriberId) {change : Mailbox → Mailbox}
      (closes : ∀ box, box.isClosed = true → (change box).isClosed = true) :
      Moves relay action (relay.updateMailbox client change).broker relay.requests :=
    .post action _ fun _ _ closed => Mailboxes.isClosed_update _ _ _ closes closed
  cases action with
  | register device source =>
    simp only [step]
    split <;> exact idle _
  | unregister device =>
    simp only [step]
    split <;> exact idle _
  | subscribe =>
    refine .post _ _ fun client known closed => ?_
    have apart : (handle client).mailbox ≠ (handle (relay.subscribers + 1)).mailbox :=
      Nat.ne_of_lt (Nat.lt_succ_of_le known)
    simpa only [Mailboxes.isClosed, Mailboxes.get?_set_of_ne _ apart] using closed
  | ask subscriber device => exact .ask subscriber device
  | resolve number =>
    simp only [step]
    split
    · next found =>
      split
      · next stage =>
        simp only [resolve]
        split
        · exact .resolve _ found stage
        · exact .refuse _ found stage
      · exact idle _
    · exact idle _
  | enter number fault =>
    simp only [step]
    split
    · next found =>
      split
      · next stage =>
        rw [broker_enter, requests_enter]
        exact .enter found stage
      · exact idle _
    · exact idle _
  | wake number cause fault =>
    simp only [step]
    split
    · next found =>
      split
      · next stage =>
        split
        · exact idle _
        · next due =>
          rw [broker_wake, requests_wake]
          refine .wake found stage fun settled untold => due ?_
          simp [settled, untold]
      · exact idle _
    · exact idle _
  | abandon number =>
    simp only [step]
    split
    · next found =>
      simp only [abandon]
      split
      · next stage => exact .abandon found stage
      · next stage => exact .withdraw found (.inl stage)
      · next stage => exact .withdraw found (.inr ⟨_, stage⟩)
      · exact idle _
      · exact idle _
    · exact idle _
  | stop subscriber device => exact .stop subscriber device
  | disconnect subscriber => exact .disconnect subscriber
  | shutdown => exact .shutdown
  | receive subscriber count => exact update _ subscriber fun _ closed => closed
  | closeMailbox subscriber => exact update _ subscriber fun box => box.isClosed_close
  | dropMailbox subscriber => exact update _ subscriber fun _ _ => rfl
  | observe session observation =>
    simp only [step]
    split
    · split <;> exact idle _
    · exact idle _
  | report session =>
    simp only [step]
    split
    · next supervisor found =>
      split
      · next report _ =>
        refine .report supervisor.device supervisor.session report (.inl ?_)
        rw [decoder_session found]
      · exact idle _
    · exact idle _
  | notice device session report => exact .report device session report (.inr rfl)
  | complain subscriber message =>
    refine .post _ _ fun client _ closed => ?_
    have same := relay.broker.mailboxes.isClosed_deliver (handle client) (.error none message)
      (handle subscriber)
    exact same.trans closed

/-- The operations of admission that an action other than a shutdown has at its disposal. -/
def Touches (relay : Relay) : Action → Operation → Prop
  | .enter number _, operation =>
    ∃ request, relay.request? number = some request ∧
      Enters request.subscriber.id (relay.broker.mailboxes.isClosed request.subscriber) operation
  | .wake number _ _, operation =>
    ∃ request locator ticket, relay.request? number = some request ∧
      request.stage = .waiting locator ticket ∧ Resumes ticket operation
  | .abandon number, operation =>
    ∃ request locator ticket, relay.request? number = some request ∧
      request.stage = .waiting locator ticket ∧ operation = .abandon ticket
  | .disconnect subscriber, operation => Leaves subscriber operation
  | _, operation => Releases operation

/-- Slots and line change by operations at the disposal of an action, unless it is a shutdown. -/
theorem evolves_step (relay : Relay) {action : Action} (goesOn : action ≠ .shutdown) :
    Broker.Evolves (relay.Touches action) relay.broker (relay.step action).broker := by
  have moved := relay.moves action
  generalize (relay.step action).broker = next, (relay.step action).requests = requests at moved ⊢
  cases moved with
  | post => exact .same rfl rfl
  | ask => exact .same rfl rfl
  | resolve => exact .same rfl rfl
  | refuse => exact .same rfl rfl
  | enter found stage =>
    exact (Broker.evolves_enter ..).mono fun _ kind => ⟨_, found, kind⟩
  | wake found stage due =>
    exact (Broker.evolves_resume ..).mono fun _ kind => ⟨_, _, _, found, stage, kind⟩
  | abandon found stage =>
    have abandons : relay.Touches (.abandon _) (.abandon _) := ⟨_, _, _, found, stage, rfl⟩
    exact .act abandons rfl rfl
  | withdraw => exact .same rfl rfl
  | stop subscriber device => exact Broker.evolves_detach ..
  | disconnect subscriber => exact Broker.evolves_disconnect ..
  | shutdown => exact absurd rfl goesOn
  | report device session report kind =>
    rcases kind with rfl | rfl <;> exact Broker.evolves_report ..

/-! ### Runs -/

theorem subscribers_hire (relay before : Relay) (device : Device) (fault : Option SystemFault) :
    (relay.hire before device fault).subscribers = relay.subscribers := by
  simp only [hire]
  split <;> rfl

theorem subscribers_le_step (relay : Relay) (action : Action) :
    relay.subscribers ≤ (relay.step action).subscribers := by
  cases action with
  | subscribe => exact Nat.le_succ _
  | register => simp only [step]; split <;> exact Nat.le_refl _
  | unregister => simp only [step]; split <;> exact Nat.le_refl _
  | resolve =>
    simp only [step, resolve]
    repeat' split
    all_goals exact Nat.le_refl _
  | enter =>
    simp only [step, enter]
    repeat' split
    all_goals simp [setStage, subscribers_hire]
  | wake =>
    simp only [step, wake]
    repeat' split
    all_goals simp [setStage, subscribers_hire]
  | abandon =>
    simp only [step, abandon]
    repeat' split
    all_goals exact Nat.le_refl _
  | observe =>
    simp only [step]
    repeat' split
    all_goals exact Nat.le_refl _
  | report =>
    simp only [step]
    repeat' split
    all_goals exact Nat.le_refl _
  | _ => exact Nat.le_refl _

theorem subscribers_le_run (relay : Relay) (actions : List Action) :
    relay.subscribers ≤ (relay.run actions).subscribers := by
  induction actions generalizing relay with
  | nil => exact Nat.le_refl _
  | cons action rest ih =>
    exact Nat.le_trans (subscribers_le_step relay action) (ih (relay.step action))

theorem run_append (relay : Relay) (first second : List Action) :
    relay.run (first ++ second) = (relay.run first).run second :=
  List.foldl_append

theorem history_step (relay : Relay) (action : Action) :
    Evolves (fun _ => True) relay.broker.admission (relay.step action).broker.admission := by
  by_cases shut : action = .shutdown
  · obtain rfl := shut
    have cancelled : Evolves (fun _ => True) relay.broker.admission
        relay.broker.cancelled.admission := ⟨[.cancelAll], fun _ _ => trivial, rfl⟩
    exact cancelled.trans ((Broker.evolves_close relay.broker).admission.mono fun _ _ => trivial)
  · exact (evolves_step relay shut).admission.mono fun _ _ => trivial

theorem history_run (relay : Relay) (actions : List Action) :
    Evolves (fun _ => True) relay.broker.admission (relay.run actions).broker.admission := by
  induction actions generalizing relay with
  | nil => exact .refl _
  | cons action rest ih => exact (history_step relay action).trans (ih (relay.step action))

end Relay

end CameraRelay
