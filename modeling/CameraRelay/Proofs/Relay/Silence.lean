import CameraRelay.Proofs.Relay.Deadline
import CameraRelay.Proofs.Relay.Shutdown

/-!
# Requests of a client that left

A client that leaves takes its requests out of the line and loses its grants. Nobody else can undo
that, so when such a request goes on it ends as cancelled and its client is told nothing. There is
one exception: a request whose grant was revoked takes a shutdown that comes before it goes on for
the reason, and then its client is told. Main statement: `silent_after_disconnect`.
-/

namespace CameraRelay

open Admission (Operation)

namespace Standing

variable {chronicle : Chronicle} {admission : Admission} {ticket : TicketId}
  {requester : SubscriberId}

theorem mem_granted_iff (h : Standing chronicle admission ticket requester)
    (faithful : Faithful chronicle admission) :
    ticket ∈ admission.granted.map (·.1) ↔
      (ticket, .granted) ∈ chronicle.left ∧ ticket ∉ chronicle.revoked := by
  rw [faithful.grants, List.mem_filter, Chronicle.mem_granted, decide_eq_true_eq]
  constructor
  · intro holds
    exact ⟨holds.1, holds.2.2⟩
  · intro holds
    exact ⟨holds.1, h.unclaimed, holds.2⟩

/-- A ticket is in line or holds a grant until it is cancelled or its grant is revoked. -/
theorem pending_iff (h : Standing chronicle admission ticket requester)
    (faithful : Faithful chronicle admission) :
    ticket ∈ admission.line ∨ ticket ∈ admission.granted.map (·.1) ↔
      (ticket, .cancelled) ∉ chronicle.left ∧ ticket ∉ chronicle.revoked := by
  rw [h.mem_granted_iff faithful]
  constructor
  · intro either
    rcases either with waits | ⟨granted, kept⟩
    · have stays := faithful.not_gone waits
      exact ⟨fun left => stays (Chronicle.mem_gone.mpr ⟨_, left⟩),
        fun revoked => stays (faithful.revoked _ revoked)⟩
    · refine ⟨fun cancelled => ?_, kept⟩
      cases faithful.fate_unique granted cancelled
  · intro holds
    obtain ⟨uncancelled, kept⟩ := holds
    have issued := faithful.waiters ticket h.held
    rcases faithful.waits_or_left h.positive issued with ⟨waits, _⟩ | ⟨_, fate, left, _⟩
    · exact .inl waits
    · rcases h.fate fate left with rfl | rfl
      · exact .inr ⟨left, kept⟩
      · exact absurd left uncancelled

end Standing

namespace Admission

/-- A ticket has left the line and is of no use: it was cancelled, or its grant was revoked. Its
waiter holds it and has not looked yet. -/
def Withdrawn (admission : Admission) (ticket : TicketId) (fate : Fate) : Prop :=
  ∃ chronicle requester, Faithful chronicle admission ∧
    Standing chronicle admission ticket requester ∧ (ticket, fate) ∈ chronicle.left ∧
      (fate = .granted → ticket ∈ chronicle.revoked)

namespace Withdrawn

variable {admission after : Admission} {ticket : TicketId} {fate : Fate}

theorem act (h : admission.Withdrawn ticket fate) {operation : Operation}
    (foreign : ¬ operation.OfWaiter ticket) :
    (admission.act operation).1.Withdrawn ticket fate := by
  obtain ⟨chronicle, requester, faithful, standing, left, revoked⟩ := h
  refine ⟨_, requester, faithful.act operation, standing.act faithful foreign, ?_,
    fun granted => ?_⟩
  · rw [Chronicle.left_append]
    exact List.mem_append_left _ left
  · rw [Chronicle.revoked_append]
    exact List.mem_append_left _ (revoked granted)

theorem evolves (h : admission.Withdrawn ticket fate)
    (evolves : Evolves (fun operation => ¬ operation.OfWaiter ticket) admission after) :
    after.Withdrawn ticket fate :=
  evolves.keeps (·.Withdrawn ticket fate) (fun _ _ foreign withdrawn => withdrawn.act foreign) h

theorem not_inLine (h : admission.Withdrawn ticket fate) : ticket ∉ admission.line := by
  obtain ⟨chronicle, _, faithful, _, left, _⟩ := h
  exact fun waits => faithful.not_gone waits (Chronicle.mem_gone.mpr ⟨fate, left⟩)

theorem fate_eq (h : admission.Withdrawn ticket fate) : fate = .granted ∨ fate = .cancelled := by
  obtain ⟨_, _, _, standing, left, _⟩ := h
  exact standing.fate fate left

theorem settlement_eq (h : admission.Withdrawn ticket fate) :
    admission.settlement? ticket = fate.settlement? := by
  obtain ⟨_, _, faithful, standing, left, _⟩ := h
  exact standing.settlement_of_left faithful left

theorem unclaimed (h : admission.Withdrawn ticket .granted) :
    (admission.claim ticket).2 = false := by
  obtain ⟨chronicle, _, faithful, _, _, revoked⟩ := h
  refine Bool.eq_false_iff.mpr fun claimed => ?_
  exact ((faithful.claim_eq_true ticket).mp claimed).2.2 (revoked rfl)

end Withdrawn

/-- A client that is cancelled loses a ticket that is in line or granted. -/
theorem withdrawn_cancelRequester {chronicle : Chronicle} {admission : Admission}
    {ticket : TicketId} {requester : SubscriberId} (faithful : Faithful chronicle admission)
    (standing : Standing chronicle admission ticket requester)
    (pending : ticket ∈ admission.line ∨ ticket ∈ admission.granted.map (·.1)) :
    ∃ fate, (admission.cancelRequester requester).1.Withdrawn ticket fate ∧
      (ticket ∈ admission.granted.map (·.1) → fate = .granted) := by
  have foreign : ¬ (Operation.cancelRequester requester).OfWaiter ticket := by
    simp [Operation.OfWaiter]
  have after := faithful.act (.cancelRequester requester)
  have standing' := standing.act faithful foreign
  by_cases waits : ticket ∈ admission.line
  · obtain ⟨entry, mem, same⟩ := List.mem_map.mp waits
    have own := standing.belongs.entries entry mem same
    have departs :
        (ticket, Fate.cancelled) ∈ admission.departures (.cancelRequester requester) := by
      refine List.mem_append_left _ (List.mem_map.mpr ⟨entry, ?_, by rw [same]⟩)
      exact List.mem_filter.mpr ⟨mem, by simpa using own⟩
    refine ⟨.cancelled, ⟨_, requester, after, standing', ?_, fun eq => by cases eq⟩,
      fun granted => absurd (faithful.gone_of_granted granted) (faithful.not_gone waits)⟩
    rw [Chronicle.left_append]
    exact List.mem_append_right _ departs
  · have granted := pending.resolve_left waits
    obtain ⟨grant, mem, same⟩ := List.mem_map.mp granted
    have own := standing.belongs.grants grant mem same
    refine ⟨.granted, ⟨_, requester, after, standing', ?_, fun _ => ?_⟩, fun _ => rfl⟩
    · rw [Chronicle.left_append]
      exact List.mem_append_left _ (faithful.granted_of_mem granted)
    · rw [Chronicle.revoked_append, List.mem_append]
      refine .inr ((revoked_events ..).mpr ⟨requester, ?_, .inl rfl⟩)
      rwa [← own, ← same]

end Admission

namespace Broker

variable {broker : Broker} {subscriber : Subscriber} {device : Device} {locator : String}
  {fault : Option SystemFault} {ticket : TicketId}

/-- The sessions that a client leaves may hand their slots to its own requests; those grants are
revoked as well. -/
theorem withdrawn_disconnect {client : SubscriberId}
    (attended : broker.admission.AttendedBy ticket client)
    (pending : ticket ∈ broker.admission.line ∨ ticket ∈ broker.admission.granted.map (·.1)) :
    ∃ fate, (broker.disconnect client).admission.Withdrawn ticket fate ∧
      (ticket ∈ broker.admission.granted.map (·.1) → fate = .granted) := by
  obtain ⟨chronicle, faithful, standing⟩ := attended
  obtain ⟨operations, kinds, eq⟩ :=
    (evolves_foldl_detach broker client (broker.roster.devicesOf client)).admission
  obtain ⟨standing', cancelled, revoked⟩ := standing.spared faithful
    fun operation mem => Relay.spares_of_releases operation (kinds operation mem)
  have faithful' := faithful.run operations
  rw [eq] at standing' faithful'
  have still := (standing.pending_iff faithful).mp pending
  rw [← cancelled, ← revoked] at still
  obtain ⟨fate, withdrawn, keeps⟩ :=
    Admission.withdrawn_cancelRequester faithful' standing'
      ((standing'.pending_iff faithful').mpr still)
  refine ⟨fate, withdrawn, fun granted => keeps ?_⟩
  refine (standing'.mem_granted_iff faithful').mpr ⟨?_, still.2⟩
  rw [Chronicle.left_append]
  exact List.mem_append_left _ (faithful.granted_of_mem granted)

theorem settled_of_revoked (unclaimed : (broker.admission.claim ticket).2 = false) :
    let claimed := { broker with admission := (broker.admission.claim ticket).1 }
    broker.settled subscriber device locator fault ticket .granted =
      if broker.closed then claimed.refuse subscriber device .shuttingDown
      else (claimed, .error (.admissionCancelled device)) := by
  simp only [settled, unclaimed, Bool.not_false, if_true]

/-- Why a grant is missing is told from whether the broker is closed now. -/
theorem resume_of_withdrawn {fate : Fate} (h : broker.admission.Withdrawn ticket fate)
    (subscriber : Subscriber) (device : Device) (locator : String) (fault : Option SystemFault)
    (cause : Wake) :
    let result := broker.resume subscriber device locator fault ticket cause
    (¬ (fate = .granted ∧ broker.closed = true) →
      result.2 = .error (.admissionCancelled device) ∧
        result.1.mailboxes = broker.mailboxes) ∧
    (fate = .granted ∧ broker.closed = true →
      result.2 = .error .shuttingDown ∧
        result.1.mailboxes =
          (broker.mailboxes.deliver subscriber
            (.error (some device) Failure.shuttingDown.clientText)).1) := by
  intro result
  have read : (broker.readSettlement ticket).2 = fate.settlement?.getD .cancelled := by
    show (broker.admission.settlement? ticket).getD .cancelled = _
    rw [h.settlement_eq]
  let looked := (broker.readSettlement ticket).1
  have woken : broker.wake subscriber device locator fault ticket cause =
      looked.settled subscriber device locator fault ticket (fate.settlement?.getD .cancelled) := by
    rw [wake_of_gone h.not_inLine, read]
  have outcome : result.2 = (broker.wake subscriber device locator fault ticket cause).2 := rfl
  have mailboxes : result.1.mailboxes =
      (broker.wake subscriber device locator fault ticket cause).1.mailboxes := rfl
  rw [outcome, mailboxes, woken]
  rcases h.fate_eq with rfl | rfl
  · have unclaimed : (looked.admission.claim ticket).2 = false := h.unclaimed
    let claimed := { looked with admission := (looked.admission.claim ticket).1 }
    have missing : looked.settled subscriber device locator fault ticket .granted =
        if broker.closed then claimed.refuse subscriber device .shuttingDown
        else (claimed, .error (.admissionCancelled device)) := settled_of_revoked unclaimed
    simp only [Fate.settlement?, Option.getD_some, missing]
    by_cases closed : broker.closed = true
    · rw [if_pos closed]
      exact ⟨fun spared => absurd ⟨trivial, closed⟩ spared, fun _ => ⟨rfl, rfl⟩⟩
    · rw [if_neg closed]
      exact ⟨fun _ => ⟨rfl, rfl⟩, fun both => absurd both.2 closed⟩
  · exact ⟨fun _ => ⟨rfl, rfl⟩, fun both => by cases both.1⟩

end Broker

/-- A request goes on from its wait, or is given up. -/
def Action.EndsWait (action : Action) (number : Nat) : Prop :=
  action = .abandon number ∨ ∃ cause fault, action = .wake number cause fault

namespace Relay

variable {relay : Relay} {number : Nat} {request : Request} {locator : String} {ticket : TicketId}

theorem request?_of_idle {action : Action} (found : relay.request? number = some request)
    (stage : request.stage = .waiting locator ticket) (idle : ¬ action.EndsWait number) :
    (relay.step action).request? number = some request := by
  have moved := relay.moves action
  generalize (relay.step action).broker = next,
    requests : (relay.step action).requests = after at moved
  have same (eq : after = relay.requests) :
      (relay.step action).request? number = some request := by
    rwa [request?_congr (requests.trans eq)]
  -- Another request comes to another stage.
  have apart {other : Nat} {request' : Request} {reached : Stage}
      (found' : relay.request? other = some request') (eq : after = relay.staged other reached)
      (differs : number ≠ other) : (relay.step action).request? number = some request := by
    rwa [request?_staged found' (requests.trans eq), if_neg differs]
  -- A request that does not wait is another one.
  have unlike {other : Nat} {request' : Request} (found' : relay.request? other = some request')
      (busy : request'.stage ≠ .waiting locator ticket) : number ≠ other := by
    rintro rfl
    rw [found] at found'
    obtain rfl := Option.some.inj found'
    exact busy stage
  cases moved with
  | post => exact same rfl
  | ask =>
    have known := number_le found
    rwa [request?_asked requests, if_neg (by omega)]
  | resolve source found' stage' => exact apart found' rfl (unlike found' (by simp [stage']))
  | refuse failure found' stage' => exact apart found' rfl (unlike found' (by simp [stage']))
  | enter found' stage' => exact apart found' rfl (unlike found' (by simp [stage']))
  | @wake other cause fault request' locator' ticket' found' =>
    exact apart found' rfl fun here => idle (.inr ⟨cause, fault, by rw [here]⟩)
  | @abandon other request' locator' ticket' found' =>
    exact apart found' rfl fun here => idle (.inl (by rw [here]))
  | @withdraw other request' found' stage' =>
    exact apart found' rfl fun here => idle (.inl (by rw [here]))
  | stop => exact same rfl
  | disconnect => exact same rfl
  | shutdown => exact same rfl
  | report => exact same rfl

/-- Whatever others do, a ticket that is of no use any more stays so. -/
theorem withdrawn_run {fate : Fate} (orderly : relay.Orderly)
    (found : relay.request? number = some request)
    (stage : request.stage = .waiting locator ticket)
    (withdrawn : relay.broker.admission.Withdrawn ticket fate) (actions : List Action)
    (idle : ∀ action ∈ actions, ¬ action.EndsWait number) :
    (relay.run actions).request? number = some request ∧
      (relay.run actions).broker.admission.Withdrawn ticket fate := by
  induction actions generalizing relay with
  | nil => exact ⟨found, withdrawn⟩
  | cons action rest ih =>
    have found' := request?_of_idle found stage (idle action (by simp))
    refine ih (orderly.step action) found' ?_ fun other mem =>
      idle other (List.mem_cons_of_mem _ mem)
    rcases waits_origin orderly found' stage with ⟨_, foreign⟩ | ⟨_, resolved, _⟩
    · exact withdrawn.evolves foreign
    · -- It waited before, so it was not told to wait just now.
      rw [found] at resolved
      have differs := congrArg Request.stage (Option.some.inj resolved)
      rw [stage] at differs
      cases differs

theorem closed_step (action : Action) :
    (relay.step action).broker.closed = true ↔ relay.broker.closed = true ∨ action = .shutdown := by
  by_cases shut : action = .shutdown
  · rw [shut]
    exact iff_of_true relay.broker.evolves_close.closed (.inr rfl)
  · rw [(relay.evolves_step shut).closed]
    exact (or_iff_left shut).symm

theorem closed_run (actions : List Action) :
    (relay.run actions).broker.closed = true ↔
      relay.broker.closed = true ∨ .shutdown ∈ actions := by
  induction actions generalizing relay with
  | nil => simp [run]
  | cons action rest ih =>
    show ((relay.step action).run rest).broker.closed = true ↔ _
    rw [ih, closed_step, List.mem_cons, or_assoc]
    simp only [eq_comm]

/-- Nobody is in line or holds a grant after a shutdown. -/
theorem open_of_pending (settings : RelaySettings) (actions : List Action) :
    let broker := ((new settings).run actions).broker
    ticket ∈ broker.admission.line ∨ ticket ∈ broker.admission.granted.map (·.1) →
      ¬ broker.closed = true := by
  intro broker pending closed
  have shut : Action.shutdown ∈ actions := by
    refine ((closed_run actions).mp closed).resolve_left fun already => ?_
    cases already
  obtain ⟨earlier, later, rfl⟩ := List.append_of_mem shut
  have balanced : ((new settings).run earlier).broker.Balanced 0 :=
    balanced_run (Broker.balanced_new settings) earlier
  have closing : (((new settings).run earlier).step .shutdown).broker.Shut :=
    Broker.shut_close balanced
  have shutDown : broker.Shut := by
    have stretches := run_append (new settings) earlier (.shutdown :: later)
    show ((new settings).run _).broker.Shut
    rw [stretches]
    exact (shut_run closing later).1
  rcases pending with waits | granted
  · simp [Admission.line, shutDown.queue] at waits
  · simp [shutDown.granted] at granted

/-- Over every run: a client leaves while a request of its own is in line or holds a grant. When the
request goes on next, whatever others did in between, it ends as cancelled and nobody is told
anything, unless its grant was revoked and there was a shutdown in between: then it ends with the
shutdown for its reason, and the client that left is told so. -/
theorem silent_after_disconnect (settings : RelaySettings) (past between : List Action)
    (client : SubscriberId) (number : Nat) (request : Request) (locator : String)
    (ticket : TicketId) (cause : Broker.Wake) (fault : Option SystemFault)
    (found : ((new settings).run past).request? number = some request)
    (own : request.subscriber.id = client) (stage : request.stage = .waiting locator ticket)
    (pending : ticket ∈ ((new settings).run past).broker.admission.line ∨
      ticket ∈ ((new settings).run past).broker.admission.granted.map (·.1))
    (idle : ∀ action ∈ between, ¬ action.EndsWait number) :
    let before := (new settings).run past
    let left := before.step (.disconnect client)
    let relay := left.run between
    let after := relay.step (.wake number cause fault)
    let revoked := left.broker.admission.settlement? ticket = some .granted
    (ticket ∈ before.broker.admission.granted.map (·.1) → revoked) ∧
    (¬ (revoked ∧ .shutdown ∈ between) →
      after.outcome? number = some (.error (.admissionCancelled request.device)) ∧
      after.broker.mailboxes = relay.broker.mailboxes) ∧
    (revoked ∧ .shutdown ∈ between →
      after.outcome? number = some (.error .shuttingDown) ∧
      after.broker.mailboxes =
        (relay.broker.mailboxes.deliver request.subscriber
          (.error (some request.device) Failure.shuttingDown.clientText)).1) := by
  intro before left relay after revoked
  have attended := owned_new settings past number request locator ticket found stage
  rw [own] at attended
  obtain ⟨fate, away, granted⟩ := Broker.withdrawn_disconnect attended pending
  have withdrawn : left.broker.admission.Withdrawn ticket fate := away
  have known : revoked ↔ fate = .granted := by
    show left.broker.admission.settlement? ticket = some .granted ↔ _
    rw [withdrawn.settlement_eq]
    rcases withdrawn.fate_eq with rfl | rfl <;> simp [Fate.settlement?]
  have closed : relay.broker.closed = true ↔ .shutdown ∈ between := by
    have opened : ¬ before.broker.closed = true := open_of_pending settings past pending
    have same : left.broker.closed = before.broker.closed :=
      (before.broker.evolves_disconnect client).closed
    rw [closed_run, same, or_iff_right opened]
  have orderly : left.Orderly := ((Orderly.new settings).run past).step _
  obtain ⟨found', useless⟩ := withdrawn_run orderly found stage withdrawn between idle
  have told : relay.broker.admission.settlement? ticket ≠ none := by
    rw [useless.settlement_eq]
    rcases useless.fate_eq with rfl | rfl <;> simp [Fate.settlement?]
  have woken : after = relay.wake number request locator ticket cause fault :=
    step_of_told found' stage told cause fault
  let result :=
    relay.broker.resume request.subscriber request.device locator fault ticket cause
  have outcome (last : Outcome) (eq : result.2 = last) : after.outcome? number = some last := by
    rw [woken, outcome?_staged found' (requests_wake ..)]
    exact congrArg Stage.finished eq
  have mailboxes : after.broker.mailboxes = result.1.mailboxes := by
    rw [woken, broker_wake]
  obtain ⟨silent, informed⟩ := Broker.resume_of_withdrawn useless request.subscriber request.device
    locator fault cause
  rw [closed, ← known] at silent informed
  refine ⟨fun held => known.mpr (granted held), fun quiet => ?_, fun shut => ?_⟩
  · obtain ⟨ended, unchanged⟩ := silent quiet
    exact ⟨outcome _ ended, mailboxes.trans unchanged⟩
  · obtain ⟨ended, delivered⟩ := informed shut
    exact ⟨outcome _ ended, mailboxes.trans delivered⟩

/-- There is one slot. The first client watches its camera, and the second is in line for it. -/
def oneWaits : List Action :=
  oneWatches ++ [.ask 2 ⟨"cam-2"⟩, .resolve 2, .enter 2 none]

theorem silent_after_disconnect_inLine :
    let left := ((new { maxStreams := 1 }).run oneWaits).step (.disconnect 2)
    let relay := left.run [.stop 1 ⟨"cam-1"⟩, .shutdown]
    let after := relay.step (.wake 2 .settled none)
    left.broker.admission.settlement? 1 = some .cancelled ∧
      after.outcome? 2 = some (.error (.admissionCancelled ⟨"cam-2"⟩)) ∧
      after.broker.mailboxes = relay.broker.mailboxes := by
  intro left relay after
  have told : left.broker.admission.settlement? 1 = some .cancelled := by decide
  obtain ⟨_, silent, _⟩ := silent_after_disconnect { maxStreams := 1 } oneWaits
    [.stop 1 ⟨"cam-1"⟩, .shutdown] 2 2
    { subscriber := handle 2, device := ⟨"cam-2"⟩,
      stage := .waiting "rtsp://127.0.0.1:554/cam-2" 1 }
    "rtsp://127.0.0.1:554/cam-2" 1 .settled none rfl rfl rfl (by decide)
    (by simp [Action.EndsWait])
  refine ⟨told, silent fun both => ?_⟩
  cases told.symm.trans both.1

/-- The second client is granted the slot and leaves before its request goes on. The grant is revoked,
and after a shutdown the request still tells the client that left. -/
theorem told_after_disconnect :
    let before := (new { maxStreams := 1 }).run (oneWaits ++ [.stop 1 ⟨"cam-1"⟩])
    let left := before.step (.disconnect 2)
    let after := (left.step .shutdown).step (.wake 2 .settled none)
    before.broker.admission.granted = [(1, 2)] ∧ before.Waits 2 1 ∧
      left.broker.admission.granted = [] ∧
      after.outcome? 2 = some (.error .shuttingDown) ∧
      after.events 2 =
        left.events 2 ++ [.error (some ⟨"cam-2"⟩) Failure.shuttingDown.clientText] :=
  ⟨by decide, ⟨_, _, rfl, rfl⟩, by decide, rfl, by decide⟩

end Relay

end CameraRelay
