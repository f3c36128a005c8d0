import CameraRelay.Proofs.Broker.Closing
import CameraRelay.Proofs.Relay.Attended
import CameraRelay.Proofs.Relay.Requests
import CameraRelay.Proofs.Relay.Supervision

/-!
# A shutdown is final

After a shutdown no session comes any more, no decoder is started, no slot is held, nobody waits in
line, and no request finishes well, in whatever order requests, waiters and decoders go on. Main
statement: `shutdown_final`.
-/

namespace CameraRelay

namespace Relay

variable {relay : Relay}

theorem shut_step (h : relay.broker.Shut) (action : Action) :
    (relay.step action).broker.Shut ∧ (relay.step action).broker.roster = relay.broker.roster := by
  have moved := relay.moves action
  generalize (relay.step action).broker = next, (relay.step action).requests = requests at moved ⊢
  cases moved with
  | post => exact ⟨h.post _, rfl⟩
  | ask => exact ⟨h, rfl⟩
  | resolve => exact ⟨h, rfl⟩
  | refuse => exact ⟨h.told _, rfl⟩
  | enter =>
    rw [Broker.enter_of_closed h.closed]
    exact ⟨h.told _, rfl⟩
  | wake =>
    obtain ⟨shut, roster, _⟩ := h.resume _ _
    exact ⟨shut, roster⟩
  | abandon => exact ⟨h.abandon _, rfl⟩
  | withdraw => exact ⟨h, rfl⟩
  | stop =>
    rw [h.detach_eq]
    exact ⟨h, rfl⟩
  | disconnect => exact h.disconnect _
  | shutdown => exact h.close
  | report =>
    rw [h.report_eq]
    exact ⟨h, rfl⟩

theorem sessions_setDecoder (relay : Relay) (after : Supervisor) :
    (relay.setDecoder after).decoders.map (·.session) = relay.decoders.map (·.session) := by
  simp only [setDecoder, List.map_map]
  refine List.map_congr_left fun other _ => ?_
  by_cases same : other.session = after.session <;> simp [same]

/-- Where no session is created no supervisor is taken on. -/
theorem decoders_step (action : Action)
    (created : (relay.step action).broker.roster.created = relay.broker.roster.created) :
    (relay.step action).decoders.map (·.session) = relay.decoders.map (·.session) := by
  have tended := relay.tends action
  generalize (relay.step action).broker = next, (relay.step action).decoders = decoders
    at tended created ⊢
  cases tended with
  | age => rfl
  | host => simp [hired, hire, created]
  | observe => exact sessions_setDecoder ..
  | report => exact sessions_setDecoder ..
  | notice => rfl

theorem failed_of_shut (h : relay.broker.Shut) {request : Request} {outcome : Outcome}
    {next : Broker} (last : Finishes relay request outcome next) : outcome ≠ .ok () := by
  cases last with
  | refuse _ eq =>
    rw [eq]
    exact fun well => by cases well
  | enter _ eq =>
    rw [Broker.enter_of_closed h.closed] at eq
    rw [← Broker.Entered.finished.inj eq]
    exact fun well => by cases well
  | wake _ _ eq =>
    rw [eq]
    exact h.resume_ne_ok _ _

/-- A request that finished well had done so before the broker was closed. -/
theorem outcome?_of_shut (h : relay.broker.Shut) {action : Action} {number : Nat}
    (well : (relay.step action).outcome? number = some (.ok ())) :
    relay.outcome? number = some (.ok ()) := by
  cases finished : relay.outcome? number with
  | some outcome =>
    rw [outcome?_step finished action] at well
    exact well
  | none =>
    cases found : relay.request? number with
    | some request => exact absurd rfl (failed_of_shut h (finishes found finished well))
    | none =>
      -- The request is not there before the action, and has not begun if it is there after it.
      exfalso
      rcases relay.requests_step action with
        same | ⟨subscriber, device, _, asked⟩ | ⟨other, request', stage, found', _, moved⟩
      · simp [outcome?, request?_congr same, found] at well
      · have look := request?_asked asked number
        split at look
        · rw [outcome?_eq_some look] at well
          cases well
        · simp [outcome?, look, found] at well
      · have look := request?_staged found' moved number
        have apart : number ≠ other := by
          rintro rfl
          rw [found] at found'
          cases found'
        rw [if_neg apart] at look
        simp [outcome?, look, found] at well

theorem shut_run (h : relay.broker.Shut) (actions : List Action) :
    let next := relay.run actions
    next.broker.Shut ∧ next.broker.roster.created = relay.broker.roster.created ∧
      next.decoders.map (·.session) = relay.decoders.map (·.session) ∧
      ∀ number, next.outcome? number = some (.ok ()) → relay.outcome? number = some (.ok ()) := by
  induction actions generalizing relay with
  | nil => exact ⟨h, rfl, rfl, fun _ well => well⟩
  | cons action rest ih =>
    obtain ⟨now, roster⟩ := shut_step h action
    have created := congrArg Roster.created roster
    obtain ⟨shut, created', decoders, outcomes⟩ := ih now
    exact ⟨shut, created'.trans created, decoders.trans (decoders_step action created),
      fun number well => outcome?_of_shut h (outcomes number well)⟩

/-! ### Requests after a shutdown -/

theorem enter_shut (h : relay.broker.Shut) {number : Nat} {request : Request} {locator : String}
    (found : relay.request? number = some request) (stage : request.stage = .resolved locator)
    (fault : Option SystemFault) :
    (relay.step (.enter number fault)).outcome? number = some (.error .shuttingDown) := by
  have entered : relay.step (.enter number fault) = relay.enter number request locator fault := by
    simp only [step, found, stage]
  have requests := relay.requests_enter number request locator fault
  rw [Broker.enter_of_closed h.closed] at requests
  rw [entered, outcome?_staged found requests]
  rfl

theorem wake_shut (h : relay.broker.Shut) {number : Nat} {request : Request} {locator : String}
    {ticket : TicketId} (found : relay.request? number = some request)
    (stage : request.stage = .waiting locator ticket)
    (settled : relay.broker.admission.settlement? ticket ≠ none) (cause : Broker.Wake)
    (fault : Option SystemFault) :
    ∃ failure, (relay.step (.wake number cause fault)).outcome? number = some (.error failure) := by
  have woken : relay.step (.wake number cause fault) =
      relay.wake number request locator ticket cause fault := by
    simp only [step, found, stage]
    refine if_neg fun untold => settled ?_
    simpa using (Bool.and_eq_true_iff.mp untold).2
  have requests := relay.requests_wake number request locator ticket cause fault
  cases result : (relay.broker.resume request.subscriber request.device locator fault ticket
      cause).2 with
  | ok done => exact absurd result (h.resume_ne_ok _ _)
  | error failure =>
    rw [result] at requests
    exact ⟨failure, by rw [woken, outcome?_staged found requests]⟩

/-- However a run goes on after a shutdown: no session is there and none is created any more, nobody
is in line or holds a grant, no slot is held, and no supervisor is taken on. A request that finished
well did so before the shutdown. One whose first step comes later is refused, and one that still
waits was settled, so that it can be woken, and fails when it is woken. -/
theorem shutdown_final (settings : RelaySettings) (past later : List Action) :
    let before := (new settings).run past
    let relay := (new settings).run (past ++ .shutdown :: later)
    relay.broker.closed = true ∧
    relay.broker.roster.sessions = [] ∧
    relay.broker.roster.created = before.broker.roster.created ∧
    relay.broker.admission.queue = [] ∧
    relay.broker.admission.granted = [] ∧
    relay.broker.admission.active = 0 ∧
    relay.decoders.map (·.session) = before.decoders.map (·.session) ∧
    (∀ number, relay.outcome? number = some (.ok ()) →
      before.outcome? number = some (.ok ())) ∧
    (∀ number request locator fault, relay.request? number = some request →
      request.stage = .resolved locator →
      (relay.step (.enter number fault)).outcome? number = some (.error .shuttingDown)) ∧
    (∀ number request locator ticket, relay.request? number = some request →
      request.stage = .waiting locator ticket →
      relay.broker.admission.settlement? ticket ≠ none ∧
      ∀ cause fault, ∃ failure,
        (relay.step (.wake number cause fault)).outcome? number = some (.error failure)) := by
  intro before relay
  have stretches : relay = (before.step .shutdown).run later := by
    show (new settings).run _ = _
    rw [run_append]
    rfl
  have balanced : before.broker.Balanced 0 := balanced_run (Broker.balanced_new settings) past
  have ages : Broker.Ages (· = .stop) (fun _ => False) before.broker before.broker.close :=
    Broker.ages_close _
  have closing : (before.step .shutdown).broker.Shut := Broker.shut_close balanced
  obtain ⟨shut, created, decoders, outcomes⟩ := shut_run closing later
  rw [← stretches] at shut created decoders outcomes
  refine ⟨shut.closed, shut.sessions, created.trans (created_of_lives ages), shut.queue,
    shut.granted, shut.active, decoders, outcomes, fun number request locator fault found stage =>
      enter_shut shut found stage fault, fun number request locator ticket found stage => ?_⟩
  have gone : ticket ∉ relay.broker.admission.line := by simp [Admission.line, shut.queue]
  have attended : relay.Attended := attended_new settings _
  have settled := (attended number ticket ⟨request, locator, found, stage⟩).settled gone
  exact ⟨settled, wake_shut shut found stage settled⟩

end Relay

end CameraRelay
