import CameraRelay.Proofs.Broker.Answers
import CameraRelay.Proofs.Relay.Waiting

/-!
# Every outcome reaches the client, but for one

A start request that finishes while its client stays and listens ends with one event in the client's
mailbox, which tells of its outcome. The exception is a request that a shutdown finds in line: it is
cancelled there, fails when it is woken, and its client is told nothing. A request whose slot was
granted before the shutdown, or that comes later, is told that the relay shuts down.
-/

namespace CameraRelay

theorem Event.isFrame_ofOutcome (device : Device) (outcome : Outcome) :
    (Event.ofOutcome device outcome).isFrame = false := by
  cases outcome <;> rfl

namespace Relay

/-- What a waiting request comes to when it is woken: nothing is told if everything was cancelled
while it was in line. -/
theorem Stands.resume {broker : Broker} {client : SubscriberId} {device : Device} {locator : String}
    {fault : Option SystemFault} {shut : Prop} {ticket : TicketId} {cause : Broker.Wake}
    (h : Stands broker client shut (.waiting locator ticket))
    (due : cause = .settled → broker.admission.settlement? ticket ≠ none)
    (listens : ¬ broker.mailboxes.isClosed (handle client) = true) :
    let result := broker.resume (handle client) device locator fault ticket cause
    (shut → result.2 = .error (.admissionCancelled device) ∧
      result.1.mailboxes = broker.mailboxes) ∧
    (¬ shut → broker.Tells (handle client) device result) := by
  intro result
  obtain ⟨chronicle, faithful, standing, cancelled, revoked⟩ := h
  have polled (settlement : Settlement) : (broker.admission.poll ticket).2 = some settlement ↔
      ∃ fate, (ticket, fate) ∈ chronicle.left ∧ fate.settlement? = some settlement := by
    rw [faithful.poll_eq_some]
    simp [standing.held, standing.unread]
  have read {settlement : Settlement}
      (told : (broker.admission.poll ticket).2 = some settlement) :
      (broker.readSettlement ticket).2 = settlement := by
    simp [Broker.readSettlement, told]
  let woken := broker.wake (handle client) device locator fault ticket cause
  have outcome : result.2 = woken.2 := rfl
  have mailboxes : result.1.mailboxes = woken.1.mailboxes := rfl
  constructor
  · intro before
    have fate := cancelled.mpr before
    have gone : ticket ∉ broker.admission.line := fun waits =>
      faithful.not_gone waits (Chronicle.mem_gone.mpr ⟨_, fate⟩)
    have silent : woken =
        ((broker.readSettlement ticket).1, .error (.admissionCancelled device)) := by
      show broker.wake (handle client) device locator fault ticket cause = _
      rw [Broker.wake_of_gone gone, read ((polled _).mpr ⟨_, fate, rfl⟩)]
      rfl
    rw [outcome, mailboxes, silent]
    exact ⟨rfl, rfl⟩
  · intro unshut
    show broker.Tells (handle client) device
      (broker.wake (handle client) device locator fault ticket cause)
    by_cases waits : ticket ∈ broker.admission.line
    · cases cause with
      | settled =>
        -- Nothing was settled for a request that is still in line.
        obtain ⟨settlement, told⟩ := Option.ne_none_iff_exists'.mp (due rfl)
        obtain ⟨fate, left, _⟩ := (polled settlement).mp told
        exact absurd (Chronicle.mem_gone.mpr ⟨fate, left⟩) (faithful.not_gone waits)
      | deadline =>
        rw [Broker.wake_of_line waits]
        rfl
    · have issued := faithful.waiters ticket standing.held
      rcases faithful.waits_or_left standing.positive issued with ⟨waits', _⟩ | ⟨_, fate, left, _⟩
      · exact absurd waits' waits
      · rcases standing.fate fate left with rfl | rfl
        · rw [Broker.wake_of_gone waits, read ((polled _).mpr ⟨_, left, rfl⟩)]
          refine Broker.tells_granted (broker.readSettlement ticket).1 listens ?_
          by_cases taken : ticket ∈ chronicle.revoked
          · exact .inr (revoked taken)
          · exact .inl ((faithful.claim_eq_true ticket).mpr ⟨left, standing.unclaimed, taken⟩)
        · exact absurd (cancelled.mp left) unshut

def outcome? (relay : Relay) (number : Nat) : Option Outcome :=
  match relay.request? number with
  | some { stage := .finished outcome, .. } => some outcome
  | _ => none

theorem outcome?_eq_some {relay : Relay} {number : Nat} {request : Request} {outcome : Outcome}
    (found : relay.request? number = some request) :
    relay.outcome? number = some outcome ↔ request.stage = .finished outcome := by
  obtain ⟨subscriber, device, stage⟩ := request
  simp only [outcome?, found]
  cases stage <;> simp

inductive Finishes (relay : Relay) (request : Request) (outcome : Outcome) : Broker → Prop
  | refuse {failure : Failure} (stage : request.stage = .asked) (eq : outcome = .error failure) :
    Finishes relay request outcome
      (relay.broker.told request.subscriber (.error (some request.device) failure.clientText))
  | enter {locator : String} {fault : Option SystemFault}
    (stage : request.stage = .resolved locator)
    (eq : (relay.broker.enter request.subscriber request.device locator fault).2 =
      .finished outcome) :
    Finishes relay request outcome
      (relay.broker.enter request.subscriber request.device locator fault).1
  | wake {locator : String} {ticket : TicketId} {cause : Broker.Wake} {fault : Option SystemFault}
    (stage : request.stage = .waiting locator ticket)
    (due : cause = .settled → relay.broker.admission.settlement? ticket ≠ none)
    (eq : outcome =
      (relay.broker.resume request.subscriber request.device locator fault ticket cause).2) :
    Finishes relay request outcome
      (relay.broker.resume request.subscriber request.device locator fault ticket cause).1

theorem finishes {relay : Relay} {number : Nat} {request : Request} {outcome : Outcome}
    {action : Action} (found : relay.request? number = some request)
    (pending : relay.outcome? number = none)
    (finished : (relay.step action).outcome? number = some outcome) :
    Finishes relay request outcome (relay.step action).broker := by
  have moved := relay.moves action
  -- A request that stays as it is does not finish.
  have stays (still : (relay.step action).request? number = some request) : False := by
    rw [outcome?_eq_some still, ← outcome?_eq_some found, pending] at finished
    cases finished
  generalize (relay.step action).broker = next,
    requests : (relay.step action).requests = after at moved ⊢
  have same (eq : after = relay.requests) : Finishes relay request outcome next := by
    refine (stays ?_).elim
    rw [request?_congr (requests.trans eq)]
    exact found
  -- If some request comes to another stage it is this one, and it finishes.
  have moves {other : Nat} {request' : Request} {reached : Stage}
      (found' : relay.request? other = some request') (eq : after = relay.staged other reached) :
      request' = request ∧ reached = .finished outcome := by
    have look := request?_staged found' (requests.trans eq) number
    by_cases here : number = other
    · rw [if_pos here] at look
      rw [outcome?_eq_some look] at finished
      rw [here] at found
      exact ⟨Option.some.inj (found'.symm.trans found), finished⟩
    · rw [if_neg here] at look
      exact (stays (look.trans found)).elim
  cases moved with
  | post => exact same rfl
  | ask subscriber device =>
    have known := number_le found
    refine (stays ?_).elim
    rw [request?_asked requests, if_neg (by omega)]
    exact found
  | resolve source found' => cases (moves found' rfl).2
  | refuse failure found' stage =>
    obtain ⟨rfl, eq⟩ := moves found' rfl
    exact .refuse stage (Stage.finished.inj eq).symm
  | @enter other fault request' locator found' stage =>
    obtain ⟨rfl, eq⟩ := moves found' rfl
    refine .enter stage ?_
    cases entered :
        (relay.broker.enter request'.subscriber request'.device locator fault).2 with
    | finished outcome' =>
      rw [entered] at eq
      rw [Stage.finished.inj eq]
    | waiting ticket =>
      rw [entered] at eq
      cases eq
  | wake found' stage due =>
    obtain ⟨rfl, eq⟩ := moves found' rfl
    exact .wake stage due (Stage.finished.inj eq).symm
  | abandon found' => cases (moves found' rfl).2
  | withdraw found' => cases (moves found' rfl).2
  | stop => exact same rfl
  | disconnect => exact same rfl
  | shutdown => exact same rfl
  | report => exact same rfl

/-- A request that finishes while its client listens tells of its outcome, unless everything was
cancelled while it was in line. -/
theorem Follows.finish {relay : Relay} {number : Nat} {client : SubscriberId} {device : Device}
    {shut : Prop} {outcome : Outcome} {action : Action}
    (h : relay.Follows number client device shut)
    (listens : ¬ relay.broker.mailboxes.isClosed (handle client) = true)
    (pending : relay.outcome? number = none)
    (finished : (relay.step action).outcome? number = some outcome) :
    (shut → outcome = .error (.admissionCancelled device) ∧
      (relay.step action).broker.mailboxes = relay.broker.mailboxes) ∧
    (¬ shut → relay.broker.Tells (handle client) device ((relay.step action).broker, outcome)) := by
  obtain ⟨stage, found, stands⟩ := h.request
  have last := finishes found pending finished
  generalize (relay.step action).broker = next at last ⊢
  cases last with
  | refuse asked eq =>
    obtain rfl : stage = .asked := asked
    obtain rfl := eq
    exact ⟨fun before => absurd before stands, fun _ => rfl⟩
  | enter resolved eq =>
    obtain rfl : stage = .resolved _ := resolved
    exact ⟨fun before => absurd before stands, fun _ => Broker.tells_enter listens eq⟩
  | wake waits due eq =>
    obtain rfl : stage = .waiting _ _ := waits
    obtain rfl := eq
    exact stands.resume due listens

def room (relay : Relay) (client : SubscriberId) : Nat :=
  ((relay.broker.mailboxes.get? (handle client).mailbox).map (·.free)).getD 0

def listens (relay : Relay) (client : SubscriberId) : Bool :=
  !relay.broker.mailboxes.isClosed (handle client)

theorem events_of_told {before after : Relay} {client : SubscriberId} {event : Event}
    (told : after.broker.mailboxes = (before.broker.mailboxes.deliver (handle client) event).1)
    (control : event.isFrame = false) (listens : before.listens client = true)
    (room : 0 < before.room client) : after.events client = before.events client ++ [event] := by
  cases found : before.broker.mailboxes.get? (handle client).mailbox with
  | none => simp [Relay.room, found] at room
  | some box =>
    have free : 0 < box.free := by simpa [Relay.room, found] using room
    have opened : ¬ box.isClosed = true := by
      simpa [Relay.listens, Mailboxes.isClosed, found] using listens
    have put := Mailboxes.get?_deliver found control opened free
    simp [events, told, put, found]

/-- A shutdown among some actions finds a request in line. -/
def ShutInLine (relay : Relay) (actions : List Action) (number : Nat) : Prop :=
  ∃ earlier later, actions = earlier ++ .shutdown :: later ∧ (relay.run earlier).InLine number

theorem shutInLine_cons (relay : Relay) (action : Action) (rest : List Action) (number : Nat) :
    relay.ShutInLine (action :: rest) number ↔
      (action = .shutdown ∧ relay.InLine number) ∨ (relay.step action).ShutInLine rest number := by
  constructor
  · intro holds
    obtain ⟨earlier, later, split, waits⟩ := holds
    cases earlier with
    | nil => exact .inl ⟨(List.cons.inj split).1, waits⟩
    | cons first earlier =>
      obtain ⟨rfl, rfl⟩ := List.cons.inj split
      exact .inr ⟨earlier, later, rfl, waits⟩
  · intro either
    rcases either with ⟨rfl, waits⟩ | ⟨earlier, later, rfl, waits⟩
    · exact ⟨[], rest, rfl, waits⟩
    · exact ⟨action :: earlier, later, rfl, waits⟩

theorem Follows.run {relay : Relay} {number : Nat} {client : SubscriberId} {device : Device}
    {shut : Prop} (h : relay.Follows number client device shut) (actions : List Action)
    (stays : ∀ action ∈ actions, action ≠ .disconnect client)
    (listens : ∀ count ≤ actions.length, (relay.run (actions.take count)).listens client = true) :
    (relay.run actions).Follows number client device (shut ∨ relay.ShutInLine actions number) := by
  induction actions generalizing relay shut with
  | nil =>
    have never : ¬ relay.ShutInLine [] number := by
      intro holds
      obtain ⟨earlier, later, split, _⟩ := holds
      simp at split
    rwa [eq_false never, or_false]
  | cons action rest ih =>
    have now : (relay.step action).Follows number client device
        (shut ∨ (action = .shutdown ∧ relay.InLine number)) := by
      by_cases shutdown : action = .shutdown
      · obtain rfl := shutdown
        simpa using h.shutdown
      · have opened : relay.listens client = true := listens 0 (Nat.zero_le _)
        simpa [shutdown] using
          h.step shutdown (stays action (by simp)) (by simpa [Relay.listens] using opened)
    rw [shutInLine_cons, ← or_assoc]
    exact ih now (fun action mem => stays action (List.mem_cons_of_mem _ mem))
      fun count bound => listens (count + 1) (Nat.succ_le_succ bound)

/-- The relay when a client has just asked for a device, whatever happened before. -/
def asking (settings : RelaySettings) (past : List Action) (client : SubscriberId)
    (device : Device) : Relay :=
  ((new settings).run past).step (.ask client device)

theorem follows_asking (settings : RelaySettings) (past : List Action) (client : SubscriberId)
    (device : Device) :
    (asking settings past client device).Follows
      (asking settings past client device).requests.length client device False where
  orderly := ((Orderly.new settings).run past).step _
  accounted := by
    have start : (new settings).broker.admission.Accounted := ⟨{}, .new settings.maxStreams⟩
    exact (history_step _ _).accounted ((history_run _ past).accounted start)
  request := by
    refine ⟨.asked, ?_, id⟩
    have last : (asking settings past client device).requests.length =
        ((new settings).run past).requests.length + 1 := by
      simp [asking, step]
    rw [last, asking, request?_asked rfl, if_pos rfl]

section

variable (settings : RelaySettings) (past during : List Action) (client : SubscriberId)
  (device : Device) (last : Action) (outcome : Outcome)

/-- A client asks for a device, stays and listens until the request finishes. Its mailbox then ends
with the event that tells of the outcome, unless a shutdown found the request in line: then the
request fails as cancelled and nothing is put into the mailbox. -/
theorem outcome_told
    (stays : ∀ action ∈ during, action ≠ .disconnect client)
    (listens : ∀ count ≤ during.length,
      ((asking settings past client device).run (during.take count)).listens client = true)
    (room : 0 < ((asking settings past client device).run during).room client)
    (pending : ((asking settings past client device).run during).outcome?
      (asking settings past client device).requests.length = none)
    (finished : (((asking settings past client device).run during).step last).outcome?
      (asking settings past client device).requests.length = some outcome) :
    let asked := asking settings past client device
    let before := asked.run during
    let after := before.step last
    (asked.ShutInLine during asked.requests.length →
      outcome = .error (.admissionCancelled device) ∧
        after.events client = before.events client) ∧
    (¬ asked.ShutInLine during asked.requests.length →
      after.events client = before.events client ++ [.ofOutcome device outcome]) := by
  intro asked before after
  have follows : before.Follows asked.requests.length client device
      (False ∨ asked.ShutInLine during asked.requests.length) :=
    (follows_asking settings past client device).run during stays listens
  rw [false_or] at follows
  have opened : before.listens client = true := by
    have opened := listens during.length (Nat.le_refl _)
    rwa [List.take_length] at opened
  obtain ⟨silent, told⟩ := follows.finish (by simpa [Relay.listens] using opened) pending finished
  refine ⟨fun shut => ?_, fun unshut => ?_⟩
  · obtain ⟨eq, mailboxes⟩ := silent shut
    refine ⟨eq, ?_⟩
    simp only [events, after, mailboxes]
  · exact events_of_told (told unshut) (Event.isFrame_ofOutcome device outcome) opened room

end

/-- Two clients, of whom the first watches its camera. -/
def oneWatches : List Action :=
  [.register ⟨"cam-1"⟩ { locator := "rtsp://127.0.0.1:554/cam-1" },
   .register ⟨"cam-2"⟩ { locator := "rtsp://127.0.0.1:554/cam-2" },
   .subscribe, .subscribe, .ask 1 ⟨"cam-1"⟩, .resolve 1, .enter 1 none]

/-- There is one slot, and the second client has just asked for another camera. -/
def rivals : Relay := asking { maxStreams := 1 } oneWatches 2 ⟨"cam-2"⟩

/-- A slot that is given back comes to the client that waits, and it is told so. After a shutdown it
is told nothing. -/
theorem outcome_told_rivals :
    (rivals.run [.resolve 2, .enter 2 none, .stop 1 ⟨"cam-1"⟩, .wake 2 .settled none]).events 2 =
        [.queued ⟨"cam-2"⟩ 1, .started ⟨"cam-2"⟩] ∧
      (rivals.run [.resolve 2, .enter 2 none, .shutdown, .wake 2 .settled none]).events 2 =
        [.queued ⟨"cam-2"⟩ 1] := by
  constructor
  · have told := outcome_told { maxStreams := 1 } oneWatches
      [.resolve 2, .enter 2 none, .stop 1 ⟨"cam-1"⟩] 2 ⟨"cam-2"⟩ (.wake 2 .settled none) (.ok ())
      (by simp) (by decide) (by decide) rfl rfl
    refine told.2 ?_
    intro holds
    obtain ⟨earlier, later, split, _⟩ := holds
    have mem : Action.shutdown ∈ [Action.resolve 2, .enter 2 none, .stop 1 ⟨"cam-1"⟩] := by
      rw [split]
      simp
    simp at mem
  · have silent := outcome_told { maxStreams := 1 } oneWatches
      [.resolve 2, .enter 2 none, .shutdown] 2 ⟨"cam-2"⟩ (.wake 2 .settled none)
      (.error (.admissionCancelled ⟨"cam-2"⟩)) (by simp) (by decide) (by decide) rfl rfl
    refine (silent.1 ?_).2
    exact ⟨[.resolve 2, .enter 2 none], [], rfl, 1, ⟨_, _, rfl, rfl⟩, by decide⟩

/-- A shutdown finds the second client in line: its request fails, and though it stays and listens
with room in its mailbox all the time, no error that names its device is ever put there. -/
theorem silent_at_shutdown :
    (∀ count ≤ 4,
      let now := rivals.run
        ([.resolve 2, .enter 2 none, .shutdown, .wake 2 .settled none].take count)
      now.listens 2 = true ∧ 0 < now.room 2 ∧
        (now.events 2).any (Event.answersTo ⟨"cam-2"⟩ (.error (.admissionCancelled ⟨"cam-2"⟩))) =
          false) ∧
      (rivals.run [.resolve 2, .enter 2 none, .shutdown, .wake 2 .settled none]).outcome? 2 =
        some (.error (.admissionCancelled ⟨"cam-2"⟩)) :=
  ⟨by decide, rfl⟩

end Relay

end CameraRelay
