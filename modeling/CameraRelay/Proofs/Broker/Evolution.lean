import CameraRelay.Broker
import CameraRelay.Proofs.Admission.Slots
import CameraRelay.Proofs.Mailboxes

/-!
# What the broker does to admission

Whatever the broker does, its slots and its line change by operations of admission only, and each
step of the broker has but a few kinds of them at its disposal. So what every history of admission
keeps holds in every state of the broker.
-/

namespace CameraRelay

namespace Admission

/-- Admission changes from one state to another by operations of some kind. -/
def Evolves (allowed : Operation → Prop) (before after : Admission) : Prop :=
  ∃ operations, (∀ operation ∈ operations, allowed operation) ∧ before.run operations = after

namespace Evolves

variable {allowed other : Operation → Prop} {first second third : Admission}

theorem refl (admission : Admission) : Evolves allowed admission admission :=
  ⟨[], by simp, rfl⟩

theorem trans (h : Evolves allowed first second) (h' : Evolves allowed second third) :
    Evolves allowed first third := by
  obtain ⟨operations, kinds, rfl⟩ := h
  obtain ⟨operations', kinds', rfl⟩ := h'
  refine ⟨operations ++ operations', fun operation mem => ?_, run_append ..⟩
  exact (List.mem_append.mp mem).elim (kinds operation) (kinds' operation)

theorem mono (h : Evolves allowed first second) (wider : ∀ operation, allowed operation →
    other operation) : Evolves other first second := by
  obtain ⟨operations, kinds, eq⟩ := h
  exact ⟨operations, fun operation mem => wider operation (kinds operation mem), eq⟩

theorem act {operation : Operation} (kind : allowed operation) (admission : Admission) :
    Evolves allowed admission (admission.act operation).1 :=
  ⟨[operation], by simpa using kind, rfl⟩

theorem keeps (h : Evolves allowed first second) (P : Admission → Prop)
    (step : ∀ admission operation, allowed operation → P admission →
      P (admission.act operation).1) (start : P first) : P second := by
  obtain ⟨operations, kinds, rfl⟩ := h
  induction operations generalizing first with
  | nil => exact start
  | cons operation rest ih =>
    exact ih (step first operation (kinds operation (by simp)) start)
      fun operation mem => kinds operation (List.mem_cons_of_mem _ mem)

end Evolves

def Accounted (admission : Admission) : Prop := ∃ chronicle, Faithful chronicle admission

theorem Evolves.accounted {allowed : Operation → Prop} {before after : Admission}
    (h : Evolves allowed before after) (start : before.Accounted) : after.Accounted :=
  h.keeps Accounted (fun _ operation _ ⟨_, faithful⟩ => ⟨_, faithful.act operation⟩) start

def Releases (operation : Operation) : Prop := operation = .release

/-- A subscriber asks, and its requests are cancelled if nobody listens. -/
def Enters (subscriber : SubscriberId) (deaf : Bool) (operation : Operation) : Prop :=
  operation = .release ∨ (∃ device sessionExists,
    operation = .request device subscriber sessionExists) ∨
      (deaf = true ∧ operation = .cancelRequester subscriber)

/-- The waiter of a ticket takes up what became of it. -/
def Resumes (ticket : TicketId) (operation : Operation) : Prop :=
  operation = .release ∨ operation = .claim ticket ∨ operation = .expire ticket ∨
    operation = .poll ticket ∨ operation = .abandon ticket

def Leaves (subscriber : SubscriberId) (operation : Operation) : Prop :=
  operation = .release ∨ operation = .cancelRequester subscriber

end Admission

namespace Broker

open Admission (Releases Enters Resumes Leaves)

/-- A broker changes from one state to another: admission by operations of some kind, and nothing is
opened or closed. -/
structure Evolves (allowed : Admission.Operation → Prop) (before after : Broker) : Prop where
  admission : Admission.Evolves allowed before.admission after.admission
  closed : after.closed = before.closed

namespace Evolves

variable {allowed other : Admission.Operation → Prop} {first second third : Broker}

theorem same (admission : second.admission = first.admission)
    (closed : second.closed = first.closed) : Evolves allowed first second where
  admission := by
    rw [admission]
    exact .refl _
  closed := closed

theorem trans (h : Evolves allowed first second) (h' : Evolves allowed second third) :
    Evolves allowed first third :=
  ⟨h.admission.trans h'.admission, h'.closed.trans h.closed⟩

theorem mono (h : Evolves allowed first second)
    (wider : ∀ operation, allowed operation → other operation) : Evolves other first second :=
  ⟨h.admission.mono wider, h.closed⟩

theorem act {operation : Admission.Operation} (kind : allowed operation)
    (admission : second.admission = (first.admission.act operation).1)
    (closed : second.closed = first.closed) : Evolves allowed first second where
  admission := by
    rw [admission]
    exact .act kind _
  closed := closed

end Evolves

variable (broker : Broker) (subscriber : Subscriber) (device : Device) (locator : String)
  (fault : Option SystemFault)

/-! ### Sessions -/

theorem conclude_fst (session : Session) (reason : Teardown) :
    ∃ mailboxes, (broker.conclude session reason).1 = { broker with mailboxes } := by
  cases reason with
  | stop => exact ⟨broker.mailboxes, rfl⟩
  | exit exit => cases exit <;> exact ⟨_, rfl⟩
  | spawnFailed message => exact ⟨_, rfl⟩

theorem teardown_of_none (reason : Teardown) (none : broker.roster.get? device = none) :
    broker.teardown device reason = broker := by
  simp only [teardown, none]

theorem teardown_of_some {session : Session} (reason : Teardown)
    (found : broker.roster.get? device = some session) :
    ∃ mailboxes departed, broker.teardown device reason =
      { broker with
        roster := broker.roster.remove device
        admission := broker.admission.release.1
        mailboxes, departed } := by
  obtain ⟨mailboxes, eq⟩ :=
    conclude_fst { broker with roster := broker.roster.remove device } session reason
  simp only [teardown, found, eq]
  exact ⟨_, _, rfl⟩

theorem evolves_release : Evolves Releases broker broker.release := by
  have released : Releases .release := rfl
  exact .act released rfl rfl

theorem evolves_teardown (reason : Teardown) :
    Evolves Releases broker (broker.teardown device reason) := by
  cases found : broker.roster.get? device with
  | none =>
    rw [teardown_of_none broker device reason found]
    exact .same rfl rfl
  | some session =>
    obtain ⟨mailboxes, departed, eq⟩ := teardown_of_some broker device reason found
    rw [eq]
    exact (evolves_release broker).trans (.same rfl rfl)

theorem evolves_detach (leaver : SubscriberId) :
    Evolves Releases broker (broker.detach leaver device) := by
  simp only [detach]
  split
  · exact .same rfl rfl
  · next session _ =>
    let left := { broker with roster := broker.roster.put (session.detach leaver).1 }
    have detached : Evolves Releases broker left := .same rfl rfl
    split
    · exact .same rfl rfl
    · split
      · exact detached.trans (evolves_teardown left device .stop)
      · exact detached

def told (event : Event) : Broker :=
  { broker with mailboxes := (broker.mailboxes.deliver subscriber event).1 }

/-- Who is told that it watches a device is detached from it if it does not listen. -/
theorem confirmStarted_eq :
    broker.confirmStarted subscriber device =
      if broker.mailboxes.isClosed subscriber then
        ((broker.told subscriber (.started device)).detach subscriber.id device,
          .error (.delivery subscriber.id))
      else (broker.told subscriber (.started device), .ok ()) := by
  have closed := broker.mailboxes.deliver_eq_closed subscriber (.started device)
  simp only [confirmStarted, deliver, told]
  cases delivery : (broker.mailboxes.deliver subscriber (.started device)).2 <;>
    simp [← closed, delivery]

theorem evolves_confirmStarted :
    Evolves Releases broker (broker.confirmStarted subscriber device).1 := by
  have told : Evolves Releases broker (broker.told subscriber (.started device)) := .same rfl rfl
  rw [confirmStarted_eq]
  split
  · exact told.trans (evolves_detach _ device subscriber.id)
  · exact told

theorem evolves_join :
    Evolves Releases broker (broker.join subscriber device).1 := by
  simp only [join]
  split
  · exact .same rfl rfl
  · next session _ =>
    let joined := { broker with roster := broker.roster.put (session.attach subscriber).1 }
    have attached : Evolves Releases broker joined := .same rfl rfl
    exact attached.trans (evolves_confirmStarted joined subscriber device)

def firstSession : Session :=
  { id := broker.roster.created + 1, device, locator : Session }.attach subscriber |>.1

def grown : Roster where
  sessions := broker.roster.sessions ++ [{ id := broker.roster.created + 1, device, locator }]
  created := broker.roster.created + 1

def opened : Broker :=
  { broker with
    roster := (broker.grown device locator).put (broker.firstSession subscriber device locator) }

def started : Broker :=
  { broker.opened subscriber device locator with
    roster := (broker.opened subscriber device locator).roster.put
      (broker.firstSession subscriber device locator).setDecoder }

section

variable {broker device}

theorem openSession_of_session (session : broker.roster.contains device = true) :
    broker.openSession subscriber device locator fault =
      broker.release.join subscriber device := by
  rw [openSession, Roster.create, if_pos session]

theorem create_of_alone (alone : ¬ broker.roster.contains device = true) :
    broker.roster.create device locator =
      .ok (broker.grown device locator, { id := broker.roster.created + 1, device, locator }) := by
  rw [Roster.create, if_neg alone]
  rfl

theorem openSession_of_start (alone : ¬ broker.roster.contains device = true) :
    broker.openSession subscriber device locator none =
      (broker.started subscriber device locator).confirmStarted subscriber device := by
  rw [openSession, create_of_alone locator alone]
  rfl

theorem openSession_of_fault (fault : SystemFault)
    (alone : ¬ broker.roster.contains device = true) :
    broker.openSession subscriber device locator (some fault) =
      ((broker.opened subscriber device locator).teardown device
          (.spawnFailed (Failure.processSpawn device fault).clientText),
        .error (.processSpawn device fault)) := by
  rw [openSession, create_of_alone locator alone]
  rfl

end

theorem evolves_openSession :
    Evolves Releases broker (broker.openSession subscriber device locator fault).1 := by
  by_cases session : broker.roster.contains device = true
  · rw [openSession_of_session subscriber locator fault session]
    exact (evolves_release broker).trans (evolves_join broker.release subscriber device)
  cases fault with
  | none =>
    rw [openSession_of_start subscriber locator session]
    have started : Evolves Releases broker (broker.started subscriber device locator) :=
      .same rfl rfl
    exact started.trans (evolves_confirmStarted _ subscriber device)
  | some fault =>
    rw [openSession_of_fault subscriber locator fault session]
    have opened : Evolves Releases broker (broker.opened subscriber device locator) :=
      .same rfl rfl
    let reason := Teardown.spawnFailed (Failure.processSpawn device fault).clientText
    exact opened.trans (evolves_teardown (broker.opened subscriber device locator) device reason)

/-! ### Requests -/

def taken : Broker :=
  { broker with admission := { broker.admission with active := broker.admission.active + 1 } }

def queued : Broker :=
  { broker with admission := broker.admission.prune.enqueue device subscriber.id }

def placed : Broker :=
  (broker.queued subscriber device).told subscriber
    (.queued device (broker.queued subscriber device).admission.queue.length)

section

variable {broker subscriber device locator fault}

theorem request_of_session (session : broker.roster.contains device = true) :
    broker.admission.request device subscriber.id (broker.roster.contains device) =
      (broker.admission, .join) := by
  rw [Admission.request, if_pos session]

theorem request_of_free (alone : ¬ broker.roster.contains device = true)
    (free : broker.admission.active < broker.admission.capacity) :
    broker.admission.request device subscriber.id (broker.roster.contains device) =
      (broker.taken.admission, .create) := by
  rw [Admission.request, if_neg alone, if_pos free]
  rfl

theorem request_of_full (alone : ¬ broker.roster.contains device = true)
    (full : ¬ broker.admission.active < broker.admission.capacity) :
    broker.admission.request device subscriber.id (broker.roster.contains device) =
      ((broker.queued subscriber device).admission,
        .queued (broker.admission.issued + 1)
          (broker.queued subscriber device).admission.queue.length) := by
  rw [Admission.request, if_neg alone, if_neg full]
  rfl

theorem enter_of_closed (closed : broker.closed = true) :
    broker.enter subscriber device locator fault =
      (broker.told subscriber (.error (some device) Failure.shuttingDown.clientText),
        .finished (.error .shuttingDown)) := by
  rw [enter, if_pos closed]
  rfl

theorem enter_of_session (opened : ¬ broker.closed = true)
    (session : broker.roster.contains device = true) :
    broker.enter subscriber device locator fault =
      ((broker.join subscriber device).1, .finished (broker.join subscriber device).2) := by
  rw [enter, if_neg opened, request_of_session session]

theorem enter_of_free (opened : ¬ broker.closed = true)
    (alone : ¬ broker.roster.contains device = true)
    (free : broker.admission.active < broker.admission.capacity) :
    broker.enter subscriber device locator fault =
      ((broker.taken.openSession subscriber device locator fault).1,
        .finished (broker.taken.openSession subscriber device locator fault).2) := by
  rw [enter, if_neg opened, request_of_free alone free]
  rfl

theorem enter_of_full (opened : ¬ broker.closed = true)
    (alone : ¬ broker.roster.contains device = true)
    (full : ¬ broker.admission.active < broker.admission.capacity) :
    broker.enter subscriber device locator fault =
      (if broker.mailboxes.isClosed subscriber then
        { broker.placed subscriber device with
          admission :=
            ((broker.placed subscriber device).admission.cancelRequester subscriber.id).1 }
      else broker.placed subscriber device, .waiting (broker.admission.issued + 1)) := by
  have closed := broker.mailboxes.deliver_eq_closed subscriber
    (.queued device (broker.queued subscriber device).admission.queue.length)
  rw [enter, if_neg opened, request_of_full alone full]
  dsimp only
  split
  · next left eq =>
    have same : broker.placed subscriber device = left := congrArg Prod.fst eq
    rw [if_pos (closed.mp (congrArg Prod.snd eq)), same]
  · next left delivery other eq =>
    have same : broker.placed subscriber device = left := congrArg Prod.fst eq
    have listens : ¬ broker.mailboxes.isClosed subscriber = true := fun deaf =>
      other ((congrArg Prod.snd eq).symm.trans (closed.mpr deaf))
    rw [if_neg listens, same]

end

def requested : Broker :=
  { broker with
    admission :=
      (broker.admission.request device subscriber.id (broker.roster.contains device)).1 }

theorem evolves_requested (deaf : Bool) :
    Evolves (Enters subscriber.id deaf) broker (broker.requested subscriber device) := by
  have asks : Enters subscriber.id deaf
      (.request device subscriber.id (broker.roster.contains device)) :=
    .inr (.inl ⟨device, broker.roster.contains device, rfl⟩)
  exact .act asks rfl rfl

theorem evolves_enter :
    Evolves (Enters subscriber.id (broker.mailboxes.isClosed subscriber)) broker
      (broker.enter subscriber device locator fault).1 := by
  have asked := evolves_requested broker subscriber device (broker.mailboxes.isClosed subscriber)
  by_cases closed : broker.closed = true
  · rw [enter_of_closed closed]
    exact .same rfl rfl
  by_cases session : broker.roster.contains device = true
  · rw [enter_of_session closed session]
    exact (evolves_join broker subscriber device).mono fun _ => .inl
  by_cases free : broker.admission.active < broker.admission.capacity
  · rw [enter_of_free closed session free]
    rw [requested, request_of_free session free] at asked
    exact asked.trans
      ((evolves_openSession broker.taken subscriber device locator fault).mono fun _ => .inl)
  · rw [enter_of_full closed session free]
    rw [requested, request_of_full session free] at asked
    have waits : Evolves (Enters subscriber.id (broker.mailboxes.isClosed subscriber)) broker
        (broker.placed subscriber device) := asked.trans (.same rfl rfl)
    split
    · next deaf =>
      have cancels : Enters subscriber.id (broker.mailboxes.isClosed subscriber)
          (.cancelRequester subscriber.id) := .inr (.inr ⟨deaf, rfl⟩)
      exact waits.trans (.act cancels rfl rfl)
    · exact waits

section

variable {broker subscriber device locator fault}

/-- Who is told to wait has the latest ticket and stands at the end of the line. -/
theorem enter_waiting {ticket : TicketId}
    (waits : (broker.enter subscriber device locator fault).2 = .waiting ticket) :
    ticket = broker.admission.issued + 1 ∧
      (broker.enter subscriber device locator fault).1.admission.issued = ticket ∧
      (¬ broker.mailboxes.isClosed subscriber = true →
        (broker.enter subscriber device locator fault).1 = broker.placed subscriber device ∧
          (broker.placed subscriber device).admission =
            (broker.admission.act (.request device subscriber.id false)).1) := by
  by_cases closed : broker.closed = true
  · rw [enter_of_closed closed] at waits
    cases waits
  by_cases session : broker.roster.contains device = true
  · rw [enter_of_session closed session] at waits
    cases waits
  by_cases free : broker.admission.active < broker.admission.capacity
  · rw [enter_of_free closed session free] at waits
    cases waits
  have asked : (broker.placed subscriber device).admission =
      (broker.admission.act (.request device subscriber.id false)).1 := by
    simp only [Admission.act, Admission.request, if_neg free]
    rfl
  rw [enter_of_full closed session free] at waits ⊢
  obtain rfl := Entered.waiting.inj waits
  refine ⟨rfl, ?_, fun listens => ⟨if_neg listens, asked⟩⟩
  split
  · exact (Admission.frame_cancelRequester _ _).issued
  · rfl

end

/-! ### Waiters -/

/-- A grant that is taken up is claimed; after that slots are only given back. -/
theorem evolves_granted (ticket : TicketId) :
    Evolves Releases { broker with admission := (broker.admission.claim ticket).1 }
      (broker.settled subscriber device locator fault ticket .granted).1 := by
  let claimed := { broker with admission := (broker.admission.claim ticket).1 }
  have released : Evolves Releases claimed claimed.release := evolves_release claimed
  simp only [settled]
  split
  · split <;> exact .same rfl rfl
  · split
    · exact released.trans (.same rfl rfl)
    · split
      · exact released
      · split
        · exact released.trans (evolves_join claimed.release subscriber device)
        · exact evolves_openSession claimed subscriber device locator fault

theorem evolves_settled (ticket : TicketId) (settlement : Settlement) :
    Evolves (Resumes ticket) broker
      (broker.settled subscriber device locator fault ticket settlement).1 := by
  cases settlement with
  | cancelled => exact .same rfl rfl
  | granted =>
    have claims : Resumes ticket (.claim ticket) := .inr (.inl rfl)
    have taken : Evolves (Resumes ticket) broker
        { broker with admission := (broker.admission.claim ticket).1 } := .act claims rfl rfl
    exact taken.trans
      ((evolves_granted broker subscriber device locator fault ticket).mono fun _ => .inl)

theorem evolves_readSettlement (ticket : TicketId) :
    Evolves (Resumes ticket) broker (broker.readSettlement ticket).1 := by
  have polls : Resumes ticket (.poll ticket) := .inr (.inr (.inr (.inl rfl)))
  exact .act polls rfl rfl

theorem evolves_wake (ticket : TicketId) (cause : Wake) :
    Evolves (Resumes ticket) broker
      (broker.wake subscriber device locator fault ticket cause).1 := by
  cases cause with
  | settled =>
    exact (evolves_readSettlement broker ticket).trans (evolves_settled ..)
  | deadline =>
    have expires : Resumes ticket (.expire ticket) := .inr (.inr (.inl rfl))
    have expired : Evolves (Resumes ticket) broker
        { broker with admission := (broker.admission.expire ticket).1 } := .act expires rfl rfl
    simp only [wake]
    split
    · next eq =>
      rw [eq] at expired
      exact expired.trans (.same rfl rfl)
    · next admission eq =>
      rw [eq] at expired
      have read := evolves_readSettlement { broker with admission } ticket
      exact expired.trans (read.trans (evolves_settled ..))

theorem evolves_resume (ticket : TicketId) (cause : Wake) :
    Evolves (Resumes ticket) broker
      (broker.resume subscriber device locator fault ticket cause).1 := by
  have abandons : Resumes ticket (.abandon ticket) := .inr (.inr (.inr (.inr rfl)))
  exact (evolves_wake broker subscriber device locator fault ticket cause).trans
    (.act abandons rfl rfl)

/-! ### Everything else -/

def shown (session : Session) (frame : Frame) : Broker :=
  let (session, mailboxes, outcome) := session.broadcast broker.mailboxes frame
  { broker with
    roster := broker.roster.put session
    mailboxes
    framesDelivered := broker.framesDelivered + outcome.delivered
    framesDropped := broker.framesDropped + outcome.dropped }

theorem evolves_report (id : Nat) (report : Report) :
    Evolves Releases broker (broker.report device id report).1 := by
  cases report with
  | bytes count =>
    simp only [Broker.report, recordBytes]
    split <;> exact .same rfl rfl
  | frame frame =>
    simp only [Broker.report, deliverFrame]
    split
    · exact .same rfl rfl
    · next session _ =>
      have shown : Evolves Releases broker (broker.shown session frame) := .same rfl rfl
      split
      · exact shown.trans (evolves_teardown _ device .stop)
      · exact shown
  | exit exit =>
    simp only [Broker.report, decoderExited]
    split
    · exact .same rfl rfl
    · exact evolves_teardown broker device (.exit exit)

theorem evolves_foldl_detach (leaver : SubscriberId) (devices : List Device) :
    Evolves Releases broker (devices.foldl (·.detach leaver ·) broker) :=
  List.foldlRecOn _ _ (.same rfl rfl) fun current h device _ =>
    h.trans (evolves_detach current device leaver)

theorem evolves_disconnect (leaver : SubscriberId) :
    Evolves (Leaves leaver) broker (broker.disconnect leaver) := by
  have cancels : Leaves leaver (.cancelRequester leaver) := .inr rfl
  have left := evolves_foldl_detach broker leaver (broker.roster.devicesOf leaver)
  exact (left.mono fun _ => .inl).trans (.act cancels rfl rfl)

def cancelled : Broker :=
  { broker with closed := true, admission := broker.admission.cancelAll.1 }

/-- Everything is cancelled first; the sessions are torn down after that. -/
theorem evolves_close : Evolves Releases broker.cancelled broker.close :=
  List.foldlRecOn _ _ (.same rfl rfl) fun current h device _ =>
    h.trans (evolves_teardown current device .stop)

end Broker

end CameraRelay
