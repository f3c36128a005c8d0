import CameraRelay.Proofs.Broker.Handover
import CameraRelay.Proofs.Relay.Attended
import CameraRelay.Proofs.Relay.Slots

/-!
# No slot is stranded

Every ticket that is held belongs to a request that waits, and as long as no waiting request is given
up every unclaimed grant belongs to a ticket that is held. So when nobody can go on, no grant is left
and every slot held is that of a session; and if somebody waits, all slots are.
-/

namespace CameraRelay

namespace Relay

variable {relay next : Relay}

theorem Waits.congr {number : Nat} {ticket : TicketId} (waits : relay.Waits number ticket)
    (same : next.requests = relay.requests) : next.Waits number ticket := by
  obtain ⟨request, locator, found, stage⟩ := waits
  exact ⟨request, locator, (request?_congr same number).trans found, stage⟩

theorem Waits.staged {number other : Nat} {ticket : TicketId} {request : Request} {stage : Stage}
    (waits : relay.Waits other ticket) (found : relay.request? number = some request)
    (requests : next.requests = relay.staged number stage)
    (apart : ∀ locator, request.stage ≠ .waiting locator ticket) : next.Waits other ticket := by
  obtain ⟨request', locator, found', stage'⟩ := waits
  refine ⟨request', locator, ?_, stage'⟩
  have differs : other ≠ number := by
    rintro rfl
    rw [found] at found'
    obtain rfl := Option.some.inj found'
    exact apart locator stage'
  rw [request?_staged found requests, if_neg differs]
  exact found'

/-- Every ticket that is held is held by a request that waits. -/
def Manned (relay : Relay) : Prop :=
  ∀ ticket ∈ relay.broker.admission.waiters, ∃ number, relay.Waits number ticket

theorem Manned.step (h : relay.Manned) (action : Action) : (relay.step action).Manned := by
  intro ticket held
  have moved := relay.moves action
  generalize (relay.step action).broker = broker,
    requests : (relay.step action).requests = after at moved held
  -- No request changes, and no ticket is new.
  have same (eq : after = relay.requests)
      (known : ticket ∈ relay.broker.admission.waiters) :
      ∃ number, (relay.step action).Waits number ticket := by
    obtain ⟨number, waits⟩ := h ticket known
    exact ⟨number, waits.congr (requests.trans eq)⟩
  -- A request that does not wait with this ticket comes to another stage.
  have moves {other : Nat} {request : Request} {stage : Stage}
      (found : relay.request? other = some request) (eq : after = relay.staged other stage)
      (apart : ∀ locator, request.stage ≠ .waiting locator ticket)
      (known : ticket ∈ relay.broker.admission.waiters) :
      ∃ number, (relay.step action).Waits number ticket := by
    obtain ⟨number, waits⟩ := h ticket known
    exact ⟨number, waits.staged found (requests.trans eq) apart⟩
  cases moved with
  | post => exact same rfl held
  | ask =>
    obtain ⟨number, request, locator, found, stage⟩ := h ticket held
    refine ⟨number, request, locator, ?_, stage⟩
    have known := number_le found
    rw [request?_asked requests, if_neg (by omega)]
    exact found
  | resolve source found stage => exact moves found rfl (by simp [stage]) held
  | refuse failure found stage => exact moves found rfl (by simp [stage]) held
  | @enter number fault request locator found stage =>
    rcases Broker.mem_waiters_enter held with known | placed
    · exact moves found rfl (by simp [stage]) known
    · refine ⟨number, { request with stage := .waiting locator ticket }, locator, ?_, rfl⟩
      rw [request?_staged found requests, if_pos rfl, placed]
      rfl
  | wake found stage =>
    obtain ⟨woken, differs⟩ := List.mem_filter.mp held
    have known := (Broker.evolves_wake ..).admission.waiters_subset
      (fun _ _ => Broker.silent_of_resumes) woken
    refine moves found rfl (fun locator eq => ?_) known
    rw [stage] at eq
    obtain ⟨_, rfl⟩ := Stage.waiting.inj eq
    simp at differs
  | abandon found stage =>
    obtain ⟨known, differs⟩ := List.mem_filter.mp held
    refine moves found rfl (fun locator eq => ?_) known
    rw [stage] at eq
    obtain ⟨_, rfl⟩ := Stage.waiting.inj eq
    simp at differs
  | withdraw found stage =>
    refine moves found rfl (fun locator eq => ?_) held
    rcases stage with asked | ⟨_, resolved⟩
    · rw [asked] at eq
      cases eq
    · rw [resolved] at eq
      cases eq
  | stop =>
    exact same rfl ((Broker.evolves_detach ..).admission.waiters_subset
      (fun _ _ => Broker.silent_of_releases) held)
  | disconnect =>
    exact same rfl ((Broker.evolves_disconnect ..).admission.waiters_subset
      (fun _ _ => Broker.silent_of_leaves) held)
  | shutdown =>
    have cancelled := relay.broker.evolves_close.admission.waiters_subset
      (fun _ _ => Broker.silent_of_releases) held
    have framed := Admission.frame_cancelAll relay.broker.admission
    exact same rfl (framed.waiters ▸ cancelled)
  | report =>
    exact same rfl ((Broker.evolves_report ..).admission.waiters_subset
      (fun _ _ => Broker.silent_of_releases) held)

theorem Manned.run (h : relay.Manned) (actions : List Action) : (relay.run actions).Manned := by
  induction actions generalizing relay with
  | nil => exact h
  | cons action rest ih => exact ih (h.step action)

/-- The waiter of every unclaimed grant still holds its ticket. -/
abbrev Wanted (relay : Relay) : Prop := relay.broker.admission.Wanted fun _ => False

theorem Wanted.step (h : relay.Wanted) (attended : relay.Attended) {action : Action}
    (patient : ∀ number, action = .abandon number → ∀ ticket, ¬ relay.Waits number ticket) :
    (relay.step action).Wanted := by
  have moved := relay.moves action
  show (relay.step action).broker.admission.Wanted _
  generalize (relay.step action).broker = broker,
    (relay.step action).requests = requests at moved ⊢
  have keeps {allowed : Admission.Operation → Prop}
      (evolves : Broker.Evolves allowed relay.broker broker)
      (foreign : ∀ operation ticket, allowed operation → ¬ operation.OfWaiter ticket) :
      broker.admission.Wanted fun _ => False :=
    h.evolves evolves.admission fun operation ticket kind abandons =>
      foreign operation ticket kind (.inr (.inr (.inr abandons)))
  cases moved with
  | post => exact h
  | ask => exact h
  | resolve => exact h
  | refuse => exact h
  | enter => exact keeps (Broker.evolves_enter ..) fun _ _ => Admission.foreign_of_enters
  | @wake number cause fault request locator ticket found stage due =>
    obtain ⟨chronicle, requester, faithful, standing⟩ :=
      attended number ticket ⟨request, locator, found, stage⟩
    have evolves := Broker.evolves_resume relay.broker request.subscriber request.device locator
      fault ticket cause
    have left := Broker.not_granted_resume faithful standing request.subscriber request.device
      locator fault cause
    -- All grants but its own are wanted as before, and its own is gone.
    have others : relay.broker.admission.Wanted (· = ticket) := fun grant mem =>
      (h grant mem).imp_left False.elim
    have after := others.evolves evolves.admission (by
      rintro operation other kind rfl
      simpa [Admission.Resumes] using kind)
    intro grant mem
    rcases after grant mem with same | held
    · exact absurd (List.mem_map.mpr ⟨grant, mem, same⟩) left
    · exact .inr held
  | @abandon number request locator ticket found stage =>
    exact absurd ⟨request, locator, found, stage⟩ (patient number rfl ticket)
  | withdraw => exact h
  | stop => exact keeps (Broker.evolves_detach ..) fun _ _ => Admission.foreign_of_releases
  | disconnect =>
    exact keeps (Broker.evolves_disconnect ..) fun _ _ => Admission.foreign_of_leaves
  | shutdown =>
    have cancelled : relay.broker.cancelled.admission.Wanted fun _ => False :=
      h.act .cancelAll fun _ eq => by cases eq
    exact cancelled.evolves relay.broker.evolves_close.admission (by
      rintro _ _ rfl eq
      cases eq)
  | report => exact keeps (Broker.evolves_report ..) fun _ _ => Admission.foreign_of_releases

theorem Wanted.run (h : relay.Wanted) (attended : relay.Attended) (orderly : relay.Orderly)
    (accounted : relay.broker.admission.Accounted) {actions : List Action}
    (patient : ∀ earlier number later, actions = earlier ++ .abandon number :: later →
      ∀ ticket, ¬ (relay.run earlier).Waits number ticket) : (relay.run actions).Wanted := by
  induction actions generalizing relay with
  | nil => exact h
  | cons action rest ih =>
    have now : (relay.step action).Wanted := by
      refine h.step attended fun number eq => patient [] number rest ?_
      rw [eq, List.nil_append]
    refine ih now (attended.step orderly accounted action) (orderly.step action)
      ((history_step relay action).accounted accounted) fun earlier number later split => ?_
    refine patient (action :: earlier) number later ?_
    rw [split, List.cons_append]

/-- Nobody can go on: every request is over, or waits and was told nothing yet. -/
def isQuiet (relay : Relay) : Bool :=
  relay.requests.all fun request =>
    match request.stage with
    | .asked => false
    | .resolved _ => false
    | .waiting _ ticket => (relay.broker.admission.settlement? ticket).isNone
    | .finished _ => true
    | .abandoned => true

theorem isQuiet_waits {number : Nat} {ticket : TicketId} (quiet : relay.isQuiet = true)
    (waits : relay.Waits number ticket) : relay.broker.admission.settlement? ticket = none := by
  obtain ⟨request, locator, found, stage⟩ := waits
  have mem : request ∈ relay.requests := by
    cases number with
    | zero => cases found
    | succ place => exact List.mem_of_getElem? found
  have told := List.all_eq_true.mp quiet request mem
  simpa [stage] using told

/-- In a quiet state nobody has left the line, so no grant waits to be claimed. -/
theorem granted_of_quiet (quiet : relay.isQuiet = true) (attended : relay.Attended)
    (manned : relay.Manned) (wanted : relay.Wanted) : relay.broker.admission.granted = [] := by
  refine List.eq_nil_iff_forall_not_mem.mpr fun grant mem => ?_
  have held := (wanted grant mem).resolve_left id
  obtain ⟨number, waits⟩ := manned grant.1 held
  obtain ⟨chronicle, requester, faithful, standing⟩ := attended number grant.1 waits
  have told := standing.settlement_of_granted faithful (List.mem_map_of_mem mem)
  rw [isQuiet_waits quiet waits] at told
  cases told

theorem step_wake {number : Nat} {request : Request} {locator : String} {ticket : TicketId}
    (found : relay.request? number = some request) (stage : request.stage = .waiting locator ticket)
    (told : relay.broker.admission.settlement? ticket ≠ none) (cause : Broker.Wake)
    (fault : Option SystemFault) :
    (relay.step (.wake number cause fault)).broker =
      (relay.broker.resume request.subscriber request.device locator fault ticket cause).1 := by
  have due : ¬ (cause = .settled && (relay.broker.admission.settlement? ticket).isNone) = true := by
    simp [told]
  simp only [step, found, stage]
  rw [if_neg due, broker_wake]

/-- Over every run in which no waiting request is given up. When nobody can go on, no grant is left
unclaimed, the slots held are those of the live sessions, and if a request waits there are as many
sessions as slots. At any time a waiter that comes for its grant creates its session in that slot, or
if it has no use for it hands it on: then no session is created, and the first in line who still
waits is granted a slot in the same step. -/
theorem no_slot_stranded (settings : RelaySettings) (actions : List Action)
    (patient : ∀ earlier number later, actions = earlier ++ .abandon number :: later →
      ∀ ticket, ¬ ((new settings).run earlier).Waits number ticket) :
    let relay := (new settings).run actions
    let broker := relay.broker
    (relay.isQuiet = true →
      broker.admission.granted = [] ∧
      broker.admission.active = broker.roster.sessions.length ∧
      ((∃ number ticket, relay.Waits number ticket) →
        broker.roster.sessions.length = max settings.maxStreams 1)) ∧
    (∀ number request locator ticket cause fault, relay.request? number = some request →
      request.stage = .waiting locator ticket → ticket ∈ broker.admission.granted.map (·.1) →
      let next := (relay.step (.wake number cause fault)).broker
      (broker.Opens request.subscriber request.device fault →
        next.roster.devices = broker.roster.devices ++ [request.device] ∧
        next.admission.active = broker.admission.active) ∧
      (¬ broker.Opens request.subscriber request.device fault →
        next.roster.devices = broker.roster.devices ∧
        ∀ entry, broker.admission.queue.find? broker.admission.isAwaited = some entry →
          (entry.ticket, entry.requester) ∈ next.admission.granted)) := by
  intro relay broker
  have attended : relay.Attended := attended_new settings actions
  have balanced : broker.Balanced 0 := balanced_run (Broker.balanced_new settings) actions
  have manned : relay.Manned := by
    have nobody : (new settings).Manned := fun ticket held => by cases held
    exact nobody.run actions
  have wanted : relay.Wanted := by
    have nothing : (new settings).Wanted := fun grant mem => by cases mem
    exact nothing.run (attended_new settings []) (.new settings) ⟨{}, .new settings.maxStreams⟩
      patient
  obtain ⟨operations, _, history⟩ := history_run (new settings) actions
  have packed : broker.admission.Packed := by
    rw [← history]
    exact Admission.packed_run settings.maxStreams operations
  have capacity : broker.admission.capacity = max settings.maxStreams 1 := by
    rw [← history]
    exact Admission.capacity_run _ operations
  constructor
  · intro quiet
    have granted := granted_of_quiet quiet attended manned wanted
    have active := balanced.holds.active_eq
    rw [granted] at active
    refine ⟨granted, active, ?_⟩
    rintro ⟨number, ticket, waits⟩
    have line : ticket ∈ broker.admission.line := by
      by_contra gone
      exact (attended number ticket waits).settled gone (isQuiet_waits quiet waits)
    obtain ⟨entry, mem, _⟩ := List.mem_map.mp line
    rw [← capacity, ← packed.full (List.ne_nil_of_mem mem)]
    exact active.symm
  · intro number request locator ticket cause fault found stage granted
    obtain ⟨chronicle, requester, faithful, standing⟩ :=
      attended number ticket ⟨request, locator, found, stage⟩
    have told := standing.settlement_of_granted faithful granted
    have positive : 0 < broker.admission.capacity := by
      rw [capacity]
      exact Nat.lt_of_lt_of_le Nat.zero_lt_one (Nat.le_max_right ..)
    intro next
    have woken : next =
        (broker.resume request.subscriber request.device locator fault ticket cause).1 :=
      step_wake found stage (by simp [told]) cause fault
    rw [woken]
    exact Broker.resume_of_granted faithful standing packed positive granted cause

/-- Two slots, and four requests in line for them. The first two wait for the same camera and are
granted both slots; the one that finds the session there hands its slot on. -/
def sharing : List Action :=
  [.register ⟨"cam-1"⟩ { locator := "rtsp://127.0.0.1:554/cam-1" },
   .register ⟨"cam-2"⟩ { locator := "rtsp://127.0.0.1:554/cam-2" },
   .register ⟨"cam-3"⟩ { locator := "rtsp://127.0.0.1:554/cam-3" },
   .register ⟨"cam-4"⟩ { locator := "rtsp://127.0.0.1:554/cam-4" },
   .register ⟨"cam-5"⟩ { locator := "rtsp://127.0.0.1:554/cam-5" },
   .subscribe, .subscribe, .subscribe, .subscribe,
   .ask 1 ⟨"cam-1"⟩, .resolve 1, .enter 1 none, .ask 1 ⟨"cam-2"⟩, .resolve 2, .enter 2 none,
   .ask 2 ⟨"cam-3"⟩, .resolve 3, .enter 3 none, .ask 3 ⟨"cam-3"⟩, .resolve 4, .enter 4 none,
   .ask 4 ⟨"cam-4"⟩, .resolve 5, .enter 5 none, .ask 4 ⟨"cam-5"⟩, .resolve 6, .enter 6 none,
   .stop 1 ⟨"cam-1"⟩, .stop 1 ⟨"cam-2"⟩, .wake 3 .settled none, .wake 4 .settled none,
   .wake 5 .settled none]

theorem no_slot_stranded_sharing :
    let relay := (new { maxStreams := 2 }).run sharing
    relay.isQuiet = true ∧ relay.broker.roster.devices = [⟨"cam-3"⟩, ⟨"cam-4"⟩] ∧
      relay.Waits 6 4 ∧ relay.broker.admission.granted = [] ∧
      relay.broker.admission.active = 2 ∧ relay.broker.roster.sessions.length = 2 := by
  intro relay
  have quiet : relay.isQuiet = true := by decide
  have waits : relay.Waits 6 4 := ⟨_, _, rfl, rfl⟩
  have stranded := no_slot_stranded { maxStreams := 2 } sharing (by
    intro earlier number later split
    have mem : Action.abandon number ∈ sharing := by
      rw [split]
      simp
    simp [sharing] at mem)
  obtain ⟨granted, active, full⟩ := stranded.1 quiet
  have sessions : relay.broker.roster.sessions.length = 2 := full ⟨6, 4, waits⟩
  exact ⟨quiet, by decide, waits, granted, active.trans sessions, sessions⟩

end Relay

end CameraRelay
