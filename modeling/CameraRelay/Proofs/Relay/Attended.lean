import CameraRelay.Proofs.Relay.Waiting

/-!
# Requests that left the line

A request that waits holds its ticket and has not looked at what became of it, whatever others do
(`attended_new`). So it is in line, or its settlement is there and it can be woken, and never both
(`Attended.unsettled_iff`).
-/

namespace CameraRelay

namespace Admission

/-- The waiter of a ticket holds it and has not looked at what became of it. -/
def Attended (admission : Admission) (ticket : TicketId) : Prop :=
  ∃ chronicle requester, Faithful chronicle admission ∧
    Standing chronicle admission ticket requester

/-- The same with the client that the ticket is of. -/
def AttendedBy (admission : Admission) (ticket : TicketId) (requester : SubscriberId) : Prop :=
  ∃ chronicle, Faithful chronicle admission ∧ Standing chronicle admission ticket requester

variable {before after : Admission} {ticket : TicketId} {requester : SubscriberId}

theorem AttendedBy.attended (h : before.AttendedBy ticket requester) : before.Attended ticket := by
  obtain ⟨chronicle, faithful, standing⟩ := h
  exact ⟨chronicle, requester, faithful, standing⟩

theorem AttendedBy.act (h : before.AttendedBy ticket requester) {operation : Operation}
    (foreign : ¬ operation.OfWaiter ticket) :
    (before.act operation).1.AttendedBy ticket requester := by
  obtain ⟨chronicle, faithful, standing⟩ := h
  exact ⟨_, faithful.act operation, standing.act faithful foreign⟩

theorem AttendedBy.evolves (h : before.AttendedBy ticket requester)
    (evolves : Evolves (fun operation => ¬ operation.OfWaiter ticket) before after) :
    after.AttendedBy ticket requester :=
  evolves.keeps (·.AttendedBy ticket requester) (fun _ _ foreign attended => attended.act foreign) h

theorem Attended.evolves (h : before.Attended ticket)
    (evolves : Evolves (fun operation => ¬ operation.OfWaiter ticket) before after) :
    after.Attended ticket := by
  obtain ⟨chronicle, requester, faithful, standing⟩ := h
  exact (AttendedBy.evolves ⟨chronicle, faithful, standing⟩ evolves).attended

theorem Attended.settled (h : before.Attended ticket) (gone : ticket ∉ before.line) :
    before.settlement? ticket ≠ none := by
  obtain ⟨chronicle, requester, faithful, standing⟩ := h
  have issued := faithful.waiters ticket standing.held
  rcases faithful.waits_or_left standing.positive issued with ⟨waits, _⟩ | ⟨_, fate, left, _⟩
  · exact absurd waits gone
  · rw [standing.settlement_of_left faithful left]
    rcases standing.fate fate left with rfl | rfl
    · exact fun eq => by cases eq
    · exact fun eq => by cases eq

theorem Attended.unsettled_iff (h : before.Attended ticket) :
    before.settlement? ticket = none ↔ ticket ∈ before.line := by
  constructor
  · intro untold
    exact Decidable.byContradiction fun gone => h.settled gone untold
  · intro line
    obtain ⟨chronicle, _, faithful, _⟩ := h
    refine Option.eq_none_iff_forall_ne_some.mpr fun settlement told => ?_
    exact faithful.not_gone line (faithful.gone_of_settled (Faithful.mem_of_settlement? told))

section

variable {operation : Operation}

theorem foreign_of_releases (kind : Releases operation) : ¬ operation.OfWaiter ticket := by
  obtain rfl := kind
  simp [Operation.OfWaiter]

theorem foreign_of_enters {asker : SubscriberId} {deaf : Bool}
    (kind : Enters asker deaf operation) :
    ¬ operation.OfWaiter ticket := by
  rcases kind with rfl | ⟨device, sessionExists, rfl⟩ | ⟨_, rfl⟩
  all_goals simp [Operation.OfWaiter]

theorem foreign_of_resumes {other : TicketId} (apart : other ≠ ticket)
    (kind : Resumes other operation) : ¬ operation.OfWaiter ticket := by
  rcases kind with rfl | rfl | rfl | rfl | rfl
  all_goals simp [Operation.OfWaiter, apart]

theorem foreign_of_leaves {leaver : SubscriberId} (kind : Leaves leaver operation) :
    ¬ operation.OfWaiter ticket := by
  rcases kind with rfl | rfl
  all_goals simp [Operation.OfWaiter]

end

end Admission

namespace Broker

variable {broker : Broker} {subscriber : Subscriber} {device : Device} {locator : String}
  {fault : Option SystemFault}

theorem attendedBy_placed (accounted : broker.admission.Accounted)
    (full : ¬ broker.admission.active < broker.admission.capacity) :
    (broker.placed subscriber device).admission.AttendedBy (broker.admission.issued + 1)
      subscriber.id := by
  obtain ⟨chronicle, faithful⟩ := accounted
  have asked : (broker.placed subscriber device).admission =
      (broker.admission.act (.request device subscriber.id false)).1 := by
    simp only [Admission.act, Admission.request, if_neg full]
    rfl
  obtain ⟨after, standing⟩ := Standing.queued faithful asked
  exact ⟨_, after, standing⟩

/-- Who is told to wait is attended from then on, even if it does not listen. -/
theorem attendedBy_enter (accounted : broker.admission.Accounted) {ticket : TicketId}
    (waits : (broker.enter subscriber device locator fault).2 = .waiting ticket) :
    (broker.enter subscriber device locator fault).1.admission.AttendedBy ticket subscriber.id := by
  by_cases closed : broker.closed = true
  · rw [enter_of_closed closed] at waits
    cases waits
  by_cases session : broker.roster.contains device = true
  · rw [enter_of_session closed session] at waits
    cases waits
  by_cases free : broker.admission.active < broker.admission.capacity
  · rw [enter_of_free closed session free] at waits
    cases waits
  rw [enter_of_full closed session free] at waits ⊢
  obtain rfl := Entered.waiting.inj waits
  have placed : (broker.placed subscriber device).admission.AttendedBy (broker.admission.issued + 1)
      subscriber.id := attendedBy_placed accounted free
  split
  · have foreign : ¬ (Admission.Operation.cancelRequester subscriber.id).OfWaiter
        (broker.admission.issued + 1) := by simp [Admission.Operation.OfWaiter]
    exact placed.act foreign
  · exact placed

end Broker

namespace Relay

variable {relay : Relay} {action : Action} {number : Nat} {ticket : TicketId}

/-- A request that waits after an action waited before, and nobody else touched its ticket, or it was
told to wait just now. -/
theorem waits_origin (orderly : relay.Orderly) {request : Request} {locator : String}
    (found : (relay.step action).request? number = some request)
    (stage : request.stage = .waiting locator ticket) :
    (relay.request? number = some request ∧
      Admission.Evolves (fun operation => ¬ operation.OfWaiter ticket) relay.broker.admission
        (relay.step action).broker.admission) ∨
    ∃ fault, relay.request? number = some { request with stage := .resolved locator } ∧
      (relay.broker.enter request.subscriber request.device locator fault).2 = .waiting ticket ∧
      (relay.step action).broker =
        (relay.broker.enter request.subscriber request.device locator fault).1 := by
  have moved := relay.moves action
  generalize (relay.step action).broker = next,
    requests : (relay.step action).requests = after at moved ⊢
  have same (eq : after = relay.requests) : relay.request? number = some request := by
    rwa [request?_congr (requests.trans eq)] at found
  -- Some request comes to another stage: it is this one, or this one waited before.
  have moves {other : Nat} {request' : Request} {reached : Stage}
      (found' : relay.request? other = some request') (eq : after = relay.staged other reached) :
      (reached = .waiting locator ticket ∧ request = { request' with stage := reached } ∧
        relay.request? number = some request') ∨
        (number ≠ other ∧ relay.request? number = some request) := by
    rw [request?_staged found' (requests.trans eq)] at found
    split at found
    · next here =>
      obtain rfl := Option.some.inj found
      rw [← here] at found'
      exact .inl ⟨stage, rfl, found'⟩
    · next apart => exact .inr ⟨apart, found⟩
  -- The ticket of another request is another ticket.
  have apart {other : Nat} {request' : Request} {locator' : String} {ticket' : TicketId}
      (found' : relay.request? other = some request')
      (stage' : request'.stage = .waiting locator' ticket') (differs : number ≠ other)
      (here : relay.request? number = some request) : ticket' ≠ ticket := by
    rintro rfl
    exact differs (orderly.distinct _ _ _ ⟨_, _, here, stage⟩ ⟨_, _, found', stage'⟩)
  cases moved with
  | post => exact .inl ⟨same rfl, .refl _⟩
  | ask =>
    rw [request?_asked requests] at found
    split at found
    · obtain rfl := Option.some.inj found
      cases stage
    · exact .inl ⟨found, .refl _⟩
  | resolve source found' =>
    rcases moves found' rfl with ⟨eq, _⟩ | ⟨_, here⟩
    · cases eq
    · exact .inl ⟨here, .refl _⟩
  | refuse failure found' =>
    rcases moves found' rfl with ⟨eq, _⟩ | ⟨_, here⟩
    · cases eq
    · exact .inl ⟨here, .refl _⟩
  | @enter other fault request' locator' found' stage' =>
    rcases moves found' rfl with ⟨eq, rfl, before⟩ | ⟨_, here⟩
    · cases entered :
          (relay.broker.enter request'.subscriber request'.device locator' fault).2 with
      | finished outcome =>
        rw [entered] at eq
        cases eq
      | waiting latest =>
        rw [entered] at eq
        obtain ⟨rfl, rfl⟩ := Stage.waiting.inj eq
        obtain ⟨subscriber, device, resolved⟩ := request'
        obtain rfl : resolved = .resolved locator' := stage'
        exact .inr ⟨fault, before, entered, rfl⟩
    · exact .inl ⟨here, (Broker.evolves_enter ..).admission.mono fun _ =>
        Admission.foreign_of_enters⟩
  | @wake other cause fault request' locator' ticket' found' stage' =>
    rcases moves found' rfl with ⟨eq, _⟩ | ⟨differs, here⟩
    · cases eq
    · exact .inl ⟨here, (Broker.evolves_resume ..).admission.mono fun _ =>
        Admission.foreign_of_resumes (apart found' stage' differs here)⟩
  | @abandon other request' locator' ticket' found' stage' =>
    rcases moves found' rfl with ⟨eq, _⟩ | ⟨differs, here⟩
    · cases eq
    · have foreign := Admission.foreign_of_resumes (apart found' stage' differs here)
        (.inr (.inr (.inr (.inr rfl))))
      exact .inl ⟨here, [.abandon ticket'], by simpa using foreign, rfl⟩
  | withdraw found' =>
    rcases moves found' rfl with ⟨eq, _⟩ | ⟨_, here⟩
    · cases eq
    · exact .inl ⟨here, .refl _⟩
  | stop =>
    exact .inl ⟨same rfl, (Broker.evolves_detach ..).admission.mono fun _ =>
      Admission.foreign_of_releases⟩
  | disconnect =>
    exact .inl ⟨same rfl, (Broker.evolves_disconnect ..).admission.mono fun _ =>
      Admission.foreign_of_leaves⟩
  | shutdown =>
    have foreign : ¬ Admission.Operation.cancelAll.OfWaiter ticket := by
      simp [Admission.Operation.OfWaiter]
    have cancelled : Admission.Evolves (fun operation => ¬ operation.OfWaiter ticket)
        relay.broker.admission relay.broker.cancelled.admission :=
      ⟨[.cancelAll], by simpa using foreign, rfl⟩
    exact .inl ⟨same rfl, cancelled.trans
      (relay.broker.evolves_close.admission.mono fun _ => Admission.foreign_of_releases)⟩
  | report =>
    exact .inl ⟨same rfl, (Broker.evolves_report ..).admission.mono fun _ =>
      Admission.foreign_of_releases⟩

def Attended (relay : Relay) : Prop :=
  ∀ number ticket, relay.Waits number ticket → relay.broker.admission.Attended ticket

theorem Attended.step (h : relay.Attended) (orderly : relay.Orderly)
    (accounted : relay.broker.admission.Accounted) (action : Action) :
    (relay.step action).Attended := by
  intro number ticket waits
  obtain ⟨request, locator, found, stage⟩ := waits
  rcases waits_origin orderly found stage with ⟨here, foreign⟩ | ⟨fault, _, entered, eq⟩
  · exact (h number ticket ⟨request, locator, here, stage⟩).evolves foreign
  · rw [eq]
    exact (Broker.attendedBy_enter accounted entered).attended

/-- Every request that waits has a ticket of its own client. -/
def Owned (relay : Relay) : Prop :=
  ∀ number request locator ticket, relay.request? number = some request →
    request.stage = .waiting locator ticket →
      relay.broker.admission.AttendedBy ticket request.subscriber.id

theorem Owned.step (h : relay.Owned) (orderly : relay.Orderly)
    (accounted : relay.broker.admission.Accounted) (action : Action) :
    (relay.step action).Owned := by
  intro number request locator ticket found stage
  rcases waits_origin orderly found stage with ⟨here, foreign⟩ | ⟨fault, _, entered, eq⟩
  · exact (h number request locator ticket here stage).evolves foreign
  · rw [eq]
    exact Broker.attendedBy_enter accounted entered

theorem Owned.run (h : relay.Owned) (orderly : relay.Orderly)
    (accounted : relay.broker.admission.Accounted) (actions : List Action) :
    (relay.run actions).Owned := by
  induction actions generalizing relay with
  | nil => exact h
  | cons action rest ih =>
    exact ih (h.step orderly accounted action) (orderly.step action)
      ((history_step relay action).accounted accounted)

theorem owned_new (settings : RelaySettings) (actions : List Action) :
    ((new settings).run actions).Owned := by
  have nobody : (new settings).Owned := by
    intro number request locator ticket found
    cases number <;> simp [request?, new] at found
  exact nobody.run (.new settings) ⟨{}, .new settings.maxStreams⟩ actions

theorem attended_new (settings : RelaySettings) (actions : List Action) :
    ((new settings).run actions).Attended := by
  intro number ticket waits
  obtain ⟨request, locator, found, stage⟩ := waits
  exact (owned_new settings actions number request locator ticket found stage).attended

end Relay

end CameraRelay
