import CameraRelay.Proofs.Admission.Standing
import CameraRelay.Proofs.Relay.Moves

/-!
# Requests that wait

Every request that waits has a ticket of its own, so what others do takes nothing away from it:
until it is woken it is at most granted a slot, or cancelled with everything or with its client.
`Follows` says how a request stands while it is on its way, and whether a shutdown found it in line.
-/

namespace CameraRelay

theorem Admission.Evolves.issued_le {allowed : Admission.Operation → Prop}
    {before after : Admission} (h : Evolves allowed before after) : before.issued ≤ after.issued :=
  h.keeps (fun admission => before.issued ≤ admission.issued)
    (fun admission operation _ le => Nat.le_trans le (issued_act admission operation))
    (Nat.le_refl _)

namespace Relay

variable {relay next : Relay}

theorem request?_congr (same : next.requests = relay.requests) (number : Nat) :
    next.request? number = relay.request? number := by
  cases number with
  | zero => rfl
  | succ place => simp only [request?, same]

theorem number_le {number : Nat} {request : Request}
    (found : relay.request? number = some request) : number ≤ relay.requests.length := by
  cases number with
  | zero => exact Nat.zero_le _
  | succ place => exact (List.getElem?_eq_some_iff.mp found).1

theorem request?_staged {number : Nat} {request : Request} {stage : Stage}
    (found : relay.request? number = some request)
    (requests : next.requests = relay.staged number stage) (other : Nat) :
    next.request? other =
      if other = number then some { request with stage } else relay.request? other := by
  cases number with
  | zero => cases found
  | succ place =>
    have here : relay.requests[place]? = some request := found
    cases other with
    | zero => simp [request?]
    | succ n =>
      by_cases same : n = place
      · simp [request?, requests, staged, same, here]
      · have apart : ¬ place = n := fun eq => same eq.symm
        simp [request?, requests, staged, same, apart]

theorem request?_asked {new : Request} (requests : next.requests = relay.requests ++ [new])
    (number : Nat) :
    next.request? number =
      if number = relay.requests.length + 1 then some new else relay.request? number := by
  cases number with
  | zero => simp [request?]
  | succ place =>
    by_cases last : place = relay.requests.length
    · simp [request?, requests, last]
    · rcases Nat.lt_or_gt_of_ne last with before | beyond
      · simp [request?, requests, last, List.getElem?_append_left before]
      · have nothing : relay.requests[place]? = none :=
          List.getElem?_eq_none (Nat.le_of_lt beyond)
        have nothing' : (relay.requests ++ [new])[place]? = none := by
          refine List.getElem?_eq_none ?_
          rw [List.length_append]
          exact beyond
        simp [request?, requests, last, nothing, nothing']

def Waits (relay : Relay) (number : Nat) (ticket : TicketId) : Prop :=
  ∃ request locator, relay.request? number = some request ∧
    request.stage = .waiting locator ticket

/-- Requests come from the handles of clients, and no two of them wait with one ticket. -/
structure Orderly (relay : Relay) : Prop where
  handles : ∀ number request, relay.request? number = some request →
    request.subscriber = handle request.subscriber.id
  issued : ∀ number ticket, relay.Waits number ticket → ticket ≤ relay.broker.admission.issued
  distinct : ∀ number other ticket, relay.Waits number ticket → relay.Waits other ticket →
    number = other

namespace Orderly

variable {relay : Relay}

theorem new (settings : RelaySettings) : (Relay.new settings).Orderly where
  handles := by
    intro number request found
    cases number <;> simp [request?, Relay.new] at found
  issued := by
    intro number ticket holds
    obtain ⟨request, locator, found, _⟩ := holds
    cases number <;> simp [request?, Relay.new] at found
  distinct := by
    intro number other ticket holds
    obtain ⟨request, locator, found, _⟩ := holds
    cases number <;> simp [request?, Relay.new] at found

/-- If at most one request changes, and waits with a new ticket if it waits, the order stays. -/
theorem advance (h : relay.Orderly) {next : Relay} (changed : Nat)
    (issued : relay.broker.admission.issued ≤ next.broker.admission.issued)
    (requests : ∀ number after, next.request? number = some after →
      relay.request? number = some after ∨
        (number = changed ∧ after.subscriber = handle after.subscriber.id ∧
          ∀ locator ticket, after.stage = .waiting locator ticket →
            relay.broker.admission.issued < ticket ∧
              ticket ≤ next.broker.admission.issued)) : next.Orderly := by
  have waits : ∀ number ticket, next.Waits number ticket →
      relay.Waits number ticket ∨
        (number = changed ∧ relay.broker.admission.issued < ticket ∧
          ticket ≤ next.broker.admission.issued) := by
    intro number ticket holds
    obtain ⟨request, locator, found, stage⟩ := holds
    rcases requests number request found with same | ⟨here, _, latest⟩
    · exact .inl ⟨request, locator, same, stage⟩
    · exact .inr ⟨here, latest locator ticket stage⟩
  constructor
  · intro number request found
    rcases requests number request found with same | ⟨_, owner, _⟩
    · exact h.handles number request same
    · exact owner
  · intro number ticket waiting
    rcases waits number ticket waiting with old | ⟨_, _, latest⟩
    · exact Nat.le_trans (h.issued number ticket old) issued
    · exact latest
  · intro number other ticket waiting waiting'
    rcases waits number ticket waiting with old | ⟨here, latest, _⟩
    · rcases waits other ticket waiting' with old' | ⟨_, latest', _⟩
      · exact h.distinct number other ticket old old'
      · exact absurd (h.issued number ticket old) (Nat.not_le_of_lt latest')
    · rcases waits other ticket waiting' with old' | ⟨here', _, _⟩
      · exact absurd (h.issued other ticket old') (Nat.not_le_of_lt latest)
      · rw [here, here']

theorem step (h : relay.Orderly) (action : Action) : (relay.step action).Orderly := by
  have issued := (history_step relay action).issued_le
  have moved := relay.moves action
  -- No request changes.
  have same (requests : (relay.step action).requests = relay.requests) :
      (relay.step action).Orderly := by
    refine h.advance 0 issued fun other after eq => .inl ?_
    rwa [request?_congr requests] at eq
  -- One request comes to another stage.
  have moves {number : Nat} {request : Request} {stage : Stage}
      (found : relay.request? number = some request)
      (requests : (relay.step action).requests = relay.staged number stage)
      (latest : ∀ locator ticket, stage = .waiting locator ticket →
        relay.broker.admission.issued < ticket ∧
          ticket ≤ (relay.step action).broker.admission.issued) : (relay.step action).Orderly := by
    refine h.advance number issued fun other after eq => ?_
    rw [request?_staged found requests] at eq
    split at eq
    · next here =>
      obtain rfl := Option.some.inj eq
      exact .inr ⟨here, h.handles number request found, latest⟩
    · exact .inl eq
  generalize broker : (relay.step action).broker = next,
    requests : (relay.step action).requests = after at moved
  cases moved with
  | post => exact same requests
  | ask subscriber device =>
    refine h.advance (relay.requests.length + 1) issued fun number after eq => ?_
    rw [request?_asked requests] at eq
    split at eq
    · next here =>
      obtain rfl := Option.some.inj eq
      exact .inr ⟨here, rfl, fun _ _ eq => by cases eq⟩
    · exact .inl eq
  | resolve source found => exact moves found requests fun _ _ eq => by cases eq
  | refuse failure found => exact moves found requests fun _ _ eq => by cases eq
  | @enter number fault request locator found =>
    refine moves found requests fun other ticket eq => ?_
    cases entered :
        (relay.broker.enter request.subscriber request.device locator fault).2 with
    | finished outcome =>
      rw [entered] at eq
      cases eq
    | waiting latest =>
      rw [entered] at eq
      obtain ⟨rfl, rfl⟩ := Stage.waiting.inj eq
      obtain ⟨rfl, last, _⟩ := Broker.enter_waiting entered
      rw [broker, last]
      exact ⟨Nat.lt_succ_self _, Nat.le_refl _⟩
  | wake found => exact moves found requests fun _ _ eq => by cases eq
  | abandon found => exact moves found requests fun _ _ eq => by cases eq
  | withdraw found => exact moves found requests fun _ _ eq => by cases eq
  | stop => exact same requests
  | disconnect => exact same requests
  | shutdown => exact same requests
  | report => exact same requests

theorem run (h : relay.Orderly) (actions : List Action) : (relay.run actions).Orderly := by
  induction actions generalizing relay with
  | nil => exact h
  | cons action rest ih => exact ih (h.step action)

end Orderly

def InLine (relay : Relay) (number : Nat) : Prop :=
  ∃ ticket, relay.Waits number ticket ∧ ticket ∈ relay.broker.admission.line

theorem inLine_iff {relay : Relay} {number : Nat} {request : Request}
    (found : relay.request? number = some request) :
    relay.InLine number ↔ ∃ locator ticket, request.stage = .waiting locator ticket ∧
      ticket ∈ relay.broker.admission.line := by
  constructor
  · intro holds
    obtain ⟨ticket, ⟨other, locator, found', stage⟩, mem⟩ := holds
    rw [found] at found'
    obtain rfl := Option.some.inj found'
    exact ⟨locator, ticket, stage, mem⟩
  · intro holds
    obtain ⟨locator, ticket, stage, mem⟩ := holds
    exact ⟨ticket, ⟨request, locator, found, stage⟩, mem⟩

/-- How a client's request stands at a stage; `shut` says whether it was in line when everything was
cancelled. -/
def Stands (broker : Broker) (client : SubscriberId) (shut : Prop) : Stage → Prop
  | .waiting _ ticket =>
    ∃ chronicle, Faithful chronicle broker.admission ∧
      Standing chronicle broker.admission ticket client ∧
      ((ticket, .cancelled) ∈ chronicle.left ↔ shut) ∧
      (ticket ∈ chronicle.revoked → broker.closed = true)
  | .finished _ => True
  | .abandoned => True
  | _ => ¬ shut

theorem Stands.spared {before after : Broker} {client : SubscriberId} {shut : Prop} {stage : Stage}
    (h : Stands before client shut stage)
    (spares : ∀ locator ticket, stage = .waiting locator ticket →
      Broker.Evolves (·.Spares ticket client) before after) : Stands after client shut stage := by
  cases stage with
  | waiting locator ticket =>
    obtain ⟨chronicle, faithful, standing, cancelled, revoked⟩ := h
    have evolves := spares locator ticket rfl
    obtain ⟨operations, kinds, eq⟩ := evolves.admission
    obtain ⟨standing', cancelled', revoked'⟩ := standing.spared faithful kinds
    refine ⟨chronicle ++ before.admission.chronicle operations, ?_, ?_, cancelled'.trans cancelled,
      fun mem => ?_⟩
    · rw [← eq]
      exact faithful.run operations
    · rwa [← eq]
    · rw [evolves.closed]
      exact revoked (revoked'.mp mem)
  | asked => exact h
  | resolved locator => exact h
  | finished outcome => exact h
  | abandoned => exact h

theorem Stands.shutdown {broker : Broker} {client : SubscriberId} {shut : Prop} {locator : String}
    {ticket : TicketId} (h : Stands broker client shut (.waiting locator ticket)) :
    Stands broker.close client (shut ∨ ticket ∈ broker.admission.line)
      (.waiting locator ticket) := by
  obtain ⟨chronicle, faithful, standing, cancelled, revoked⟩ := h
  have foreign : ¬ Admission.Operation.cancelAll.OfWaiter ticket := by
    simp [Admission.Operation.OfWaiter]
  have closing : Stands broker.cancelled client (shut ∨ ticket ∈ broker.admission.line)
      (.waiting locator ticket) := by
    refine ⟨_, faithful.act .cancelAll, standing.act faithful foreign, ?_, fun _ => rfl⟩
    rw [Chronicle.left_append, List.mem_append, cancelled]
    have leaves : (ticket, Fate.cancelled) ∈ (broker.admission.events .cancelAll).left ↔
        ticket ∈ broker.admission.line := by
      simp [Admission.events, Admission.departures, Admission.line]
    rw [leaves]
  refine closing.spared fun _ _ _ => broker.evolves_close.mono ?_
  rintro _ rfl
  exact ⟨by simp [Admission.Operation.OfWaiter], by simp, by simp⟩

theorem Stands.placed {broker : Broker} (accounted : broker.admission.Accounted)
    {subscriber : Subscriber} {device : Device} {locator : String} {fault : Option SystemFault}
    {shut : Prop} (unshut : ¬ shut) {ticket : TicketId}
    (listens : ¬ broker.mailboxes.isClosed subscriber = true)
    (entered : (broker.enter subscriber device locator fault).2 = .waiting ticket) :
    Stands (broker.enter subscriber device locator fault).1 subscriber.id shut
      (.waiting locator ticket) := by
  obtain ⟨rfl, _, placed⟩ := Broker.enter_waiting entered
  obtain ⟨same, asked⟩ := placed listens
  obtain ⟨chronicle, faithful⟩ := accounted
  obtain ⟨after, standing⟩ := Standing.queued faithful asked
  have last : broker.admission.issued + 1 ∈ (broker.placed subscriber device).admission.line :=
    List.mem_map.mpr ⟨_, List.mem_append_right _ (List.mem_singleton.mpr rfl), rfl⟩
  have fresh := after.not_gone last
  rw [same]
  refine ⟨_, after, standing, ?_, fun mem => absurd (after.revoked _ mem) fresh⟩
  exact iff_of_false (fun mem => fresh (Chronicle.mem_gone.mpr ⟨_, mem⟩)) unshut

/-- A client's request is on its way, or was. -/
structure Follows (relay : Relay) (number : Nat) (client : SubscriberId) (device : Device)
    (shut : Prop) : Prop where
  orderly : relay.Orderly
  accounted : relay.broker.admission.Accounted
  request : ∃ stage, relay.request? number = some { subscriber := handle client, device, stage } ∧
    Stands relay.broker client shut stage

theorem spares_of_releases {ticket : TicketId} {client : SubscriberId}
    (operation : Admission.Operation) (kind : Admission.Releases operation) :
    operation.Spares ticket client := by
  obtain rfl := kind
  exact ⟨by simp [Admission.Operation.OfWaiter], by simp, by simp⟩

theorem spares_of_enters {ticket : TicketId} {client asker : SubscriberId} {deaf : Bool}
    (apart : deaf = true → asker ≠ client) (operation : Admission.Operation)
    (kind : Admission.Enters asker deaf operation) : operation.Spares ticket client := by
  rcases kind with released | ⟨device, sessionExists, rfl⟩ | ⟨listensNot, rfl⟩
  · exact spares_of_releases operation released
  · exact ⟨by simp [Admission.Operation.OfWaiter], by simp, by simp⟩
  · have differs := apart listensNot
    exact ⟨by simp [Admission.Operation.OfWaiter], by simp, by simpa using differs⟩

theorem spares_of_resumes {ticket other : TicketId} {client : SubscriberId}
    (apart : other ≠ ticket) (operation : Admission.Operation)
    (kind : Admission.Resumes other operation) : operation.Spares ticket client := by
  rcases kind with released | rfl | rfl | rfl | rfl
  · exact spares_of_releases operation released
  all_goals exact ⟨by simp [Admission.Operation.OfWaiter, apart], by simp, by simp⟩

theorem spares_of_leaves {ticket : TicketId} {client leaver : SubscriberId}
    (apart : leaver ≠ client) (operation : Admission.Operation)
    (kind : Admission.Leaves leaver operation) : operation.Spares ticket client := by
  rcases kind with released | rfl
  · exact spares_of_releases operation released
  · exact ⟨by simp [Admission.Operation.OfWaiter], by simp, by simpa using apart⟩

namespace Follows

variable {relay : Relay} {number : Nat} {client : SubscriberId} {device : Device} {shut : Prop}

theorem shutdown (h : relay.Follows number client device shut) :
    (relay.step .shutdown).Follows number client device (shut ∨ relay.InLine number) := by
  obtain ⟨stage, found, stands⟩ := h.request
  refine ⟨h.orderly.step .shutdown, (history_step relay .shutdown).accounted h.accounted, stage,
    found, ?_⟩
  have inLine := inLine_iff found
  cases stage with
  | waiting locator ticket =>
    have here : relay.InLine number ↔ ticket ∈ relay.broker.admission.line := by
      simp [inLine, and_assoc]
    rw [here]
    exact stands.shutdown
  | asked =>
    have apart : ¬ relay.InLine number := by simp [inLine]
    exact fun either => either.elim stands apart
  | resolved =>
    have apart : ¬ relay.InLine number := by simp [inLine]
    exact fun either => either.elim stands apart
  | finished outcome => trivial
  | abandoned => trivial

/-- Nothing but a shutdown takes a request out of the line other than by a grant, as long as its
client stays and listens. -/
theorem step (h : relay.Follows number client device shut) {action : Action}
    (goesOn : action ≠ .shutdown) (stays : action ≠ .disconnect client)
    (listens : ¬ relay.broker.mailboxes.isClosed (handle client) = true) :
    (relay.step action).Follows number client device shut := by
  refine ⟨h.orderly.step action, (history_step relay action).accounted h.accounted, ?_⟩
  obtain ⟨stage, found, stands⟩ := h.request
  have moved := relay.moves action
  generalize (relay.step action).broker = next,
    requests : (relay.step action).requests = after at moved ⊢
  -- The request stays where it is, and nothing is taken away from it.
  have goes (kinds : ∀ ticket, relay.Waits number ticket →
      Broker.Evolves (·.Spares ticket client) relay.broker next) :
      Stands next client shut stage :=
    stands.spared fun locator ticket eq => kinds ticket ⟨_, locator, found, eq⟩
  have same (eq : after = relay.requests) (kinds : ∀ ticket, relay.Waits number ticket →
      Broker.Evolves (·.Spares ticket client) relay.broker next) :
      ∃ stage, (relay.step action).request? number =
        some { subscriber := handle client, device, stage } ∧ Stands next client shut stage := by
    refine ⟨stage, ?_, goes kinds⟩
    rw [request?_congr (requests.trans eq)]
    exact found
  -- Some request, perhaps this one, comes to another stage.
  have moves {other : Nat} {request : Request} {reached : Stage}
      (found' : relay.request? other = some request) (eq : after = relay.staged other reached)
      (kinds : other ≠ number → ∀ ticket, relay.Waits number ticket →
        Broker.Evolves (·.Spares ticket client) relay.broker next)
      (own : request = { subscriber := handle client, device, stage } →
        Stands next client shut reached) :
      ∃ stage, (relay.step action).request? number =
        some { subscriber := handle client, device, stage } ∧ Stands next client shut stage := by
    rw [request?_staged found' (requests.trans eq)]
    split
    · next here =>
      rw [← here, found] at found'
      obtain rfl := Option.some.inj found'
      exact ⟨reached, rfl, own rfl⟩
    · next apart => exact ⟨stage, found, goes (kinds fun here => apart here.symm)⟩
  cases moved with
  | post => exact same rfl fun _ _ => .same rfl rfl
  | ask =>
    refine ⟨stage, ?_, goes fun _ _ => .same rfl rfl⟩
    have known := number_le found
    rw [request?_asked requests, if_neg (by omega)]
    exact found
  | resolve source found' stage' =>
    refine moves found' rfl (fun _ _ _ => .same rfl rfl) ?_
    intro same
    obtain rfl := same
    obtain rfl : stage = .asked := stage'
    exact stands
  | refuse failure found' =>
    exact moves found' rfl (fun _ _ _ => .same rfl rfl) fun _ => trivial
  | @enter other fault request locator found' stage' =>
    refine moves found' rfl (fun _ ticket _ => ?_) ?_
    · refine (Broker.evolves_enter ..).mono (spares_of_enters fun deaf same => listens ?_)
      rwa [h.orderly.handles other request found', same] at deaf
    · intro same
      obtain rfl := same
      obtain rfl : stage = .resolved locator := stage'
      cases entered : (relay.broker.enter (handle client) device locator fault).2 with
      | finished outcome => trivial
      | waiting ticket => exact Stands.placed h.accounted stands listens entered
  | wake found' stage' =>
    refine moves found' rfl (fun apart ticket waits => ?_) fun _ => trivial
    refine (Broker.evolves_resume ..).mono (spares_of_resumes fun same => apart ?_)
    rw [same] at stage'
    exact h.orderly.distinct _ _ ticket ⟨_, _, found', stage'⟩ waits
  | abandon found' stage' =>
    refine moves found' rfl (fun apart ticket waits => ?_) fun _ => trivial
    refine .act (spares_of_resumes (fun same => apart ?_) _ (.inr (.inr (.inr (.inr rfl))))) rfl rfl
    rw [same] at stage'
    exact h.orderly.distinct _ _ ticket ⟨_, _, found', stage'⟩ waits
  | withdraw found' => exact moves found' rfl (fun _ _ _ => .same rfl rfl) fun _ => trivial
  | stop leaver device =>
    exact same rfl fun _ _ => (Broker.evolves_detach ..).mono spares_of_releases
  | disconnect leaver =>
    refine same rfl fun _ _ => (Broker.evolves_disconnect ..).mono (spares_of_leaves ?_)
    intro same
    obtain rfl := same
    exact stays rfl
  | shutdown => exact absurd rfl goesOn
  | report => exact same rfl fun _ _ => (Broker.evolves_report ..).mono spares_of_releases

end Follows

end Relay

end CameraRelay
