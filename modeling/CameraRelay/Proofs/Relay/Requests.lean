import CameraRelay.Proofs.Relay.Sessions

/-!
# Where subscribers come from

A request keeps its client and its device from the action that asks for it, and an outcome that it
came to is final. So a client that asks for a device no more comes to watch it only by a request
that is on its way already. Main statement: `admits_of_watches`.
-/

namespace CameraRelay

namespace Relay

variable {relay : Relay} {number : Nat} {request : Request}

/-- An action makes a request, moves one that has not finished, or leaves them all as they are. -/
theorem requests_step (relay : Relay) (action : Action) :
    (relay.step action).requests = relay.requests ∨
    (∃ subscriber device, action = .ask subscriber device ∧ (relay.step action).requests =
      relay.requests ++ [{ subscriber := handle subscriber, device }]) ∨
    (∃ number request stage, relay.request? number = some request ∧
      (∀ outcome, request.stage ≠ .finished outcome) ∧
      (relay.step action).requests = relay.staged number stage) := by
  have moved := relay.moves action
  have moves {number : Nat} {request : Request} {stage : Stage} {after : List Request}
      (found : relay.request? number = some request)
      (unfinished : ∀ outcome, request.stage ≠ .finished outcome)
      (eq : after = relay.staged number stage) :
      ∃ number request stage, relay.request? number = some request ∧
        (∀ outcome, request.stage ≠ .finished outcome) ∧ after = relay.staged number stage :=
    ⟨number, request, stage, found, unfinished, eq⟩
  generalize (relay.step action).broker = next, (relay.step action).requests = after at moved ⊢
  cases moved with
  | post => exact .inl rfl
  | ask subscriber device => exact .inr (.inl ⟨subscriber, device, rfl, rfl⟩)
  | resolve _ found stage => exact .inr (.inr (moves found (by simp [stage]) rfl))
  | refuse _ found stage => exact .inr (.inr (moves found (by simp [stage]) rfl))
  | enter found stage => exact .inr (.inr (moves found (by simp [stage]) rfl))
  | wake found stage => exact .inr (.inr (moves found (by simp [stage]) rfl))
  | abandon found stage => exact .inr (.inr (moves found (by simp [stage]) rfl))
  | withdraw found stage =>
    refine .inr (.inr (moves found (fun outcome finished => ?_) rfl))
    rcases stage with asked | ⟨locator, resolved⟩
    · rw [asked] at finished
      cases finished
    · rw [resolved] at finished
      cases finished
  | stop => exact .inl rfl
  | disconnect => exact .inl rfl
  | shutdown => exact .inl rfl
  | report => exact .inl rfl

theorem outcome?_step {outcome : Outcome} (finished : relay.outcome? number = some outcome)
    (action : Action) : (relay.step action).outcome? number = some outcome := by
  cases found : relay.request? number with
  | none => simp [outcome?, found] at finished
  | some request =>
    have done := (outcome?_eq_some found).mp finished
    suffices still : (relay.step action).request? number = some request from
      (outcome?_eq_some still).mpr done
    rcases relay.requests_step action with
      same | ⟨subscriber, device, _, asked⟩ | ⟨other, request', stage, found', unfinished, moved⟩
    · rw [request?_congr same, found]
    · have known := number_le found
      rw [request?_asked asked, if_neg (by omega), found]
    · rw [request?_staged found' moved]
      split
      · next here =>
        rw [← here, found] at found'
        obtain rfl := Option.some.inj found'
        exact absurd done (unfinished outcome)
      · exact found

theorem outcome?_run {outcome : Outcome} (finished : relay.outcome? number = some outcome)
    (actions : List Action) : (relay.run actions).outcome? number = some outcome := by
  induction actions generalizing relay with
  | nil => exact finished
  | cons action rest ih => exact ih (outcome?_step finished action)

/-- A request that is there after an action was there before, or was asked for just now. -/
theorem request?_origin {action : Action}
    (found : (relay.step action).request? number = some request)
    (unasked : action ≠ .ask request.subscriber.id request.device) :
    ∃ before, relay.request? number = some before ∧ before.subscriber = request.subscriber ∧
      before.device = request.device := by
  rcases relay.requests_step action with
    same | ⟨subscriber, device, rfl, asked⟩ | ⟨other, request', stage, found', _, moved⟩
  · rw [request?_congr same] at found
    exact ⟨request, found, rfl, rfl⟩
  · rw [request?_asked asked] at found
    split at found
    · obtain rfl := Option.some.inj found
      exact absurd rfl unasked
    · exact ⟨request, found, rfl, rfl⟩
  · rw [request?_staged found' moved] at found
    split at found
    · next here =>
      obtain rfl := Option.some.inj found
      rw [← here] at found'
      exact ⟨request', found', rfl, rfl⟩
    · exact ⟨request, found, rfl, rfl⟩

/-- What a client is admitted to later on, without a request of its own in between, it is admitted
to by a request that was on its way before. -/
theorem Admits.of_step {action : Action} {last : Relay} {client : SubscriberId} {device : Device}
    (h : (relay.step action).Admits last client device) (unasked : action ≠ .ask client device) :
    relay.Admits last client device := by
  obtain ⟨number, request, found, rfl, rfl, pending, finished⟩ := h
  obtain ⟨before, there, subscriber, device⟩ := request?_origin found unasked
  refine ⟨number, before, there, by rw [subscriber], device, ?_, finished⟩
  cases outcome : relay.outcome? number with
  | none => rfl
  | some outcome' =>
    rw [outcome?_step outcome action] at pending
    cases pending

theorem Admits.run {next : Relay} {client : SubscriberId} {device : Device}
    (h : relay.Admits next client device) (actions : List Action) :
    relay.Admits (next.run actions) client device := by
  obtain ⟨number, request, found, own, there, pending, finished⟩ := h
  exact ⟨number, request, found, own, there, pending, outcome?_run finished actions⟩

theorem admits_of_watches {client : SubscriberId} {device : Device} {actions : List Action}
    (unasked : .ask client device ∉ actions)
    (apart : device ∉ relay.broker.roster.devicesOf client)
    (watches : device ∈ (relay.run actions).broker.roster.devicesOf client) :
    relay.Admits (relay.run actions) client device := by
  induction actions generalizing relay with
  | nil => exact absurd watches apart
  | cons action rest ih =>
    have first : action ≠ .ask client device := fun eq => unasked (by simp [eq])
    -- The step after which the client first watches the device is the one that admits it.
    by_cases now : device ∈ (relay.step action).broker.roster.devicesOf client
    · have changes := relay.changes_step action
      have admits := (Roster.devicesOf_of_changes changes now).resolve_left apart
      exact admits.run rest
    · have later := ih (fun mem => unasked (List.mem_cons_of_mem _ mem)) now watches
      exact later.of_step first

end Relay

end CameraRelay
