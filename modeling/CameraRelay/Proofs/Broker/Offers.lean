import CameraRelay.Proofs.Broker.Deaf
import CameraRelay.Proofs.Session.FanOut

/-!
# What a step offers to whom

A step that serves a request offers one event to the client of that request, or nothing; a report
offers one event to the subscribers of its session, or nothing; whatever stops sessions offers
nothing to anybody. An event that is offered is put into the mailbox if there is room for it.
-/

namespace CameraRelay

namespace Mailbox

/-- A mailbox after an event was offered to it, or none. -/
def offered (box : Mailbox) : Option Event → Mailbox
  | some event => (box.deliver event).1
  | none => box

@[simp] theorem map_offered_none (box? : Option Mailbox) : box?.map (·.offered none) = box? := by
  cases box? <;> rfl

theorem deliver_of_unsent {box : Mailbox} {event : Event} (unsent : box.verdict event ≠ .sent) :
    (box.deliver event).1 = box := by
  rw [deliver_eq]
  cases verdict : box.verdict event with
  | sent => exact absurd verdict unsent
  | _ => rfl

theorem deliver_of_closed {box : Mailbox} (closed : box.isClosed = true) (event : Event) :
    (box.deliver event).1 = box :=
  deliver_of_unsent (by simp [verdict, closed])

theorem queue_deliver (box : Mailbox) (event : Event) :
    (box.deliver event).1.queue = box.queue ∨ (box.deliver event).1.queue = box.queue ++ [event] := by
  rw [deliver_eq]
  split
  · exact .inr rfl
  · exact .inl rfl

end Mailbox

namespace Mailboxes

variable (boxes : Mailboxes)

theorem get?_deliver_self (subscriber : Subscriber) (event : Event) :
    (boxes.deliver subscriber event).1.get? subscriber.mailbox =
      (boxes.get? subscriber.mailbox).map fun box => (box.deliver event).1 := by
  simp only [deliver]
  split
  · next box found => rw [get?_set, found, Option.map_some]
  · next absent => rw [absent, Option.map_none]

theorem get?_deliver_of_closed {subscriber : Subscriber}
    (closed : boxes.isClosed subscriber = true) (event : Event) (number : Nat) :
    (boxes.deliver subscriber event).1.get? number = boxes.get? number := by
  by_cases here : number = subscriber.mailbox
  · obtain rfl := here
    rw [get?_deliver_self]
    cases found : boxes.get? subscriber.mailbox with
    | none => rfl
    | some box =>
      have shut : box.isClosed = true := by simpa [isClosed, found] using closed
      rw [Option.map_some, Mailbox.deliver_of_closed shut]
  · exact boxes.get?_deliver_of_ne here event

end Mailboxes

namespace Session

/-- A mailbox after an event for all subscribers: it is offered to theirs and to no other. -/
theorem get?_fanOut_eq {subscribers : List Subscriber} (boxes : Mailboxes)
    (distinct : (subscribers.map (·.mailbox)).Nodup) (event : Event) (number : Nat) :
    (fanOut event subscribers boxes).1.get? number =
      if number ∈ subscribers.map (·.mailbox) then
        (boxes.get? number).map fun box => (box.deliver event).1
      else boxes.get? number := by
  induction subscribers generalizing boxes with
  | nil => rfl
  | cons subscriber rest ih =>
    obtain ⟨first, distinct⟩ := List.nodup_cons.mp distinct
    rw [fanOut_cons, ih _ distinct]
    by_cases here : number = subscriber.mailbox
    · obtain rfl := here
      rw [if_neg first, boxes.get?_deliver_self, if_pos (by simp)]
    · rw [boxes.get?_deliver_of_ne here]
      simp only [List.map_cons, List.mem_cons, here, false_or]

theorem device_concluded (session : Session) (reason : Teardown) :
    (session.concluded reason).device = session.device := by
  cases reason with
  | exit exit => cases exit <;> simp [concluded, stopDecoder_fst, advance]
  | _ => simp [concluded, stopDecoder_fst, advance]

/-- The mailboxes after an event was offered to all subscribers of a session, or none. -/
def offer (session : Session) (boxes : Mailboxes) : Option Event → Mailboxes
  | some event => (fanOut event session.subscribers boxes).1
  | none => boxes

theorem get?_offer {session : Session} (boxes : Mailboxes)
    (distinct : (session.subscribers.map (·.mailbox)).Nodup) (offer : Option Event) (number : Nat) :
    (session.offer boxes offer).get? number =
      if number ∈ session.subscribers.map (·.mailbox) then
        (boxes.get? number).map (·.offered offer)
      else boxes.get? number := by
  cases offer with
  | none =>
    rw [Mailbox.map_offered_none, ite_self]
    rfl
  | some event => exact get?_fanOut_eq boxes distinct event number

end Session

/-- The last event that subscribers are offered when their decoder is gone. -/
def DecoderExit.farewell? (device : Device) : DecoderExit → Option Event
  | .exited _ => some (.ended device)
  | .failed message => some (.error (some device) ("stream error: " ++ message))
  | .stopped => none

/-- What a report offers to the subscribers of its session. -/
def Report.offer? (device : Device) : Report → Option Event
  | .bytes _ => none
  | .frame image => some (.frame device image)
  | .exit cause => cause.farewell? device

namespace Broker

variable {broker : Broker} {subscriber : Subscriber} {device : Device} {locator : String}
  {fault : Option SystemFault}

/-! ### Stops -/

@[simp] theorem mailboxes_stopped (broker : Broker) (device : Device) :
    (broker.teardown device .stop).mailboxes = broker.mailboxes := by
  cases found : broker.roster.get? device with
  | none => rw [teardown_of_none broker device .stop found]
  | some session =>
    rw [teardown_eq found]
    rfl

@[simp] theorem mailboxes_detach (broker : Broker) (leaver : SubscriberId) (device : Device) :
    (broker.detach leaver device).mailboxes = broker.mailboxes := by
  simp only [detach]
  split
  · rfl
  · split
    · rfl
    · split
      · exact mailboxes_stopped ..
      · rfl

theorem mailboxes_disconnect (broker : Broker) (leaver : SubscriberId) :
    (broker.disconnect leaver).mailboxes = broker.mailboxes :=
  List.foldlRecOn (motive := fun current : Broker => current.mailboxes = broker.mailboxes) _ _ rfl
    fun current same device _ => (mailboxes_detach current leaver device).trans same

theorem mailboxes_close (broker : Broker) : broker.close.mailboxes = broker.mailboxes :=
  List.foldlRecOn (motive := fun current : Broker => current.mailboxes = broker.mailboxes) _ _ rfl
    fun current same device _ => (mailboxes_stopped current device).trans same

/-! ### Reports -/

theorem mailboxes_report {id : Nat} {session : Session}
    (current : broker.roster.current? device id = some session) (report : Report) :
    (broker.report device id report).1.mailboxes =
      session.offer broker.mailboxes (report.offer? device) := by
  have found := Roster.get?_of_current? current
  obtain rfl : session.device = device := (Roster.mem_of_get? found).2
  cases report with
  | bytes count =>
    simp only [Broker.report, recordBytes, current]
    rfl
  | frame frame =>
    simp only [Broker.report, deliverFrame, current]
    split
    · rw [mailboxes_stopped]
      rfl
    · rfl
  | exit exit =>
    simp only [Broker.report, decoderExited, current, teardown_eq found]
    cases exit <;> rfl

/-- A frame ends a session only if none of its subscribers listens. -/
theorem deaf_of_departed {id : Nat} {session : Session} {frame : Frame}
    (current : broker.roster.current? device id = some session)
    (ended : (broker.report device id (.frame frame)).1.departed ≠ broker.departed)
    (mem : subscriber ∈ session.subscribers) :
    ∃ other ∈ session.subscribers, other.id = subscriber.id ∧
      broker.mailboxes.isClosed other = true := by
  simp only [Broker.report, deliverFrame, current] at ended
  split at ended
  · next idle =>
    have nobody : (session.broadcast broker.mailboxes frame).1.subscribers = [] :=
      List.isEmpty_iff.mp idle
    by_cases failed : subscriber.id ∈ (Session.fanOut (.frame session.device frame)
        session.subscribers broker.mailboxes).2.failed
    · exact Session.mem_failed.mp failed
    · have kept : subscriber ∈ (session.broadcast broker.mailboxes frame).1.subscribers :=
        List.mem_filter.mpr ⟨mem, by simpa using failed⟩
      rw [nobody] at kept
      cases kept
  · exact absurd rfl ended

theorem departed_of_exit {id : Nat} {session : Session} {exit : DecoderExit}
    (current : broker.roster.current? device id = some session) :
    (broker.report device id (.exit exit)).1.departed =
      session.concluded (.exit exit) :: broker.departed := by
  have found := Roster.get?_of_current? current
  simp only [Broker.report, decoderExited, current, teardown_eq found]

/-! ### Requests -/

/-- What a step that serves a request of a subscriber does to the mailboxes, and to the sessions that
are over. -/
inductive Addresses (before : Broker) (subscriber : Subscriber) (device : Device) (after : Broker) :
    Prop
  | silent (mailboxes : after.mailboxes = before.mailboxes)
    (departed : after.departed = before.departed)
  | told (event : Event) (control : event.isFrame = false)
    (mailboxes : after.mailboxes = (before.mailboxes.deliver subscriber event).1)
    (departed : after.departed = before.departed)
  | failed (session : Session) (message : String) (there : session.device = device)
    (mailboxes : after.mailboxes =
      (before.mailboxes.deliver subscriber (.error (some device) message)).1)
    (departed : after.departed = session :: before.departed)
  /-- Who does not listen gets nothing, but a session that it was the last to watch may be over. -/
  | deaf (event : Event) (closed : before.mailboxes.isClosed subscriber = true)
    (mailboxes : after.mailboxes = (before.mailboxes.deliver subscriber event).1)

theorem Addresses.after {first second third : Broker}
    (h : second.Addresses subscriber device third) (mailboxes : second.mailboxes = first.mailboxes)
    (departed : second.departed = first.departed) : first.Addresses subscriber device third := by
  cases h with
  | silent same kept => exact .silent (same.trans mailboxes) (kept.trans departed)
  | told event control put kept =>
    exact .told event control (by rw [put, mailboxes]) (kept.trans departed)
  | failed session message there put gone =>
    exact .failed session message there (by rw [put, mailboxes]) (by rw [gone, departed])
  | deaf event closed put =>
    rw [mailboxes] at closed put
    exact .deaf event closed put

theorem Addresses.before {first second third : Broker}
    (h : first.Addresses subscriber device second) (same : second.Alike third) :
    first.Addresses subscriber device third := by
  cases h with
  | silent mailboxes departed =>
    exact .silent (same.mailboxes.trans mailboxes) (same.departed.trans departed)
  | told event control put kept =>
    exact .told event control (same.mailboxes.trans put) (same.departed.trans kept)
  | failed session message there put gone =>
    exact .failed session message there (same.mailboxes.trans put) (same.departed.trans gone)
  | deaf event closed put => exact .deaf event closed (same.mailboxes.trans put)

theorem addresses_confirmStarted (broker : Broker) (subscriber : Subscriber) (device : Device) :
    broker.Addresses subscriber device (broker.confirmStarted subscriber device).1 := by
  rw [confirmStarted_eq]
  split
  · next closed => exact .deaf (.started device) closed (mailboxes_detach ..)
  · exact .told (.started device) rfl rfl rfl

theorem addresses_join (broker : Broker) (subscriber : Subscriber) (device : Device) :
    broker.Addresses subscriber device (broker.join subscriber device).1 := by
  simp only [join]
  split
  · exact .silent rfl rfl
  · next session _ =>
    let joined := { broker with roster := broker.roster.put (session.attach subscriber).1 }
    exact (addresses_confirmStarted joined subscriber device).after rfl rfl

theorem addresses_openSession (broker : Broker) (subscriber : Subscriber) (device : Device)
    (locator : String) (fault : Option SystemFault) :
    broker.Addresses subscriber device
      (broker.openSession subscriber device locator fault).1 := by
  by_cases session : broker.roster.contains device = true
  · rw [openSession_of_session subscriber locator fault session]
    exact (addresses_join broker.release subscriber device).after rfl rfl
  cases fault with
  | none =>
    rw [openSession_of_start subscriber locator session]
    let started := broker.started subscriber device locator
    exact (addresses_confirmStarted started subscriber device).after rfl rfl
  | some fault =>
    rw [openSession_of_fault subscriber locator fault session]
    have found := get?_opened subscriber locator session
    let message := (Failure.processSpawn device fault).clientText
    have told := mailboxes_spawnFailed found message
    rw [firstSession_eq, Session.fanOut_cons] at told
    have gone := congrArg Broker.departed (teardown_eq found (.spawnFailed message))
    exact .failed _ message (Session.device_concluded ..) told gone

theorem Handles.addresses {next : Broker} {outcome? : Option Outcome}
    (h : broker.Handles subscriber device locator fault next outcome?) :
    broker.Addresses subscriber device next := by
  cases h with
  | hush _ alike => exact .silent alike.mailboxes alike.departed
  | told event _ control alike => exact .told event control alike.mailboxes alike.departed
  | @joins middle _ same alike =>
    have joined := (addresses_join middle subscriber device).after same.mailboxes same.departed
    exact joined.before alike
  | @opens middle _ same alike =>
    have opened := (addresses_openSession middle subscriber device locator fault).after
      same.mailboxes same.departed
    exact opened.before alike

/-- Each mailbox is offered one control event, or nothing; and if a session was over with the step,
at most an error that names its device. -/
theorem Addresses.offers {before after : Broker} (h : before.Addresses subscriber device after)
    (number : Nat) :
    ∃ offer : Option Event,
      after.mailboxes.get? number = (before.mailboxes.get? number).map (·.offered offer) ∧
      (∀ event, offer = some event → event.isFrame = false) ∧
      ∀ session ∈ after.departed, session ∉ before.departed →
        ∀ event, offer = some event → ∃ message, event = .error (some session.device) message := by
  have silent (same : after.mailboxes.get? number = before.mailboxes.get? number) :
      ∃ offer : Option Event,
        after.mailboxes.get? number = (before.mailboxes.get? number).map (·.offered offer) ∧
        (∀ event, offer = some event → event.isFrame = false) ∧
        ∀ session ∈ after.departed, session ∉ before.departed →
          ∀ event, offer = some event →
            ∃ message, event = .error (some session.device) message :=
    ⟨none, by rw [same, Mailbox.map_offered_none], by simp, by simp⟩
  have told (event : Event)
      (put : after.mailboxes = (before.mailboxes.deliver subscriber event).1)
      (here : number = subscriber.mailbox) :
      after.mailboxes.get? number =
        (before.mailboxes.get? number).map (·.offered (some event)) := by
    rw [put, here, Mailboxes.get?_deliver_self]
    rfl
  cases h with
  | silent same => exact silent (by rw [same])
  | told event control put kept =>
    by_cases here : number = subscriber.mailbox
    · refine ⟨some event, told event put here, by simp [control], fun session mem new => ?_⟩
      rw [kept] at mem
      exact absurd mem new
    · exact silent (by rw [put, Mailboxes.get?_deliver_of_ne _ here])
  | failed session message there put gone =>
    by_cases here : number = subscriber.mailbox
    · refine ⟨some (.error (some device) message), told _ put here, ?_, fun other mem new => ?_⟩
      · rintro _ ⟨⟩
        rfl
      · rw [gone] at mem
        obtain rfl := (List.mem_cons.mp mem).resolve_right new
        rintro _ ⟨⟩
        exact ⟨message, by rw [there]⟩
    · exact silent (by rw [put, Mailboxes.get?_deliver_of_ne _ here])
  | deaf event closed put =>
    exact silent (by rw [put, Mailboxes.get?_deliver_of_closed _ closed])

/-- A request that finishes well tells its client that it watches the device. -/
theorem Handles.told_of_ok {next : Broker} {outcome? : Option Outcome}
    (h : broker.Handles subscriber device locator fault next outcome?)
    (well : outcome? = some (.ok ())) :
    next.mailboxes = (broker.mailboxes.deliver subscriber (.started device)).1 := by
  have listens : ¬ broker.mailboxes.isClosed subscriber = true := fun deaf => h.ne_ok deaf well
  cases h with
  | hush useless => exact absurd well useless
  | told _ useless => exact absurd well useless
  | @joins middle outcome same alike =>
    have joined : (middle.join subscriber device).2 = .ok () := Option.some.inj (outcome ▸ well)
    have session : middle.roster.contains device = true := by
      by_contra alone
      simp [join, get?_of_alone alone] at joined
    rw [← same.mailboxes] at listens ⊢
    have told := tells_join middle listens session
    rw [Tells, joined] at told
    exact alike.mailboxes.trans told
  | @opens middle outcome same alike =>
    have opened : (middle.openSession subscriber device locator fault).2 = .ok () :=
      Option.some.inj (outcome ▸ well)
    rw [← same.mailboxes] at listens ⊢
    have told : middle.Tells subscriber device
        (middle.openSession subscriber device locator fault) := tells_openSession middle listens
    rw [Tells, opened] at told
    exact alike.mailboxes.trans told

end Broker

end CameraRelay
