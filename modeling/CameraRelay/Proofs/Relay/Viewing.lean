import CameraRelay.Proofs.Broker.Watchers
import CameraRelay.Proofs.Relay.Decoders
import CameraRelay.Proofs.Relay.Sessions
import Mathlib.Data.List.Induction

/-!
# What a client sees of a session

The frames of a session come to a client in the order of their numbers, and only between the step
in which it was told that the session's stream started for it and the step in which it leaves,
cannot be told of a frame, or the session is over. When the session is over it is offered one last
event at most. Main statement: `session_as_seen`.
-/

namespace CameraRelay

/-- The number of a frame. -/
def Event.sequence? : Event → Option Nat
  | .frame _ image => some image.sequence
  | _ => none

/-- The actions of a client on its own mailbox. -/
def Action.isOwn : Action → Bool
  | .subscribe => true
  | .receive _ _ => true
  | .closeMailbox _ => true
  | .dropMailbox _ => true
  | _ => false

namespace Relay

def mailbox? (relay : Relay) (client : SubscriberId) : Option Mailbox :=
  relay.broker.mailboxes.get? (handle client).mailbox

/-- The events that an action adds to what waits for a client. -/
def gains (relay : Relay) (client : SubscriberId) (action : Action) : List Event :=
  ((relay.step action).events client).drop (relay.events client).length

/-- The report that an action brings to the broker, with its device and session. -/
def carried? (relay : Relay) : Action → Option (Device × Nat × Report)
  | .report session =>
    match relay.decoder? session with
    | some supervisor =>
      supervisor.due?.map fun report => (supervisor.device, supervisor.session, report)
    | none => none
  | .notice device session report => some (device, session, report)
  | _ => none

/-- The frame of a session that an action reports. -/
def frame? (relay : Relay) (device : Device) (id : Nat) (action : Action) : Option Frame :=
  match relay.carried? action with
  | some (named, session, .frame image) =>
    if named = device ∧ session = id then some image else none
  | _ => none

/-- The numbers of the frames of a session that are reported over some actions. -/
def reported (relay : Relay) (device : Device) (id : Nat) : List Action → List Nat
  | [] => []
  | action :: rest =>
    ((relay.frame? device id action).map (·.sequence)).toList ++
      (relay.step action).reported device id rest

/-- The numbers of the frames of a session that a client is given over some actions. -/
def shown (relay : Relay) (device : Device) (id : Nat) (client : SubscriberId) :
    List Action → List Nat
  | [] => []
  | action :: rest =>
    (if (relay.frame? device id action).isSome then
        (relay.gains client action).filterMap (·.sequence?)
      else []) ++ (relay.step action).shown device id client rest

variable {relay : Relay} {action : Action} {device : Device} {id : Nat} {client : SubscriberId}

/-! ### One action -/

theorem events_eq (relay : Relay) (client : SubscriberId) :
    relay.events client = ((relay.mailbox? client).map (·.queue)).getD [] := rfl

theorem events_of_mailbox? {next : Relay} (same : next.mailbox? client = relay.mailbox? client) :
    next.events client = relay.events client := by
  rw [events_eq, same, events_eq]

theorem events_offered {next : Relay} {offer : Option Event}
    (put : next.mailbox? client = (relay.mailbox? client).map (·.offered offer)) :
    next.events client = relay.events client ∨
      ∃ event, offer = some event ∧ next.events client = relay.events client ++ [event] := by
  rw [events_eq, events_eq, put]
  cases relay.mailbox? client with
  | none => exact .inl rfl
  | some box =>
    cases offer with
    | none => exact .inl rfl
    | some event =>
      rcases box.queue_deliver event with same | more
      · exact .inl same
      · exact .inr ⟨event, rfl, more⟩

theorem gains_offered {offer : Option Event}
    (put : (relay.step action).mailbox? client = (relay.mailbox? client).map (·.offered offer)) :
    relay.gains client action = [] ∨
      ∃ event, offer = some event ∧ relay.gains client action = [event] := by
  rcases events_offered put with same | ⟨event, offered, more⟩
  · exact .inl (by rw [gains, same, List.drop_length])
  · exact .inr ⟨event, offered, by rw [gains, more, List.drop_left]⟩

theorem gains_same (same : (relay.step action).mailbox? client = relay.mailbox? client) :
    relay.gains client action = [] := by
  rw [gains, events_of_mailbox? same, List.drop_length]

/-- What an action may say to clients. -/
inductive Speaks (relay : Relay) (action : Action) (next : Relay) : Prop
  | hush (mailboxes : next.broker.mailboxes = relay.broker.mailboxes)
  /-- A client does something with its own mailbox. -/
  | own (fewer : ∀ client, (next.events client).length ≤ (relay.events client).length)
    (departed : next.broker.departed = relay.broker.departed) (acts : action.isOwn = true)
  | address (subscriber : Subscriber) (device : Device)
    (addresses : relay.broker.Addresses subscriber device next.broker)
  | report {device : Device} {id : Nat} {report : Report}
    (carried : relay.carried? action = some (device, id, report))
    (broker : next.broker = (relay.broker.report device id report).1)

theorem events_updateMailbox (relay : Relay) (client : SubscriberId) (change : Mailbox → Mailbox) :
    (relay.updateMailbox client change).events client =
      ((relay.mailbox? client).map fun box => (change box).queue).getD [] := by
  show ((Mailboxes.get? (relay.broker.mailboxes.update _ _) _).map (·.queue)).getD [] = _
  rw [Mailboxes.get?_update, Option.map_map]
  rfl

theorem events_updateMailbox_of_ne (relay : Relay) {client other : SubscriberId}
    (apart : other ≠ client) (change : Mailbox → Mailbox) :
    (relay.updateMailbox other change).events client = relay.events client := by
  have away : (handle client).mailbox ≠ (handle other).mailbox := fun same => apart same.symm
  exact events_of_mailbox? (Mailboxes.get?_update_of_ne _ away change)

theorem length_events_updateMailbox (relay : Relay) (subscriber : SubscriberId)
    {change : Mailbox → Mailbox} (fewer : ∀ box, (change box).queue.length ≤ box.queue.length)
    (client : SubscriberId) :
    ((relay.updateMailbox subscriber change).events client).length ≤
      (relay.events client).length := by
  by_cases here : subscriber = client
  · obtain rfl := here
    rw [events_updateMailbox, events_eq]
    cases relay.mailbox? subscriber with
    | none => exact Nat.le_refl _
    | some box => exact fewer box
  · exact Nat.le_of_eq (congrArg List.length (events_updateMailbox_of_ne relay here change))

theorem speaks (relay : Relay) (action : Action) : Speaks relay action (relay.step action) := by
  cases action with
  | register device source =>
    simp only [step]
    split <;> exact .hush rfl
  | unregister device =>
    simp only [step]
    split <;> exact .hush rfl
  | subscribe =>
    refine .own (fun client => ?_) rfl rfl
    simp only [events, step]
    by_cases here : (handle client).mailbox = (handle (relay.subscribers + 1)).mailbox
    · rw [here, Mailboxes.get?_set]
      exact Nat.zero_le _
    · exact Nat.le_of_eq (by rw [Mailboxes.get?_set_of_ne _ here])
  | ask => exact .hush rfl
  | resolve number =>
    simp only [step]
    split
    · next request found =>
      split
      · simp only [resolve]
        split
        · exact .hush rfl
        · next failure _ =>
          let event := Event.error (some request.device) failure.clientText
          exact .address request.subscriber request.device (.told event rfl rfl rfl)
      · exact .hush rfl
    · exact .hush rfl
  | enter number fault =>
    simp only [step]
    split
    · next request found =>
      split
      · refine .address request.subscriber request.device ?_
        rw [broker_enter]
        exact (Broker.handles_enter ..).addresses
      · exact .hush rfl
    · exact .hush rfl
  | wake number cause fault =>
    simp only [step]
    split
    · next request found =>
      split
      · split
        · exact .hush rfl
        · refine .address request.subscriber request.device ?_
          rw [broker_wake]
          exact (Broker.handles_resume ..).addresses
      · exact .hush rfl
    · exact .hush rfl
  | abandon number =>
    simp only [step]
    split
    · simp only [abandon]
      split <;> exact .hush rfl
    · exact .hush rfl
  | stop subscriber device => exact .hush (Broker.mailboxes_detach ..)
  | disconnect subscriber => exact .hush (Broker.mailboxes_disconnect ..)
  | shutdown => exact .hush (Broker.mailboxes_close ..)
  | receive subscriber count =>
    refine .own (length_events_updateMailbox relay subscriber fun box => ?_) rfl rfl
    simp [Mailbox.receiveMany]
  | closeMailbox subscriber =>
    refine .own (length_events_updateMailbox relay subscriber fun box => ?_) rfl rfl
    simp only [Mailbox.close]
    split <;> exact Nat.le_refl _
  | dropMailbox subscriber =>
    exact .own (length_events_updateMailbox relay subscriber fun box => Nat.zero_le _) rfl rfl
  | observe session observation =>
    simp only [step]
    split
    · split <;> exact .hush rfl
    · exact .hush rfl
  | report session =>
    cases found : relay.decoder? session with
    | none =>
      simp only [step, found]
      exact .hush rfl
    | some supervisor =>
      cases due : supervisor.due? with
      | none =>
        simp only [step, found, due]
        exact .hush rfl
      | some report =>
        have carried : relay.carried? (.report session) =
            some (supervisor.device, supervisor.session, report) := by
          simp only [carried?, found, due, Option.map_some]
        refine .report carried ?_
        simp only [step, found, due]
        rfl
  | notice device session report => exact .report rfl rfl
  | complain subscriber message =>
    exact .address (handle subscriber) ⟨""⟩ (.told (.error none message) rfl rfl rfl)

/-! ### Reports -/

section

variable {report : Report}

theorem step_of_carried (carried : relay.carried? action = some (device, id, report)) :
    (relay.step action).broker = (relay.broker.report device id report).1 := by
  cases action with
  | report session =>
    cases found : relay.decoder? session with
    | none => simp [carried?, found] at carried
    | some supervisor =>
      cases due : supervisor.due? with
      | none => simp [carried?, found, due] at carried
      | some made =>
        simp only [carried?, found, due, Option.map_some, Option.some.injEq,
          Prod.mk.injEq] at carried
        obtain ⟨rfl, rfl, rfl⟩ := carried
        simp only [step, found, due]
        rfl
  | notice named session made =>
    simp only [carried?, Option.some.injEq, Prod.mk.injEq] at carried
    obtain ⟨rfl, rfl, rfl⟩ := carried
    rfl
  | _ => cases carried

theorem current_of_watched (sound : Sound Own relay.broker.lives)
    (watched : relay.broker.roster.Watched id device client) :
    ∃ session, relay.broker.roster.current? device id = some session ∧
      session.hasSubscriber client = true := by
  obtain ⟨session, here, rfl, rfl, watches⟩ := watched
  exact ⟨session, Roster.current?_eq_some.mpr ⟨Roster.get?_of_mem sound.devices here, rfl⟩, watches⟩

theorem mem_mailboxes {session : Session} (thrives : session.Thrives Own) :
    (handle client).mailbox ∈ session.subscribers.map (·.mailbox) ↔
      session.hasSubscriber client = true := by
  rw [mailboxes_of_thrives thrives, session.hasSubscriber_iff]
  rfl

/-- A report offers something to those who watch its session, and nothing to anybody else. -/
theorem mailbox?_report (client : SubscriberId) (sound : Sound Own relay.broker.lives)
    (carried : relay.carried? action = some (device, id, report)) :
    (relay.broker.roster.Watched id device client →
      (relay.step action).mailbox? client =
        (relay.mailbox? client).map (·.offered (report.offer? device))) ∧
    (¬ relay.broker.roster.Watched id device client →
      (relay.step action).mailbox? client = relay.mailbox? client) := by
  simp only [mailbox?, step_of_carried carried]
  cases current : relay.broker.roster.current? device id with
  | none =>
    refine ⟨fun watched => ?_, fun _ => by rw [Broker.report_of_stale current]⟩
    obtain ⟨session, there, _⟩ := current_of_watched sound watched
    rw [current] at there
    cases there
  | some session =>
    have found := Roster.get?_of_current? current
    obtain ⟨here, rfl⟩ := Roster.mem_of_get? found
    have thrives := sound.live session here
    have number : session.id = id := (Roster.current?_eq_some.mp current).2
    rw [Broker.mailboxes_report current, Session.get?_offer _ (distinct_of_thrives thrives)]
    constructor
    · intro watched
      have watches := (watched.get? sound.devices found).2
      rw [if_pos ((mem_mailboxes thrives).mpr watches)]
    · intro unwatched
      refine if_neg fun mem => unwatched ⟨session, here, number, rfl, ?_⟩
      exact (mem_mailboxes thrives).mp mem

theorem gains_of_carried (client : SubscriberId) (sound : Sound Own relay.broker.lives)
    (carried : relay.carried? action = some (device, id, report)) :
    relay.gains client action = [] ∨
      ∃ event, report.offer? device = some event ∧ relay.gains client action = [event] ∧
        relay.broker.roster.Watched id device client := by
  obtain ⟨offers, keeps⟩ := mailbox?_report client sound carried
  by_cases watched : relay.broker.roster.Watched id device client
  · refine (gains_offered (offers watched)).imp_right fun gained => ?_
    obtain ⟨event, offer, eq⟩ := gained
    exact ⟨event, offer, eq, watched⟩
  · exact .inl (gains_same (keeps watched))

end

/-- A client is offered an event or none, unless it does something with its own mailbox. -/
theorem mailbox?_step (client : SubscriberId) (sound : Sound Own relay.broker.lives)
    (action : Action) :
    (∃ offer, (relay.step action).mailbox? client =
      (relay.mailbox? client).map (·.offered offer)) ∨
    (action.isOwn = true ∧
      ((relay.step action).events client).length ≤ (relay.events client).length) := by
  have silent (same : (relay.step action).mailbox? client = relay.mailbox? client) :
      ∃ offer, (relay.step action).mailbox? client = (relay.mailbox? client).map (·.offered offer) :=
    ⟨none, by rw [same, Mailbox.map_offered_none]⟩
  cases relay.speaks action with
  | hush mailboxes => exact .inl (silent (by simp only [mailbox?, mailboxes]))
  | own fewer _ acts => exact .inr ⟨acts, fewer client⟩
  | address subscriber device addresses =>
    obtain ⟨offer, put, _⟩ := addresses.offers (handle client).mailbox
    exact .inl ⟨offer, put⟩
  | @report device id _ carried =>
    obtain ⟨offers, apart⟩ := mailbox?_report client sound carried
    by_cases watched : relay.broker.roster.Watched id device client
    · exact .inl ⟨_, offers watched⟩
    · exact .inl (silent (apart watched))

theorem carried?_of_frame? {image : Frame} (framed : relay.frame? device id action = some image) :
    relay.carried? action = some (device, id, .frame image) := by
  simp only [frame?] at framed
  split at framed
  · next named session shown carried =>
    split at framed
    · next here =>
      obtain ⟨rfl, rfl⟩ := here
      rw [carried, Option.some.inj framed]
    · cases framed
  · cases framed

theorem frame?_of_carried? {image : Frame}
    (carried : relay.carried? action = some (device, id, .frame image)) :
    relay.frame? device id action = some image := by
  simp [frame?, carried]

/-- No frame comes to a client but by a report about a session that it watches. -/
theorem watched_of_gained (sound : Sound Own relay.broker.lives) {image : Frame}
    (gained : .frame device image ∈ relay.gains client action) :
    ∃ number, relay.frame? device number action = some image ∧
      relay.broker.roster.Watched number device client := by
  cases relay.speaks action with
  | hush mailboxes =>
    have same : (relay.step action).mailbox? client = relay.mailbox? client := by
      simp only [mailbox?, mailboxes]
    rw [gains_same same] at gained
    cases gained
  | own fewer =>
    rw [gains, List.drop_eq_nil_of_le (fewer client)] at gained
    cases gained
  | address subscriber named addresses =>
    obtain ⟨offer, put, control, _⟩ := addresses.offers (handle client).mailbox
    rcases gains_offered put with nothing | ⟨event, told, eq⟩
    · rw [nothing] at gained
      cases gained
    · rw [eq] at gained
      have frame := control event told
      rw [← List.mem_singleton.mp gained] at frame
      cases frame
  | @report named number report carried broker =>
    rcases gains_of_carried client sound carried with
      nothing | ⟨event, offer, eq, watched⟩
    · rw [nothing] at gained
      cases gained
    · rw [eq] at gained
      obtain rfl := List.mem_singleton.mp gained
      cases report with
      | bytes count => cases offer
      | exit exit => cases exit <;> cases offer
      | frame other =>
        cases offer
        exact ⟨number, frame?_of_carried? carried, watched⟩

/-! ### Departures -/

/-- How a client stops watching while the session goes on. -/
def Loses (relay : Relay) (action : Action) (client : SubscriberId) (device : Device) : Prop :=
  action = .stop client device ∨ action = .disconnect client ∨ relay.listens client = false

theorem keeps_step (sound : Sound Own relay.broker.lives) (orderly : relay.Orderly)
    (action : Action) :
    Broker.Keeps (relay.Loses action) relay.broker (relay.step action).broker := by
  have moved := relay.moves action
  generalize (relay.step action).broker = next, (relay.step action).requests = after at moved ⊢
  have deaf {number : Nat} {request : Request} (found : relay.request? number = some request)
      (client : SubscriberId) (device : Device)
      (lost : Broker.LostIfDeaf relay.broker.mailboxes request.subscriber client device) :
      relay.Loses action client device := by
    obtain ⟨rfl, closed⟩ := lost
    rw [orderly.handles number request found] at closed
    exact .inr (.inr (by simpa [listens] using closed))
  cases moved with
  | post => exact .same rfl rfl
  | ask => exact .same rfl rfl
  | resolve => exact .same rfl rfl
  | refuse => exact .same rfl rfl
  | enter found => exact (Broker.handles_enter ..).keeps.mono (deaf found)
  | wake found => exact (Broker.handles_resume ..).keeps.mono (deaf found)
  | abandon => exact .same rfl rfl
  | withdraw => exact .same rfl rfl
  | stop leaver device =>
    refine (Broker.keeps_detach ..).mono fun client watched own => .inl ?_
    rw [own.1, own.2]
  | disconnect leaver =>
    refine (Broker.keeps_disconnect ..).mono fun client watched own => .inr (.inl ?_)
    rw [own]
  | shutdown => exact Broker.keeps_close _
  | report device id report =>
    refine (Broker.keeps_report ..).mono fun client watched failed => .inr (.inr ?_)
    obtain ⟨session, here, subscriber, mem, rfl, closed⟩ := failed
    rw [(sound.live session here).knows subscriber mem] at closed
    simpa [listens] using closed

theorem not_watched_of_over (sound : Sound Own relay.broker.lives) (ended : relay.broker.Over id) :
    ¬ relay.broker.roster.Watched id device client := by
  rintro ⟨session, here, number, _, _⟩
  obtain ⟨gone, mem, same⟩ := ended
  exact sound.apart here mem (number.trans same.symm)

theorem shown_sublist (sound : Sound Own relay.broker.lives) (orderly : relay.Orderly)
    (actions : List Action) :
    (relay.shown device id client actions).Sublist (relay.reported device id actions) := by
  induction actions generalizing relay with
  | nil => exact .refl _
  | cons action rest ih =>
    refine List.Sublist.append ?_ (ih (sound_step sound orderly action) (orderly.step action))
    cases framed : relay.frame? device id action with
    | none => exact List.nil_sublist _
    | some image =>
      have carried := carried?_of_frame? framed
      rcases gains_of_carried client sound carried with
        nothing | ⟨event, offer, eq, _⟩
      · simp [nothing]
      · cases offer
        simp [eq, Event.sequence?]

/-- When a session is over, no frame of it comes to anybody. -/
theorem shown_of_over (sound : Sound Own relay.broker.lives) (orderly : relay.Orderly)
    (ended : relay.broker.Over id) (actions : List Action) :
    relay.shown device id client actions = [] := by
  induction actions generalizing relay with
  | nil => rfl
  | cons action rest ih =>
    obtain ⟨session, mem, same⟩ := ended
    have still : (relay.step action).broker.Over id :=
      ⟨session, (keeps_step sound orderly action).departed mem, same⟩
    rw [shown, ih (sound_step sound orderly action) (orderly.step action) still, List.append_nil]
    split
    · next framed =>
      obtain ⟨image, framed⟩ := Option.isSome_iff_exists.mp framed
      rcases gains_of_carried client sound (carried?_of_frame? framed) with
        nothing | ⟨_, _, _, watched⟩
      · rw [nothing]
        rfl
      · exact absurd watched (not_watched_of_over sound ⟨session, mem, same⟩)
    · rfl

/-- The last event of a session, which names its device. -/
def IsFarewell (device : Device) (event : Event) : Prop :=
  event = .ended device ∨ ∃ message, event = .error (some device) message

theorem isFarewell_of_exit {exit : DecoderExit} {event : Event}
    (told : exit.farewell? device = some event) : IsFarewell device event := by
  cases exit with
  | exited status =>
    obtain rfl := Option.some.inj told
    exact .inl rfl
  | failed message =>
    obtain rfl := Option.some.inj told
    exact .inr ⟨_, rfl⟩
  | stopped => cases told

/-- What a client is offered in a step, if a session is over with it. -/
def TakesLeave (relay next : Relay) (id : Nat) (client : SubscriberId) : Prop :=
  ∃ offer : Option Event,
    next.mailbox? client = (relay.mailbox? client).map (·.offered offer) ∧
    ∀ session ∈ next.broker.departed, session.id = id →
      ∀ event, offer = some event → IsFarewell session.device event

theorem takesLeave_of_silent {next : Relay} (same : next.mailbox? client = relay.mailbox? client) :
    relay.TakesLeave next id client :=
  ⟨none, by rw [same, Mailbox.map_offered_none], by simp⟩

theorem takesLeave_of_report {number : Nat} {report : Report}
    (sound : Sound Own relay.broker.lives) (before : ¬ relay.broker.Over id)
    (ended : (relay.step action).broker.Over id)
    (carried : relay.carried? action = some (device, number, report)) :
    relay.TakesLeave (relay.step action) id client := by
  obtain ⟨offers, keeps⟩ := mailbox?_report client sound carried
  have broker := step_of_carried carried
  have changed : (relay.broker.report device number report).1.departed ≠ relay.broker.departed := by
    intro same
    rw [Broker.Over, broker, same] at ended
    exact before ended
  by_cases watched : relay.broker.roster.Watched number device client
  case neg => exact takesLeave_of_silent (keeps watched)
  obtain ⟨session, current, watches⟩ := current_of_watched sound watched
  obtain ⟨here, there⟩ := Roster.mem_of_get? (Roster.get?_of_current? current)
  cases report with
  | bytes count =>
    simp only [Broker.report, Broker.recordBytes, current] at changed
    exact absurd rfl changed
  | frame image =>
    -- The frame found nobody listening, this client neither.
    obtain ⟨subscriber, mem, own⟩ :=
      List.mem_map.mp ((session.hasSubscriber_iff client).mp watches)
    obtain ⟨other, mem', same, closed⟩ := Broker.deaf_of_departed current changed mem
    have deaf : relay.broker.mailboxes.isClosed (handle client) = true := by
      rwa [(sound.live session here).knows other mem', same, own] at closed
    refine takesLeave_of_silent ((offers watched).trans ?_)
    cases found : relay.mailbox? client with
    | none => rfl
    | some box =>
      have shut : box.isClosed = true := by
        simp only [mailbox?] at found
        simpa [Mailboxes.isClosed, found] using deaf
      simp only [Option.map_some, Report.offer?, Mailbox.offered, Mailbox.deliver_of_closed shut]
  | exit exit =>
    refine ⟨exit.farewell? device, offers watched, fun gone mem same event told => ?_⟩
    rw [broker, Broker.departed_of_exit current] at mem
    rcases List.mem_cons.mp mem with rfl | earlier
    · rw [Session.device_concluded, there]
      exact isFarewell_of_exit told
    · exact absurd ⟨gone, earlier, same⟩ before

/-- The step in which a session is over offers each client one last event at most. -/
theorem takesLeave_of_over (sound : Sound Own relay.broker.lives)
    (before : ¬ relay.broker.Over id) (ended : (relay.step action).broker.Over id) :
    relay.TakesLeave (relay.step action) id client := by
  have unchanged (same : (relay.step action).broker.departed = relay.broker.departed) : False := by
    rw [Broker.Over, same] at ended
    exact before ended
  cases relay.speaks action with
  | hush mailboxes => exact takesLeave_of_silent (by simp only [mailbox?, mailboxes])
  | own fewer same => exact (unchanged same).elim
  | address subscriber named addresses =>
    obtain ⟨offer, put, _, leaves⟩ := addresses.offers (handle client).mailbox
    refine ⟨offer, put, fun session mem same event told => .inr ?_⟩
    exact leaves session mem (fun earlier => before ⟨session, earlier, same⟩) event told
  | report carried => exact takesLeave_of_report sound before ended carried

/-- An exit that is reported of a session that a client watches ends it, and offers the client what
there is to say. -/
theorem over_of_exit (sound : Sound Own relay.broker.lives) {exit : DecoderExit}
    (carried : relay.carried? action = some (device, id, .exit exit))
    (watched : relay.broker.roster.Watched id device client) :
    (relay.step action).broker.Over id ∧
      (relay.step action).mailbox? client =
        (relay.mailbox? client).map (·.offered (exit.farewell? device)) := by
  refine ⟨?_, (mailbox?_report client sound carried).1 watched⟩
  obtain ⟨session, current, _⟩ := current_of_watched sound watched
  have number : session.id = id := (Roster.current?_eq_some.mp current).2
  rw [step_of_carried carried, Broker.Over, Broker.departed_of_exit current]
  exact ⟨_, List.mem_cons_self, (session.id_concluded _).trans number⟩

/-! ### Attachments -/

/-- A client comes to watch a session in a step that finishes a request of its own for the device
well and tells it so. -/
structure Joins (relay : Relay) (action : Action) (client : SubscriberId) (device : Device)
    (id : Nat) : Prop where
  apart : ¬ relay.broker.roster.Watched id device client
  watched : (relay.step action).broker.roster.Watched id device client
  admits : relay.Admits (relay.step action) client device
  told : (relay.step action).broker.mailboxes =
    (relay.broker.mailboxes.deliver (handle client) (.started device)).1

theorem Admits.told (h : relay.Admits (relay.step action) client device)
    (orderly : relay.Orderly) :
    (relay.step action).broker.mailboxes =
      (relay.broker.mailboxes.deliver (handle client) (.started device)).1 := by
  obtain ⟨number, request, found, rfl, rfl, pending, finished⟩ := h
  rw [← orderly.handles number request found]
  have last := finishes found pending finished
  generalize (relay.step action).broker = next at last ⊢
  cases last with
  | refuse stage eq => cases eq
  | enter _ eq =>
    exact (Broker.handles_enter ..).told_of_ok (Broker.Entered.outcome?_eq_some.mpr eq)
  | wake _ _ eq => exact (Broker.handles_resume ..).told_of_ok (congrArg some eq.symm)

theorem joins_of_watched (orderly : relay.Orderly)
    (apart : ¬ relay.broker.roster.Watched id device client)
    (watched : (relay.step action).broker.roster.Watched id device client) :
    relay.Joins action client device id := by
  have admits := (Roster.watched_of_changes (relay.changes_step action) watched).resolve_left apart
  exact ⟨apart, watched, admits, admits.told orderly⟩

/-- Who watches a session joined it once, and has watched it in every state since. -/
theorem joined_of_watched (settings : RelaySettings) {actions : List Action}
    (watched : ((new settings).run actions).broker.roster.Watched id device client) :
    ∃ earlier joining since, actions = earlier ++ joining :: since ∧
      ((new settings).run earlier).Joins joining client device id ∧
      ∀ middle, middle <+: since →
        ((new settings).run (earlier ++ joining :: middle)).broker.roster.Watched id device
          client := by
  induction actions using List.reverseRecOn with
  | nil =>
    obtain ⟨session, here, _⟩ := watched
    cases here
  | append_singleton past action ih =>
    have step : (new settings).run (past ++ [action]) =
        ((new settings).run past).step action := by
      rw [run_append]
      rfl
    by_cases before : ((new settings).run past).broker.roster.Watched id device client
    · obtain ⟨earlier, joining, since, rfl, joins, always⟩ := ih before
      refine ⟨earlier, joining, since ++ [action], by simp, joins, fun middle initial => ?_⟩
      rcases List.prefix_concat_iff.mp initial with rfl | initial
      · simpa using watched
      · exact always middle initial
    · have orderly : ((new settings).run past).Orderly := (Orderly.new settings).run past
      rw [step] at watched
      refine ⟨past, action, [], rfl, joins_of_watched orderly before watched,
        fun middle initial => ?_⟩
      rw [List.prefix_nil.mp initial, step]
      exact watched

/-- What a client sees of a session, in a run that is at some action. Of the frames that the decoder
of the session reports with the numbers 0, 1, 2, … the client is given some, in the same order. Each
is given to it while it watches the session: it was told that the stream started in the step in
which it joined, and has watched since. It watches until it stops, disconnects, does not listen, or
the session is over. Then at most one event comes, the last one, and no frame after it; an exit that
the decoder reports offers that event, and neither a stop nor a shutdown offers any. -/
theorem session_as_seen (settings : RelaySettings) (past : List Action) (action : Action)
    (later : List Action) (client : SubscriberId) (device : Device) (id : Nat) :
    let start := new settings
    let before := start.run past
    let after := before.step action
    (start.shown device id client past).Sublist (start.reported device id past) ∧
    (∀ count, start.reported device id past = List.range count →
      (start.shown device id client past).Pairwise (· < ·)) ∧
    (∀ image, .frame device image ∈ before.gains client action →
      ∃ number, before.frame? device number action = some image ∧
        ∃ earlier joining since, past = earlier ++ joining :: since ∧
          (start.run earlier).Joins joining client device number ∧
          ∀ middle, middle <+: since →
            (start.run (earlier ++ joining :: middle)).broker.roster.Watched number device
              client) ∧
    (before.broker.roster.Watched id device client →
      ¬ after.broker.roster.Watched id device client →
      before.Loses action client device ∨ after.broker.Over id) ∧
    (¬ before.broker.Over id → after.broker.Over id →
      before.TakesLeave after id client ∧ after.shown device id client later = []) ∧
    (∀ exit, before.carried? action = some (device, id, .exit exit) →
      before.broker.roster.Watched id device client →
      ¬ before.broker.Over id ∧ after.broker.Over id ∧
        (exit.farewell? device = none ↔ exit = .stopped) ∧
        after.mailbox? client =
          (before.mailbox? client).map (·.offered (exit.farewell? device))) ∧
    (action = .shutdown ∨ action = .disconnect client ∨ action = .stop client device →
      after.broker.mailboxes = before.broker.mailboxes) := by
  intro start before after
  have fresh : Sound Own start.broker.lives := sound_new settings
  have sound : Sound Own before.broker.lives := sound_run fresh (.new settings) past
  have orderly : before.Orderly := (Orderly.new settings).run past
  have sublist : (start.shown device id client past).Sublist (start.reported device id past) :=
    shown_sublist fresh (.new settings) past
  refine ⟨sublist, fun count ordered => ?_, fun image gained => ?_, fun watched left => ?_,
    fun apart ended => ⟨?_, ?_⟩, fun exit carried watched => ?_, fun leaves => ?_⟩
  · rw [ordered] at sublist
    exact List.pairwise_lt_range.sublist sublist
  · obtain ⟨number, framed, watched⟩ := watched_of_gained sound gained
    exact ⟨number, framed, joined_of_watched settings watched⟩
  · have keeps := (keeps_step sound orderly action).watched sound.devices id device client watched
    exact keeps.resolve_left left
  · exact takesLeave_of_over sound apart ended
  · exact shown_of_over (sound_step sound orderly action) (orderly.step action) ended later
  · obtain ⟨ended, offered⟩ := over_of_exit sound carried watched
    refine ⟨fun past => not_watched_of_over sound past watched, ended, ?_, offered⟩
    cases exit <;> simp [DecoderExit.farewell?]
  · rcases leaves with rfl | rfl | rfl
    · exact Broker.mailboxes_close ..
    · exact Broker.mailboxes_disconnect ..
    · exact Broker.mailboxes_detach ..

/-- Whoever joins later is given the later frames. -/
example :
    let gate : Device := ⟨"gate"⟩
    let actions : List Action :=
      [.register gate { locator := "rtsp://gate" }, .subscribe, .subscribe,
       .ask 1 gate, .resolve 1, .enter 1 none, .notice gate 1 (.frame ⟨0, []⟩),
       .ask 2 gate, .resolve 2, .enter 2 none, .notice gate 1 (.frame ⟨1, []⟩)]
    let relay := new {}
    relay.reported gate 1 actions = [0, 1] ∧ relay.shown gate 1 1 actions = [0, 1] ∧
      relay.shown gate 1 2 actions = [1] := by
  decide

end Relay

end CameraRelay
