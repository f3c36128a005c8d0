import CameraRelay.Proofs.Broker.Frames
import CameraRelay.Proofs.Relay.Output
import CameraRelay.Proofs.Session.FanOut
import CameraRelay.Stats

/-!
# The frames that are counted

What was put into mailboxes over a run can be told from the mailboxes, and who had no room for a
frame from the mailboxes and the sessions. The counters of the relay tell the same, whatever becomes
of a session with the frame it is shown. Main statement: `frames_counted`.
-/

namespace CameraRelay

instance decidableWatched (roster : Roster) (id : Nat) (device : Device) (client : SubscriberId) :
    Decidable (roster.Watched id device client) :=
  inferInstanceAs (Decidable (∃ session ∈ roster.sessions, _ ∧ _ ∧ _))

namespace Relay

/-- The numbers of the clients that have come. -/
def clients (relay : Relay) : List SubscriberId := List.range' 1 relay.subscribers

/-- The frames that an action adds to what waits for clients, each with its client. -/
def accepts (relay : Relay) (action : Action) : List (SubscriberId × Event) :=
  relay.clients.flatMap fun client =>
    ((relay.gains client action).filter (·.isFrame)).map fun event => (client, event)

/-- The clients that watch a session of which an action reports a frame, and have no room for it. -/
def refuses (relay : Relay) (action : Action) : List SubscriberId :=
  relay.clients.filter fun client =>
    relay.broker.roster.sessions.any fun session =>
      session.hasSubscriber client && relay.drops session.device session.id client action

/-- What each of some actions tells, one after the other. -/
def along {α : Type} (told : Relay → Action → List α) (relay : Relay) : List Action → List α
  | [] => []
  | action :: rest => told relay action ++ along told (relay.step action) rest

/-- Only clients that have come have mailboxes. -/
def Numbered (relay : Relay) : Prop :=
  ∀ client, relay.mailbox? client ≠ none → client ∈ relay.clients

variable {relay : Relay} {action : Action} {device : Device} {id : Nat} {client : SubscriberId}
  {image : Frame}

/-! ### Who has a mailbox -/

theorem clients_step (relay : Relay) (action : Action) :
    relay.clients ⊆ (relay.step action).clients := by
  intro client mem
  have more := relay.subscribers_le_step action
  simp only [clients, List.mem_range'_1] at mem ⊢
  omega

theorem mailbox?_updateMailbox (relay : Relay) (client other : SubscriberId)
    (change : Mailbox → Mailbox) (absent : relay.mailbox? client = none) :
    (relay.updateMailbox other change).mailbox? client = none := by
  show (relay.broker.mailboxes.update _ _).get? (handle client).mailbox = none
  by_cases here : (handle client).mailbox = (handle other).mailbox
  · rw [← here, Mailboxes.get?_update]
    exact Option.map_eq_none_iff.mpr absent
  · rw [Mailboxes.get?_update_of_ne _ here]
    exact absent

namespace Numbered

theorem new (settings : RelaySettings) : (Relay.new settings).Numbered :=
  fun _ present => absurd rfl present

theorem step (h : relay.Numbered) (sound : Sound Own relay.broker.lives) (action : Action) :
    (relay.step action).Numbered := by
  intro client present
  have known (here : (relay.step action).mailbox? client ≠ none → relay.mailbox? client ≠ none) :
      client ∈ (relay.step action).clients :=
    relay.clients_step action (h client (here present))
  rcases relay.mailbox?_step client sound action with ⟨offer, put⟩ | ⟨acts, _⟩
  · refine known fun some none => some ?_
    rw [put, none]
    rfl
  · cases action with
    | subscribe =>
      by_cases new : client = relay.subscribers + 1
      · rw [new]
        show relay.subscribers + 1 ∈ List.range' 1 (relay.subscribers + 1)
        rw [List.mem_range'_1]
        omega
      · refine known fun some none => some ?_
        have apart : (handle client).mailbox ≠ (handle (relay.subscribers + 1)).mailbox := new
        exact (Mailboxes.get?_set_of_ne _ apart _).trans none
    | receive taker count => exact known (mt (relay.mailbox?_updateMailbox client taker _))
    | closeMailbox closer => exact known (mt (relay.mailbox?_updateMailbox client closer _))
    | dropMailbox dropper => exact known (mt (relay.mailbox?_updateMailbox client dropper _))
    | _ => cases acts

theorem run (h : relay.Numbered) (sound : Sound Own relay.broker.lives) (orderly : relay.Orderly)
    (actions : List Action) : (relay.run actions).Numbered := by
  induction actions generalizing relay with
  | nil => exact h
  | cons action rest ih =>
    exact ih (h.step sound action) (sound_step sound orderly action) (orderly.step action)

end Numbered

/-! ### The counters -/

theorem frameCounts_spared (spares : action.SparesDecoders) :
    (relay.step action).broker.frameCounts = relay.broker.frameCounts := by
  have moved := relay.moves action
  generalize (relay.step action).broker = next, (relay.step action).requests = after at moved ⊢
  cases moved with
  | enter => exact Broker.frameCounts_enter ..
  | wake => exact Broker.frameCounts_resume ..
  | stop leaver device => exact Broker.frameCounts_detach ..
  | disconnect leaver => exact Broker.frameCounts_disconnect ..
  | shutdown => exact Broker.frameCounts_close _
  | report device session report kind => rcases kind with rfl | rfl <;> exact spares.elim
  | _ => rfl

theorem frameCounts_quiet (quiet : relay.carried? action = none) :
    (relay.step action).broker.frameCounts = relay.broker.frameCounts := by
  cases action with
  | observe session observation =>
    simp only [step]
    repeat' split
    all_goals rfl
  | report session =>
    cases found : relay.decoder? session with
    | none => simp only [step, found]
    | some supervisor =>
      cases due : supervisor.due? with
      | none => simp only [step, found, due]
      | some report => simp [carried?, found, due] at quiet
  | notice => cases quiet
  | _ => exact frameCounts_spared trivial

/-- An action that reports no frame moves no counter, and no frame goes to anybody. -/
theorem counted_frameless (sound : Sound Own relay.broker.lives)
    (frameless : ∀ device id image, relay.carried? action ≠ some (device, id, .frame image)) :
    (relay.step action).broker.frameCounts = relay.broker.frameCounts ∧
      relay.accepts action = [] ∧ relay.refuses action = [] := by
  have unframed (device : Device) (id : Nat) : relay.frame? device id action = none := by
    cases framed : relay.frame? device id action with
    | none => rfl
    | some image => exact absurd (carried?_of_frame? framed) (frameless device id image)
  refine ⟨?_, ?_, ?_⟩
  · cases carried : relay.carried? action with
    | none => exact frameCounts_quiet carried
    | some made =>
      obtain ⟨device, id, report⟩ := made
      rw [step_of_carried carried]
      refine Broker.frameCounts_report fun image eq => frameless device id image ?_
      rw [carried, eq]
  · refine List.flatMap_eq_nil_iff.mpr fun client _ => ?_
    rw [List.map_eq_nil_iff, List.filter_eq_nil_iff]
    intro event gained framed
    cases event with
    | frame device image =>
      obtain ⟨number, shown, _⟩ := watched_of_gained sound gained
      rw [unframed] at shown
      cases shown
    | _ => cases framed
  · refine List.filter_eq_nil_iff.mpr fun client _ => ?_
    simp [drops, unframed]

/-! ### A frame -/

/-- The clients that watch a session and for whom an event comes out in some way. -/
def takers (relay : Relay) (device : Device) (id : Nat) (event : Event) (delivery : Delivery) :
    List SubscriberId :=
  relay.clients.filter fun client =>
    relay.broker.roster.Watched id device client ∧
      relay.broker.mailboxes.verdict event (handle client) = delivery

theorem verdict_eq (relay : Relay) (event : Event) (client : SubscriberId) :
    relay.broker.mailboxes.verdict event (handle client) =
      ((relay.mailbox? client).map (·.verdict event)).getD .closed := rfl

theorem gains_of_frame (sound : Sound Own relay.broker.lives)
    (carried : relay.carried? action = some (device, id, .frame image)) (client : SubscriberId) :
    relay.gains client action =
      if relay.broker.roster.Watched id device client ∧
          relay.broker.mailboxes.verdict (.frame device image) (handle client) = .sent
      then [.frame device image] else [] := by
  obtain ⟨offers, keeps⟩ := mailbox?_report client sound carried
  by_cases watched : relay.broker.roster.Watched id device client
  · have offered : (relay.step action).mailbox? client =
        (relay.mailbox? client).map (·.offered (some (.frame device image))) := offers watched
    rw [verdict_eq]
    cases found : relay.mailbox? client with
    | none =>
      rw [found] at offered
      rw [if_neg (by simp), gains_same (offered.trans found.symm)]
    | some box =>
      by_cases sent : box.verdict (.frame device image) = .sent
      · rw [if_pos ⟨watched, sent⟩, gains_of_sent offered found sent]
      · rw [found, Option.map_some, Mailbox.offered, Mailbox.deliver_of_unsent sent] at offered
        rw [if_neg fun both => sent both.2, gains_same (offered.trans found.symm)]
  · rw [if_neg fun both => watched both.1, gains_same (keeps watched)]

theorem accepts_of_frame (sound : Sound Own relay.broker.lives)
    (carried : relay.carried? action = some (device, id, .frame image)) :
    relay.accepts action =
      (relay.takers device id (.frame device image) .sent).map fun client =>
        (client, .frame device image) := by
  simp only [accepts, takers, gains_of_frame sound carried]
  induction relay.clients with
  | nil => rfl
  | cons client rest ih =>
    rw [List.flatMap_cons, List.filter_cons, ih]
    by_cases sent : relay.broker.roster.Watched id device client ∧
        relay.broker.mailboxes.verdict (.frame device image) (handle client) = .sent
    · simp [sent, Event.isFrame]
    · simp [sent]

theorem refuses_of_frame (carried : relay.carried? action = some (device, id, .frame image)) :
    relay.refuses action = relay.takers device id (.frame device image) .dropped := by
  refine List.filter_congr fun client _ => ?_
  refine Bool.eq_iff_iff.mpr ?_
  rw [List.any_eq_true, decide_eq_true_iff, verdict_eq]
  have dropped (session : Session) : relay.drops session.device session.id client action = true ↔
      session.id = id ∧ session.device = device ∧
        ((relay.mailbox? client).map (·.verdict (.frame device image))).getD .closed = .dropped := by
    simp only [drops, frame?, carried]
    by_cases here : device = session.device ∧ id = session.id
    · obtain ⟨rfl, rfl⟩ := here
      cases relay.mailbox? client <;> simp
    · rw [if_neg here]
      constructor
      · intro impossible
        cases impossible
      · intro same
        exact absurd ⟨same.2.1.symm, same.1.symm⟩ here
  simp only [Bool.and_eq_true, dropped]
  constructor
  · rintro ⟨session, mem, watches, number, there, full⟩
    exact ⟨⟨session, mem, number, there, watches⟩, full⟩
  · rintro ⟨⟨session, mem, number, there, watches⟩, full⟩
    exact ⟨session, mem, watches, number, there, full⟩

/-- A frame of a session that is gone goes to nobody. -/
theorem takers_of_stale (sound : Sound Own relay.broker.lives)
    (stale : relay.broker.roster.current? device id = none) (event : Event) (delivery : Delivery) :
    relay.takers device id event delivery = [] := by
  refine List.filter_eq_nil_iff.mpr fun client _ taken => ?_
  obtain ⟨watched, _⟩ := of_decide_eq_true taken
  obtain ⟨session, current, _⟩ := current_of_watched sound watched
  rw [stale] at current
  cases current

/-- The fan-out of a frame of a session counts the clients that watch the session. -/
theorem length_takers (sound : Sound Own relay.broker.lives) (numbered : relay.Numbered)
    {session : Session} (current : relay.broker.roster.current? device id = some session)
    (event : Event) {delivery : Delivery} (listens : delivery ≠ .closed) :
    (relay.takers device id event delivery).length =
      (Session.fanOut event session.subscribers relay.broker.mailboxes).2.number delivery := by
  obtain ⟨here, there⟩ := Roster.mem_of_get? (Roster.get?_of_current? current)
  have number : session.id = id := (Roster.current?_eq_some.mp current).2
  have thrives := sound.live session here
  rw [Session.number_fanOut event (distinct_of_thrives thrives)]
  let taken := session.subscribers.filter fun s =>
    relay.broker.mailboxes.verdict event s = delivery
  have distinct : (taken.map (·.id)).Nodup := thrives.distinct.sublist (List.filter_sublist.map _)
  have clients : (relay.takers device id event delivery).Nodup :=
    List.Nodup.sublist List.filter_sublist List.nodup_range'
  have same : (relay.takers device id event delivery).Perm (taken.map (·.id)) := by
    refine (List.perm_ext_iff_of_nodup clients distinct).mpr fun client => ?_
    simp only [takers, taken, List.mem_filter, List.mem_map, decide_eq_true_eq]
    constructor
    · rintro ⟨_, watched, comes⟩
      have watches := (watched.get? sound.devices (Roster.get?_of_current? current)).2
      obtain ⟨subscriber, mem, rfl⟩ :=
        List.mem_map.mp ((session.hasSubscriber_iff client).mp watches)
      have own : subscriber = handle subscriber.id := thrives.knows subscriber mem
      exact ⟨subscriber, ⟨mem, by rw [own]; exact comes⟩, rfl⟩
    · rintro ⟨subscriber, ⟨mem, comes⟩, rfl⟩
      have own : subscriber = handle subscriber.id := thrives.knows subscriber mem
      have watches := (session.hasSubscriber_iff subscriber.id).mpr (List.mem_map_of_mem mem)
      rw [own] at comes
      refine ⟨numbered _ fun none => listens ?_, ⟨session, here, number, there, watches⟩, comes⟩
      rw [← comes, verdict_eq, none]
      rfl
  rw [same.length_eq, List.length_map]

/-! ### Steps and runs -/

/-- The counters move by as many frames as an action puts into mailboxes, and by as many clients as
have no room for one. -/
theorem frameCounts_step (sound : Sound Own relay.broker.lives) (numbered : relay.Numbered)
    (action : Action) :
    (relay.step action).broker.frameCounts =
      (relay.broker.framesDelivered + (relay.accepts action).length,
        relay.broker.framesDropped + (relay.refuses action).length) := by
  by_cases framed : ∃ device id image, relay.carried? action = some (device, id, .frame image)
  · obtain ⟨device, id, image, carried⟩ := framed
    rw [accepts_of_frame sound carried, refuses_of_frame carried, List.length_map,
      step_of_carried carried]
    cases current : relay.broker.roster.current? device id with
    | none =>
      rw [Broker.report_of_stale current, takers_of_stale sound current,
        takers_of_stale sound current]
      rfl
    | some session =>
      have there : session.device = device :=
        (Roster.mem_of_get? (Roster.get?_of_current? current)).2
      rw [Broker.frameCounts_frame current, length_takers sound numbered current _ (by decide),
        length_takers sound numbered current _ (by decide), ← there]
      rfl
  · obtain ⟨same, accepts, refuses⟩ := counted_frameless sound fun device id image carried =>
      framed ⟨device, id, image, carried⟩
    rw [same, accepts, refuses]
    rfl

theorem frameCounts_run (sound : Sound Own relay.broker.lives) (orderly : relay.Orderly)
    (numbered : relay.Numbered) (actions : List Action) :
    (relay.run actions).broker.frameCounts =
      (relay.broker.framesDelivered + (along accepts relay actions).length,
        relay.broker.framesDropped + (along refuses relay actions).length) := by
  induction actions generalizing relay with
  | nil => rfl
  | cons action rest ih =>
    have moved := frameCounts_step sound numbered action
    obtain ⟨taken, refused⟩ := Prod.mk.inj moved
    have later := ih (sound_step sound orderly action) (orderly.step action)
      (numbered.step sound action)
    rw [taken, refused] at later
    simp only [along, List.length_append, ← Nat.add_assoc]
    exact later

theorem departed_run (sound : Sound Own relay.broker.lives) (orderly : relay.Orderly)
    (actions : List Action) : relay.broker.departed ⊆ (relay.run actions).broker.departed := by
  induction actions generalizing relay with
  | nil => exact List.Subset.refl _
  | cons action rest ih =>
    have later := ih (sound_step sound orderly action) (orderly.step action)
    exact List.Subset.trans (keeps_step sound orderly action).departed later

/-- In every state of every run, the counters tell how many frames were put into mailboxes so far, and
how often a client that watched a session had no room for a frame of it; nobody but the clients that
have come has a mailbox. As many sessions were created as there are and as have left: these are all
the numbers up to the count, each once, and who has left stays gone. The subscribers of a session are
distinct, and every single broadcast accounts for all of them. -/
theorem frames_counted (settings : RelaySettings) (actions : List Action) :
    let relay := (new settings).run actions
    let stats := relay.broker.stats
    let sessions := relay.broker.roster.sessions
    let departed := relay.broker.departed
    stats.framesDelivered = (along accepts (new settings) actions).length ∧
    stats.framesDropped = (along refuses (new settings) actions).length ∧
    (∀ client, relay.mailbox? client ≠ none → client ∈ relay.clients) ∧
    stats.sessionsCreated = stats.activeSessions + departed.length ∧
    ((sessions ++ departed).map (·.id)).Perm (List.range' 1 stats.sessionsCreated) ∧
    (∀ later, departed ⊆ ((new settings).run (actions ++ later)).broker.departed) ∧
    (∀ session ∈ sessions, (session.subscribers.map (·.id)).Nodup) ∧
    ∀ (session : Session) (boxes : Mailboxes) (frame : Frame),
      let shown := session.broadcast boxes frame
      shown.2.2.Accounts boxes session.subscribers shown.1.subscribers := by
  intro relay stats sessions departed
  have fresh : Sound Own (new settings).broker.lives := sound_new settings
  have sound : Sound Own relay.broker.lives := sound_run fresh (.new settings) actions
  have counted := frameCounts_run fresh (.new settings) (.new settings) actions
  obtain ⟨delivered, dropped⟩ := Prod.mk.inj counted
  have numbers : ((sessions ++ departed).map (·.id)).Perm (List.range' 1 stats.sessionsCreated) := by
    have rolled := sound.numbers
    rwa [roll, List.map_map] at rolled
  refine ⟨?_, ?_, ?_, ?_, numbers, fun later => ?_, fun session here => ?_, Session.broadcast_accounts⟩
  · exact delivered.trans (Nat.zero_add _)
  · exact dropped.trans (Nat.zero_add _)
  · exact (Numbered.new settings).run fresh (.new settings) actions
  · have length := numbers.length_eq
    rw [List.length_range', List.length_map, List.length_append] at length
    exact length.symm
  · rw [run_append]
    exact departed_run sound ((Orderly.new settings).run actions) later
  · exact (sound.live session here).distinct

/-- A client has room for one frame. Of two it is given the first. -/
example :
    let relay := (new { subscriberBuffer := 1 }).run
      [.register ⟨"cam-1"⟩ { locator := "rtsp://127.0.0.1:554/cam-1" }, .subscribe,
       .ask 1 ⟨"cam-1"⟩, .resolve 1, .enter 1 none, .receive 1 1,
       .notice ⟨"cam-1"⟩ 1 (.frame ⟨0, [1]⟩), .notice ⟨"cam-1"⟩ 1 (.frame ⟨1, [2]⟩)]
    relay.broker.stats.framesDelivered = 1 ∧ relay.broker.stats.framesDropped = 1 := by
  decide

end Relay

end CameraRelay
