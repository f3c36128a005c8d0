import CameraRelay.Proofs.Relay.Tally

/-!
# The output of a decoder on its way

What a decoder writes is read, counted, cut into frames and handed out. While a session goes on its
counters tell what was read and what was reported, its supervisor has the rest, and a client that
watches it all the time and always has room is given its frames, all of them and no others. Main
statement: `output_conserved`.
-/

namespace CameraRelay

/-! ### Who is shown a frame -/

theorem Mailbox.sent_of_room {event : Event} (box : Mailbox) (opened : box.isClosed = false)
    (room : box.verdict event ≠ .dropped) : box.verdict event = .sent := by
  simp only [verdict, opened, Bool.false_eq_true, if_false] at room ⊢
  by_cases free : (if event.isFrame = true then controlReserve else 0) < box.free
  · exact if_pos free
  · exact absurd (if_neg free) room

namespace Broker

variable {broker : Broker} {device : Device} {id : Nat} {session : Session} {image : Frame}

/-- Whoever still watches a session after a frame of it listens. -/
theorem listens_of_shown (current : broker.roster.current? device id = some session)
    {client : SubscriberId} {number : Nat}
    (watched : (broker.report device id (.frame image)).1.roster.Watched number device client) :
    ∃ subscriber ∈ session.subscribers, subscriber.id = client ∧
      broker.mailboxes.isClosed subscriber = false := by
  have there : session.device = device :=
    (Roster.mem_of_get? (Roster.get?_of_current? current)).2
  obtain ⟨other, mem, _, here, watches⟩ := watched
  simp only [Broker.report, deliverFrame, current] at mem
  split at mem
  · rw [roster_teardown] at mem
    exact absurd here (by simpa using (List.mem_filter.mp mem).2)
  · rcases Roster.mem_put mem with rfl | ⟨_, apart⟩
    · obtain ⟨subscriber, kept, same⟩ :=
        List.mem_map.mp ((Session.hasSubscriber_iff _ client).mp watches)
      obtain ⟨attached, spared⟩ := List.mem_filter.mp kept
      refine ⟨subscriber, attached, same, Bool.eq_false_iff.mpr fun closed => ?_⟩
      have failed : subscriber.id ∈ (Session.fanOut (.frame session.device image)
          session.subscribers broker.mailboxes).2.failed :=
        Session.mem_failed.mpr ⟨subscriber, attached, rfl, closed⟩
      simp [failed] at spared
    · exact absurd (here.trans there.symm) apart

end Broker

def Event.frameOf? (device : Device) : Event → Option Frame
  | .frame named image => if named = device then some image else none
  | _ => none

namespace Relay

/-- The frames of a device that a client is given over some actions. -/
def handed (relay : Relay) (device : Device) (client : SubscriberId) : List Action → List Frame
  | [] => []
  | action :: rest =>
    (relay.gains client action).filterMap (·.frameOf? device) ++
      (relay.step action).handed device client rest

/-- Whether an action reports a frame of a session for which a client has no room. -/
def drops (relay : Relay) (device : Device) (id : Nat) (client : SubscriberId) (action : Action) :
    Bool :=
  match relay.frame? device id action, relay.mailbox? client with
  | some image, some box => box.verdict (.frame device image) = .dropped
  | _, _ => false

/-- A client watches a session over all of some actions, and has room for its frames. -/
def Attends (relay : Relay) (device : Device) (id : Nat) (client : SubscriberId) :
    List Action → Prop
  | [] => relay.broker.roster.Watched id device client
  | action :: rest =>
    relay.broker.roster.Watched id device client ∧ relay.drops device id client action = false ∧
      (relay.step action).Attends device id client rest

instance decidableAttends (relay : Relay) (device : Device) (id : Nat) (client : SubscriberId) :
    (actions : List Action) → Decidable (relay.Attends device id client actions)
  | [] => inferInstanceAs (Decidable (∃ session ∈ relay.broker.roster.sessions, _ ∧ _ ∧ _))
  | action :: rest =>
    have := decidableAttends (relay.step action) device id client rest
    inferInstanceAs (Decidable ((∃ session ∈ relay.broker.roster.sessions, _ ∧ _ ∧ _) ∧ _ ∧ _))

variable {relay : Relay} {action : Action} {device : Device} {id : Nat} {client : SubscriberId}

/-! ### What a client is given -/

theorem unique_of_watched (sound : Sound Own relay.broker.lives) {number : Nat}
    (first : relay.broker.roster.Watched id device client)
    (second : relay.broker.roster.Watched number device client) : number = id := by
  obtain ⟨session, here, rfl, there, _⟩ := first
  have found : relay.broker.roster.get? device = some session := by
    rw [← there]
    exact Roster.get?_of_mem sound.devices here
  exact (second.get? sound.devices found).1.symm

theorem mailbox?_of_listens (listens : relay.broker.mailboxes.isClosed (handle client) = false) :
    ∃ box, relay.mailbox? client = some box ∧ box.isClosed = false := by
  simp only [Mailboxes.isClosed] at listens
  split at listens
  · next box found => exact ⟨box, found, listens⟩
  · cases listens

theorem gains_of_sent {event : Event} {box : Mailbox}
    (offered : (relay.step action).mailbox? client =
      (relay.mailbox? client).map (·.offered (some event)))
    (found : relay.mailbox? client = some box) (sent : box.verdict event = .sent) :
    relay.gains client action = [event] := by
  have before : relay.events client = box.queue := by
    simp only [mailbox?] at found
    simp only [events, found, Option.map_some, Option.getD_some]
  have after : (relay.step action).events client = box.queue ++ [event] := by
    simp only [mailbox?] at offered found
    simp only [events, offered, found, Option.map_some, Option.getD_some, Mailbox.offered,
      Mailbox.deliver_eq, sent]
  rw [gains, before, after, List.drop_left]

/-- A client that watches a session before and after an action is given the frame that the action
reports of it, if there is room, and no other frame of the device. -/
theorem handed_step (sound : Sound Own relay.broker.lives)
    (watched : relay.broker.roster.Watched id device client)
    (room : relay.drops device id client action = false)
    (still : (relay.step action).broker.roster.Watched id device client) :
    (relay.gains client action).filterMap (·.frameOf? device) =
      (relay.frame? device id action).toList := by
  cases framed : relay.frame? device id action with
  | none =>
    refine List.filterMap_eq_nil_iff.mpr fun event gained => ?_
    cases event with
    | frame named image =>
      refine if_neg fun here => ?_
      obtain rfl := here
      obtain ⟨number, shown, watches⟩ := watched_of_gained sound gained
      obtain rfl := unique_of_watched sound watched watches
      rw [framed] at shown
      cases shown
    | _ => rfl
  | some image =>
    have carried := carried?_of_frame? framed
    obtain ⟨session, current, _⟩ := current_of_watched sound watched
    have here := (Roster.mem_of_get? (Roster.get?_of_current? current)).1
    rw [step_of_carried carried] at still
    -- Whose mailbox is closed is detached with the frame, so this client listens.
    obtain ⟨subscriber, mem, rfl, listens⟩ := Broker.listens_of_shown current still
    rw [(sound.live session here).knows subscriber mem] at listens
    have offered := (mailbox?_report subscriber.id sound carried).1 watched
    obtain ⟨box, found, opened⟩ := mailbox?_of_listens listens
    have fits : box.verdict (.frame device image) ≠ .dropped := by
      simpa [drops, framed, found] using room
    have gained := gains_of_sent offered found (box.sent_of_room opened fits)
    simp [gained, Event.frameOf?]

theorem handed_of_attends (supervised : relay.Supervised) (orderly : relay.Orderly)
    {actions : List Action} (attends : relay.Attends device id client actions) :
    relay.handed device client actions = relay.frames device id actions := by
  induction actions generalizing relay with
  | nil => rfl
  | cons action rest ih =>
    obtain ⟨watched, room, goesOn⟩ := attends
    have still : (relay.step action).broker.roster.Watched id device client := by
      cases rest with
      | nil => exact goesOn
      | cons => exact goesOn.1
    rw [handed, frames, handed_step supervised.sound watched room still,
      ih (supervised.step orderly action) (orderly.step action) goesOn]

/-! ### From the decoder to the client -/

/-- A decoder's output is divided by size, with a threshold of 1 at least. First, whatever sink a
supervisor reports to and whatever it reads, as long as all its reports were wanted the frames that
were reported are numbered from 0, every byte was counted, and the frames and what is held divide the
reads. Second, in every state of every run the counters of the current session of a device tell what
was read from its decoder and which frames were reported, if nobody else reports for it: the
supervisor has the account of all bytes, and once nothing is due all of them were counted and are in
a frame or held. Third, a client that watches the session over any part of the run, and always has
room, is given the frames that are reported meanwhile, in their order, and no others of the device. -/
theorem output_conserved (settings : RelaySettings)
    (bySize : settings.decoder.framing = .bySize) :
    let threshold := max settings.decoder.flushThreshold 1
    (∀ (σ : Type) (sink : σ → Device → Nat → Report → σ × Bool) (state : σ) (device : Device)
        (id : Nat) (chunks : List Bytes), (∀ chunk ∈ chunks, chunk ≠ []) →
      let start := Supervisor.start settings.decoder device id
      let result := start.run (Supervisor.logging sink) (state, []) (chunks.map .read)
      let frames := Supervisor.framesOf result.2.2
      (result.1, result.2.1) = start.run sink state (chunks.map .read) ∧
      ((∀ entry ∈ result.2.2, entry.2 = true) →
        frames.map (·.sequence) = List.range frames.length ∧
        Supervisor.countOf result.2.2 = chunks.flatten.length ∧
        Divides threshold chunks (frames.map (·.data)) result.1.splitter.held)) ∧
    (∀ (past : List Action) (device : Device) (id : Nat) (session : Session),
      (∀ report, .notice device id report ∉ past) →
      ((new settings).run past).broker.roster.current? device id = some session →
      let reads := (new settings).reads id past
      let frames := (new settings).frames device id past
      frames.map (·.sequence) = List.range frames.length ∧
      session.frames = frames.length ∧
      ∃ supervisor, ((new settings).run past).decoder? id = some supervisor ∧
        supervisor.Accounts threshold reads session.bytesRead frames ∧
        (supervisor.due? = none →
          session.bytesRead = reads.flatten.length ∧
          Divides threshold reads (frames.map (·.data)) supervisor.splitter.held)) ∧
    (∀ (past during : List Action) (device : Device) (id : Nat) (client : SubscriberId),
      ((new settings).run past).Attends device id client during →
      ((new settings).run past).handed device client during =
        ((new settings).run past).frames device id during) := by
  intro threshold
  have fresh : (new settings).Supervised := .new settings
  have orderly : (new settings).Orderly := .new settings
  refine ⟨?_, ?_, ?_⟩
  · intro σ sink state device id chunks some start result frames
    refine ⟨start.run_logging sink (state, []) (chunks.map .read), fun wanted => ?_⟩
    have begun : start.Accounts threshold [] 0 [] := Supervisor.accounts_start bySize device id
    obtain ⟨accounts, watch⟩ : result.1.Accounts threshold ([] ++ chunks)
        (Supervisor.countOf result.2.2) frames ∧ result.1.watch = .watching :=
      Supervisor.accounts_run some begun rfl rfl wanted
    obtain ⟨counted, divides⟩ := accounts.rest (by simp [Supervisor.due?, watch])
    exact ⟨accounts.numbered, counted, divides⟩
  · intro past device id session own current reads frames
    have tallied : ((new settings).run past).Tallied device id threshold reads frames :=
      (Tallied.new bySize device id).run fresh orderly own
    obtain ⟨here, there⟩ := Roster.mem_of_get? (Roster.get?_of_current? current)
    have number : session.id = id := (Roster.current?_eq_some.mp current).2
    obtain ⟨total, supervisor, found, accounts⟩ := tallied.tallies session here number there
    exact ⟨accounts.numbered, total, supervisor, found, accounts, accounts.rest⟩
  · intro past during device id client attends
    exact handed_of_attends (fresh.run orderly past) (orderly.run past) attends

/-- Two bytes may be held. A client watches while four are read. -/
def sparing : RelaySettings := { decoder := { flushThreshold := 2 } }

def watching : List Action :=
  [.register ⟨"cam-1"⟩ { locator := "rtsp://127.0.0.1:554/cam-1" }, .subscribe,
   .ask 1 ⟨"cam-1"⟩, .resolve 1, .enter 1 none]

def reading : List Action :=
  [.observe 1 (.read [1]), .report 1, .observe 1 (.read [2, 3]), .report 1, .report 1,
   .observe 1 (.read [4]), .report 1]

theorem output_conserved_four_bytes :
    let chunks : List Bytes := [[1], [2, 3], [4]]
    let result := (Supervisor.start sparing.decoder ⟨"cam-1"⟩ 1).run
      (Supervisor.logging fun (made : Nat) _ _ _ => (made + 1, true)) (0, []) (chunks.map .read)
    let relay := (new sparing).run (watching ++ reading)
    sparing.decoder.framing = .bySize ∧
      Supervisor.countOf result.2.2 = 4 ∧
      Supervisor.framesOf result.2.2 = [⟨0, [1, 2, 3]⟩] ∧ result.1.splitter.held = [4] ∧
      Divides 2 chunks [[1, 2, 3]] [4] ∧
      (∃ session, relay.broker.roster.current? ⟨"cam-1"⟩ 1 = some session ∧
        session.bytesRead = 4 ∧ session.frames = 1) ∧
      ((new sparing).run watching).handed ⟨"cam-1"⟩ 1 reading = [⟨0, [1, 2, 3]⟩] := by
  intro chunks result relay
  obtain ⟨any, counted, given⟩ := output_conserved sparing rfl
  have frames : Supervisor.framesOf result.2.2 = [⟨0, [1, 2, 3]⟩] := by decide
  have held : result.1.splitter.held = [4] := by decide
  obtain ⟨_, count, divides⟩ := (any Nat (fun made _ _ _ => (made + 1, true)) 0 ⟨"cam-1"⟩ 1 chunks
    (by decide)).2 (by decide)
  have own (report : Report) : .notice ⟨"cam-1"⟩ 1 report ∉ watching ++ reading := by
    simp [watching, reading]
  have present : (relay.broker.roster.current? ⟨"cam-1"⟩ 1).isSome = true := by decide
  obtain ⟨session, current⟩ := Option.isSome_iff_exists.mp present
  obtain ⟨_, total, supervisor, found, _, rest⟩ := counted _ _ _ session own current
  have idle : (relay.decoder? 1).all (·.due?.isNone) = true := by decide
  have quiet : supervisor.due? = none := by
    rw [show relay.decoder? 1 = some supervisor from found] at idle
    simpa using idle
  have read : ((new sparing).reads 1 (watching ++ reading)).flatten.length = 4 := by decide
  have reported : ((new sparing).frames ⟨"cam-1"⟩ 1 (watching ++ reading)).length = 1 := by decide
  have meanwhile : ((new sparing).run watching).frames ⟨"cam-1"⟩ 1 reading =
      [⟨0, [1, 2, 3]⟩] := by decide
  refine ⟨rfl, count, frames, held, ?_, ⟨session, current, ?_, ?_⟩, ?_⟩
  · rw [frames, held] at divides
    exact divides
  · exact (rest quiet).1.trans read
  · exact total.trans reported
  · exact (given watching reading ⟨"cam-1"⟩ 1 1 (by decide)).trans meanwhile

end Relay

end CameraRelay
