import CameraRelay.Proofs.Broker.Changes

/-!
# The lives of sessions

A session comes live into the roster, or fails as it comes. It goes on with other subscribers and
other counts, and leaves by a teardown, after which it is kept as it ended. Every step of the broker
comes down to this, and no step starts more than one session.
-/

namespace CameraRelay

open Relation (ReflTransGen)

namespace Session

/-- The session as it is made for its first subscriber. -/
def first (id : Nat) (device : Device) (locator : String) (subscriber : Subscriber) : Session :=
  { id, device, locator, subscribers := [subscriber] }

/-- The session as a teardown leaves it. -/
def concluded (session : Session) : Teardown → Session
  | .stop => session.stopDecoder.1.advance .terminated
  | .exit .stopped => session.stopDecoder.1.advance .terminated
  | .exit (.exited _) => { session.advance .ended with subscribers := [] }.advance .terminated
  | .exit (.failed _) =>
    ({ session.advance .error with subscribers := [] } : Session).stopDecoder.1.advance .terminated
  | .spawnFailed _ => { session.advance .error with subscribers := [] }.advance .terminated

/-- A session goes on as another: it may have lost subscribers, or got one. -/
structure Continues (newcomer : Subscriber → Prop) (old session : Session) : Prop where
  id : session.id = old.id
  phase : session.phase = old.phase
  decoder : session.decoder = old.decoder
  refusedMoves : session.refusedMoves = old.refusedMoves
  subscribers : session.subscribers.Sublist old.subscribers ∨
    ∃ subscriber, newcomer subscriber ∧
      session.subscribers = (old.attach subscriber).1.subscribers

theorem continues_attach {newcomer : Subscriber → Prop} (session : Session)
    {subscriber : Subscriber} (new : newcomer subscriber) :
    session.Continues newcomer (session.attach subscriber).1 := by
  refine ⟨session.id_attach subscriber, ?_, ?_, ?_, .inr ⟨subscriber, new, rfl⟩⟩
  all_goals
    simp only [attach]
    split <;> rfl

end Session

/-- One change in the lives of sessions, in the roster and among those that left it. -/
inductive Life (ending : Teardown → Prop) (newcomer : Subscriber → Prop) :
    Roster × List Session → Roster × List Session → Prop
  | goOn {roster : Roster} {departed : List Session} {old : Session} (session : Session)
    (found : roster.get? session.device = some old) (continues : old.Continues newcomer session) :
    Life ending newcomer (roster, departed) (roster.put session, departed)
  | leave {roster : Roster} {departed : List Session} {device : Device} {session : Session}
    {reason : Teardown} (found : roster.get? device = some session) (ends : ending reason) :
    Life ending newcomer (roster, departed)
      (roster.remove device, session.concluded reason :: departed)

/-- A device's session comes with the latest number: it is live, or its decoder did not start and it
is over at once. -/
inductive Birth (newcomer : Subscriber → Prop) (device : Device) : Option SystemFault →
    Roster × List Session → Roster × List Session → Prop
  | live {roster : Roster} {departed : List Session} (locator : String) (subscriber : Subscriber)
    (new : newcomer subscriber) (alone : roster.get? device = none) :
    Birth newcomer device none (roster, departed)
      (roster.add (Session.first (roster.created + 1) device locator subscriber).setDecoder, departed)
  | failed {roster : Roster} {departed : List Session} (locator : String)
    (subscriber : Subscriber) (fault : SystemFault) (message : String) :
    Birth newcomer device (some fault) (roster, departed)
      ({ roster with created := roster.created + 1 },
        (Session.first (roster.created + 1) device locator subscriber).concluded
          (.spawnFailed message) :: departed)

/-- How a report may end its session: an exit report by that exit, any other by a stop. -/
def Report.Ends : Report → Teardown → Prop
  | .exit cause, reason => reason = .exit cause
  | _, reason => reason = .stop

namespace Broker

/-- The sessions in the roster and those that left it. -/
def lives (broker : Broker) : Roster × List Session := (broker.roster, broker.departed)

/-- No session comes; those that are there go on or leave. -/
def Ages (ending : Teardown → Prop) (newcomer : Subscriber → Prop) (before after : Broker) :
    Prop :=
  ReflTransGen (Life ending newcomer) before.lives after.lives

/-- At most one session comes, before others go on or leave. -/
def Hosts (device : Device) (fault : Option SystemFault) (ending : Teardown → Prop)
    (newcomer : Subscriber → Prop) (before after : Broker) : Prop :=
  Ages ending newcomer before after ∨
    ∃ lives, Birth newcomer device fault before.lives lives ∧
      ReflTransGen (Life ending newcomer) lives after.lives

section

variable {ending : Teardown → Prop} {newcomer : Subscriber → Prop} {device : Device}
  {fault : Option SystemFault} {first second third : Broker}

theorem Ages.same (roster : second.roster = first.roster)
    (departed : second.departed = first.departed) : Ages ending newcomer first second := by
  simp only [Ages, lives, roster, departed]
  exact .refl

theorem Ages.trans (h : Ages ending newcomer first second)
    (h' : Ages ending newcomer second third) : Ages ending newcomer first third :=
  ReflTransGen.trans h h'

theorem Ages.after (h : Ages ending newcomer second third)
    (roster : second.roster = first.roster) (departed : second.departed = first.departed) :
    Ages ending newcomer first third :=
  (Ages.same roster departed).trans h

theorem Ages.hosts (h : Ages ending newcomer first second) :
    Hosts device fault ending newcomer first second := .inl h

theorem Hosts.after (h : Hosts device fault ending newcomer second third)
    (roster : second.roster = first.roster) (departed : second.departed = first.departed) :
    Hosts device fault ending newcomer first third := by
  have same : second.lives = first.lives := by simp only [lives, roster, departed]
  simpa only [Hosts, Ages, same] using h

theorem Hosts.before (h : Hosts device fault ending newcomer first second)
    (roster : third.roster = second.roster) (departed : third.departed = second.departed) :
    Hosts device fault ending newcomer first third := by
  have same : third.lives = second.lives := by simp only [lives, roster, departed]
  simpa only [Hosts, Ages, same] using h

end

variable {ending : Teardown → Prop} {newcomer : Subscriber → Prop} {fault : Option SystemFault}
  (broker : Broker) (subscriber : Subscriber) (device : Device) (locator : String)

/-! ### Sessions -/

theorem teardown_eq {broker : Broker} {device : Device} {session : Session}
    (found : broker.roster.get? device = some session) (reason : Teardown) :
    broker.teardown device reason =
      { broker with
        roster := broker.roster.remove device
        admission := broker.admission.release.1
        mailboxes := (broker.conclude session reason).1.mailboxes
        departed := session.concluded reason :: broker.departed } := by
  cases reason with
  | stop => simp only [teardown, found]; rfl
  | exit exit => cases exit <;> simp only [teardown, found] <;> rfl
  | spawnFailed message => simp only [teardown, found]; rfl

theorem ages_teardown {reason : Teardown} (ends : ending reason) :
    Ages ending newcomer broker (broker.teardown device reason) := by
  cases found : broker.roster.get? device with
  | none =>
    rw [teardown_of_none broker device reason found]
    exact .same rfl rfl
  | some session =>
    simp only [Ages, lives, teardown_eq found]
    exact .single (.leave found ends)

theorem ages_put {broker : Broker} {old session : Session}
    (found : broker.roster.get? session.device = some old)
    (continues : old.Continues newcomer session) :
    Ages ending newcomer broker { broker with roster := broker.roster.put session } :=
  .single (.goOn session found continues)

theorem ages_detach (leaver : SubscriberId) :
    Ages (· = .stop) newcomer broker (broker.detach leaver device) := by
  simp only [detach]
  split
  · exact .same rfl rfl
  · next session found =>
    have there : (session.detach leaver).1.device = device := (Roster.mem_of_get? found).2
    have continues : session.Continues newcomer (session.detach leaver).1 :=
      ⟨rfl, rfl, rfl, rfl, .inl List.filter_sublist⟩
    have detached : Ages (· = .stop) newcomer broker
        { broker with roster := broker.roster.put (session.detach leaver).1 } :=
      ages_put (by rwa [there]) continues
    split
    · exact .same rfl rfl
    · split
      · exact detached.trans (ages_teardown _ device rfl)
      · exact detached

theorem ages_confirmStarted :
    Ages (· = .stop) newcomer broker (broker.confirmStarted subscriber device).1 := by
  have told : Ages (· = .stop) newcomer broker (broker.told subscriber (.started device)) :=
    .same rfl rfl
  rw [confirmStarted_eq]
  split
  · exact told.trans (ages_detach _ device subscriber.id)
  · exact told

theorem ages_join :
    Ages (· = .stop) (· = subscriber) broker (broker.join subscriber device).1 := by
  simp only [join]
  split
  · exact .same rfl rfl
  · next session found =>
    have there : (session.attach subscriber).1.device = device :=
      (session.device_attach subscriber).trans (Roster.mem_of_get? found).2
    have joins : Ages (· = .stop) (· = subscriber) broker
        { broker with roster := broker.roster.put (session.attach subscriber).1 } :=
      ages_put (by rwa [there]) (session.continues_attach rfl)
    exact joins.trans (ages_confirmStarted _ subscriber device)

theorem hosts_openSession :
    Hosts device fault (· = .stop) (· = subscriber) broker
      (broker.openSession subscriber device locator fault).1 := by
  by_cases session : broker.roster.contains device = true
  · rw [openSession_of_session subscriber locator fault session]
    exact ((ages_join broker.release subscriber device).after rfl rfl).hosts
  have absent := get?_of_alone session
  cases fault with
  | none =>
    rw [openSession_of_start subscriber locator session]
    have comes : Birth (· = subscriber) device none (broker.roster, broker.departed)
        (broker.roster.add (broker.firstSession subscriber device locator).setDecoder,
          broker.departed) := .live locator subscriber rfl absent
    refine .inr ⟨(broker.started subscriber device locator).lives, ?_, ages_confirmStarted ..⟩
    simp only [lives, roster_started subscriber locator session]
    exact comes
  | some fault =>
    rw [openSession_of_fault subscriber locator fault session]
    refine .inr ⟨_, .failed locator subscriber fault
      (Failure.processSpawn device fault).clientText, ?_⟩
    have found := get?_opened subscriber locator session
    have gone : (broker.roster.add (broker.firstSession subscriber device locator)).remove device =
        { broker.roster with created := broker.roster.created + 1 } :=
      Roster.remove_add absent rfl
    simp only [lives, teardown_eq found, roster_opened subscriber locator session, gone]
    exact .refl

/-! ### Requests -/

theorem Handles.hosts {broker next : Broker} {subscriber : Subscriber} {device : Device}
    {locator : String} {fault : Option SystemFault} {outcome? : Option Outcome}
    (h : broker.Handles subscriber device locator fault next outcome?) :
    Hosts device fault (· = .stop) (· = subscriber) broker next := by
  cases h with
  | hush _ alike => exact .inl (.same alike.roster alike.departed)
  | told _ _ _ alike => exact .inl (.same alike.roster alike.departed)
  | @joins middle _ same alike =>
    have joined := (ages_join middle subscriber device).after same.roster same.departed
    exact .inl (joined.trans (.same alike.roster alike.departed))
  | @opens middle _ same alike =>
    have opened : Hosts device fault (· = .stop) (· = subscriber) middle _ :=
      hosts_openSession middle subscriber device locator
    exact (opened.after same.roster same.departed).before alike.roster alike.departed

/-! ### Everything else -/

theorem ages_report (id : Nat) (report : Report) :
    Ages report.Ends newcomer broker (broker.report device id report).1 := by
  cases report with
  | bytes count =>
    simp only [Broker.report, recordBytes]
    split
    · exact .same rfl rfl
    · next session current =>
      have found := Roster.get?_of_current? current
      obtain rfl : session.device = device := (Roster.mem_of_get? found).2
      have counted : session.Continues newcomer
          { session with bytesRead := session.bytesRead + count } :=
        ⟨rfl, rfl, rfl, rfl, .inl (List.Sublist.refl _)⟩
      exact ages_put found counted
  | frame frame =>
    simp only [Broker.report, deliverFrame]
    split
    · exact .same rfl rfl
    · next session current =>
      have found := Roster.get?_of_current? current
      obtain rfl : session.device = device := (Roster.mem_of_get? found).2
      have watched : session.Continues newcomer (session.broadcast broker.mailboxes frame).1 :=
        ⟨rfl, rfl, rfl, rfl, .inl List.filter_sublist⟩
      have shown : Ages (Report.frame frame).Ends newcomer broker (broker.shown session frame) :=
        .single (.goOn _ found watched)
      split
      · exact shown.trans (ages_teardown _ session.device rfl)
      · exact shown
  | exit exit =>
    simp only [Broker.report, decoderExited]
    split
    · exact .same rfl rfl
    · exact ages_teardown broker device rfl

theorem ages_disconnect (leaver : SubscriberId) :
    Ages (· = .stop) newcomer broker (broker.disconnect leaver) := by
  have left : Ages (· = .stop) newcomer broker
      ((broker.roster.devicesOf leaver).foldl (·.detach leaver ·) broker) :=
    List.foldlRecOn _ _ (.same rfl rfl) fun current h device _ =>
      h.trans (ages_detach current device leaver)
  exact left.trans (.same rfl rfl)

theorem ages_close : Ages (· = .stop) newcomer broker broker.close :=
  List.foldlRecOn _ _ (.same rfl rfl) fun current h device _ =>
    h.trans (ages_teardown current device rfl)

end Broker

end CameraRelay
