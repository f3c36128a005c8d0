import CameraRelay.Proofs.Broker.Answers
import CameraRelay.Proofs.Broker.Handling
import Mathlib.Logic.Relation

/-!
# How the broker changes the roster

Whatever the broker does to the roster comes down to four kinds of change: a session goes on with
other subscribers or counts, a session leaves, a session comes, and the number of a session that did
not last is used up. None of them leaves a session behind that nobody watches, and none attaches
anybody but the client whose request the same step finishes well.
-/

namespace CameraRelay

open Relation (ReflTransGen)

namespace Session

theorem id_attach (session : Session) (subscriber : Subscriber) :
    (session.attach subscriber).1.id = session.id := by
  simp only [attach]
  split <;> rfl

theorem device_attach (session : Session) (subscriber : Subscriber) :
    (session.attach subscriber).1.device = session.device := by
  simp only [attach]
  split <;> rfl

theorem hasSubscriber_iff (session : Session) (client : SubscriberId) :
    session.hasSubscriber client = true ↔ client ∈ session.subscribers.map (·.id) := by
  simp [hasSubscriber]

theorem hasSubscriber_attach (session : Session) (subscriber : Subscriber) (client : SubscriberId) :
    (session.attach subscriber).1.hasSubscriber client = true ↔
      session.hasSubscriber client = true ∨ client = subscriber.id := by
  rw [hasSubscriber_iff, hasSubscriber_iff]
  simp only [attach]
  split
  · next there =>
    have ids : (session.subscribers.map fun s =>
        if s.id = subscriber.id then subscriber else s).map (·.id) =
          session.subscribers.map (·.id) := by
      rw [List.map_map]
      apply List.map_congr_left
      intro s _
      by_cases same : s.id = subscriber.id <;> simp [same]
    have present := (session.hasSubscriber_iff subscriber.id).mp there
    rw [ids]
    refine ⟨.inl, fun either => either.elim (fun watches => watches) fun eq => ?_⟩
    rwa [eq]
  · rw [List.map_append, List.mem_append, List.map_cons, List.map_nil, List.mem_singleton]

theorem hasSubscriber_detach (session : Session) (leaver client : SubscriberId) :
    (session.detach leaver).1.hasSubscriber client = true ↔
      session.hasSubscriber client = true ∧ client ≠ leaver := by
  simp only [hasSubscriber, detach, List.any_filter, List.any_eq_true, Bool.and_eq_true, bne_iff_ne,
    beq_iff_eq]
  constructor
  · intro watches
    obtain ⟨s, mem, apart, rfl⟩ := watches
    exact ⟨⟨s, mem, rfl⟩, apart⟩
  · intro watches
    obtain ⟨⟨s, mem, rfl⟩, apart⟩ := watches
    exact ⟨s, mem, apart, rfl⟩

theorem subscribers_ne_nil {session : Session} {client : SubscriberId}
    (watches : session.hasSubscriber client = true) : session.subscribers ≠ [] := by
  intro empty
  simp [hasSubscriber, empty] at watches

theorem isClosed_fanOut (event : Event) (subscribers : List Subscriber) (boxes : Mailboxes)
    (other : Subscriber) :
    (fanOut event subscribers boxes).1.isClosed other = boxes.isClosed other := by
  induction subscribers generalizing boxes with
  | nil => rfl
  | cons subscriber rest ih =>
    rw [fanOut_cons, ih]
    exact boxes.isClosed_deliver other event subscriber

end Session

namespace Roster

variable {roster : Roster} {device : Device} {session : Session}

theorem mem_of_get? (found : roster.get? device = some session) :
    session ∈ roster.sessions ∧ session.device = device :=
  ⟨List.mem_of_find?_eq_some found, by simpa using List.find?_some found⟩

theorem current?_eq_some {id : Nat} : roster.current? device id = some session ↔
    roster.get? device = some session ∧ session.id = id := by
  simp [current?, Option.filter_eq_some_iff]

theorem get?_of_current? {id : Nat} (found : roster.current? device id = some session) :
    roster.get? device = some session :=
  (current?_eq_some.mp found).1

theorem put_put {other : Session} (same : other.device = session.device) :
    (roster.put other).put session = roster.put session := by
  simp only [put, List.map_map, Roster.mk.injEq, and_true]
  apply List.map_congr_left
  intro s _
  by_cases here : s.device = session.device <;> simp [same, here]

theorem remove_put (same : session.device = device) :
    (roster.put session).remove device = roster.remove device := by
  simp only [remove, put, Roster.mk.injEq, and_true, List.filter_map]
  have devices : (fun s : Session => s.device != device) ∘
      (fun s => if s.device = session.device then session else s) = fun s => s.device != device := by
    funext s
    by_cases here : s.device = session.device <;> simp [here]
  rw [devices]
  refine (List.map_congr_left fun s mem => ?_).trans (List.map_id _)
  have apart : s.device ≠ session.device := by
    rw [same]
    simpa using (List.mem_filter.mp mem).2
  simp [apart]

theorem remove_of_none (none : roster.get? device = none) : roster.remove device = roster := by
  have away : ∀ s ∈ roster.sessions, ¬ (s.device == device) = true := List.find?_eq_none.mp none
  have kept : roster.sessions.filter (fun s => s.device != device) = roster.sessions :=
    List.filter_eq_self.mpr fun s mem => by simpa using away s mem
  simp only [remove, kept]

/-- The roster with one more session, the latest. -/
def add (roster : Roster) (session : Session) : Roster :=
  { sessions := roster.sessions ++ [session], created := roster.created + 1 }

theorem put_add {other : Session} (alone : roster.get? other.device = none)
    (same : other.device = session.device) :
    (roster.add other).put session = roster.add session := by
  have away : ∀ s ∈ roster.sessions, ¬ (s.device == other.device) = true :=
    List.find?_eq_none.mp alone
  have kept : roster.sessions.map (fun s => if s.device = session.device then session else s) =
      roster.sessions := by
    refine (List.map_congr_left fun s mem => ?_).trans (List.map_id _)
    have apart : s.device ≠ session.device := by simpa [same] using away s mem
    simp [apart]
  simp only [add, put, List.map_append, kept, List.map_cons, same, if_true, List.map_nil]

theorem get?_add (alone : roster.get? device = none) (there : session.device = device) :
    (roster.add session).get? device = some session := by
  have before : roster.sessions.find? (fun s => s.device == device) = none := alone
  simp [get?, add, List.find?_append, before, there]

theorem remove_add (alone : roster.get? device = none) (there : session.device = device) :
    (roster.add session).remove device = { roster with created := roster.created + 1 } := by
  have kept := congrArg Roster.sessions (remove_of_none alone)
  simp only [remove] at kept
  simp [add, remove, List.filter_append, kept, there]

/-- One change of the roster; `may` says whom it may attach to which device. -/
inductive Change (may : SubscriberId → Device → Prop) (roster : Roster) : Roster → Prop
  | put {old : Session} (session : Session) (found : roster.get? session.device = some old)
    (id : session.id = old.id) (watched : old.subscribers ≠ [] → session.subscribers ≠ [])
    (attached : ∀ client, session.hasSubscriber client = true →
      old.hasSubscriber client = true ∨ may client session.device) :
    Change may roster (roster.put session)
  | remove (device : Device) : Change may roster (roster.remove device)
  | add (session : Session) (alone : roster.get? session.device = none)
    (id : session.id = roster.created + 1) (watched : session.subscribers ≠ [])
    (attached : ∀ client, session.hasSubscriber client = true → may client session.device) :
    Change may roster (roster.add session)
  /-- A session comes and leaves in one step. -/
  | spend : Change may roster { roster with created := roster.created + 1 }

theorem Change.mono {may other : SubscriberId → Device → Prop} {next : Roster}
    (h : Change may roster next) (wider : ∀ client device, may client device → other client device) :
    Change other roster next := by
  cases h with
  | put session found id watched attached =>
    exact .put session found id watched fun client watches =>
      (attached client watches).imp_right (wider client session.device)
  | remove device => exact .remove device
  | add session alone id watched attached =>
    exact .add session alone id watched fun client watches =>
      wider client session.device (attached client watches)
  | spend => exact .spend

def nobody (_ : SubscriberId) (_ : Device) : Prop := False

/-- Whom a step attaches that comes to an outcome of a request. -/
def Welcomes (subscriber : Subscriber) (device : Device) (outcome : Outcome)
    (client : SubscriberId) (watched : Device) : Prop :=
  outcome = .ok () ∧ client = subscriber.id ∧ watched = device

theorem change_attach (found : roster.get? device = some session) (subscriber : Subscriber) :
    Change (Welcomes subscriber device (.ok ())) roster
      (roster.put (session.attach subscriber).1) := by
  have there : (session.attach subscriber).1.device = device :=
    (session.device_attach subscriber).trans (mem_of_get? found).2
  refine .put _ (by rwa [there]) (session.id_attach subscriber) (fun _ => ?_) fun client watches => ?_
  · exact Session.subscribers_ne_nil
      ((session.hasSubscriber_attach subscriber subscriber.id).mpr (.inr rfl))
  · refine ((session.hasSubscriber_attach subscriber client).mp watches).imp_right fun eq => ?_
    exact ⟨rfl, eq, there⟩

/-- A session that subscribers left goes on without them, or leaves as well. -/
theorem change_leave {old : Session} (found : roster.get? device = some old)
    (id : session.id = old.id) (there : session.device = device)
    (fewer : ∀ client, session.hasSubscriber client = true → old.hasSubscriber client = true) :
    Change nobody roster
      (if session.isIdle then roster.remove device else roster.put session) := by
  split
  · exact .remove device
  · next busy =>
    refine .put session (by rwa [there]) id (fun _ => ?_) fun client watches => ?_
    · simpa [Session.isIdle] using busy
    · exact .inl (fewer client watches)

end Roster

namespace Broker

open Roster (nobody Welcomes)

/-- A broker changes from one state to another: the roster by changes that attach nobody but those
who may be attached, and no mailbox is opened or closed. -/
structure Shifts (may : SubscriberId → Device → Prop) (before after : Broker) : Prop where
  roster : ReflTransGen (Roster.Change may) before.roster after.roster
  mailboxes : ∀ subscriber, after.mailboxes.isClosed subscriber =
    before.mailboxes.isClosed subscriber

namespace Shifts

variable {may other : SubscriberId → Device → Prop} {first second third : Broker}

theorem same (roster : second.roster = first.roster)
    (mailboxes : second.mailboxes = first.mailboxes) : Shifts may first second where
  roster := by
    rw [roster]
  mailboxes := by
    intro subscriber
    rw [mailboxes]

theorem trans (h : Shifts may first second) (h' : Shifts may second third) :
    Shifts may first third :=
  ⟨h.roster.trans h'.roster, fun s => (h'.mailboxes s).trans (h.mailboxes s)⟩

theorem mono (h : Shifts may first second)
    (wider : ∀ client device, may client device → other client device) :
    Shifts other first second :=
  ⟨h.roster.lift (fun roster => roster) fun _ _ change => change.mono wider, h.mailboxes⟩

theorem lift (h : Shifts nobody first second) : Shifts may first second :=
  h.mono fun _ _ never => never.elim

/-- One change of the roster, and mailboxes as they were. -/
theorem change (roster : Roster.Change may first.roster second.roster)
    (mailboxes : ∀ s, second.mailboxes.isClosed s = first.mailboxes.isClosed s) :
    Shifts may first second :=
  ⟨.single roster, mailboxes⟩

end Shifts

variable (broker : Broker) (subscriber : Subscriber) (device : Device) (locator : String)
  (fault : Option SystemFault)

/-! ### Sessions -/

theorem isClosed_conclude (session : Session) (reason : Teardown) (other : Subscriber) :
    (broker.conclude session reason).1.mailboxes.isClosed other =
      broker.mailboxes.isClosed other := by
  cases reason with
  | stop => rfl
  | exit exit =>
    cases exit with
    | stopped => rfl
    | exited status => exact Session.isClosed_fanOut ..
    | failed message => exact Session.isClosed_fanOut ..
  | spawnFailed message => exact Session.isClosed_fanOut ..

theorem roster_teardown (reason : Teardown) :
    (broker.teardown device reason).roster = broker.roster.remove device := by
  cases found : broker.roster.get? device with
  | none =>
    rw [teardown_of_none broker device reason found, Roster.remove_of_none found]
  | some session =>
    obtain ⟨mailboxes, departed, eq⟩ := teardown_of_some broker device reason found
    rw [eq]

theorem isClosed_teardown (reason : Teardown) (other : Subscriber) :
    (broker.teardown device reason).mailboxes.isClosed other = broker.mailboxes.isClosed other := by
  cases found : broker.roster.get? device with
  | none => rw [teardown_of_none broker device reason found]
  | some session =>
    simp only [teardown, found]
    exact isClosed_conclude { broker with roster := broker.roster.remove device } session reason
      other

theorem shifts_teardown (reason : Teardown) :
    Shifts nobody broker (broker.teardown device reason) := by
  refine .change ?_ (isClosed_teardown broker device reason)
  rw [roster_teardown]
  exact .remove device

section

variable {broker subscriber device locator fault}

theorem detach_of_apart {leaver : SubscriberId}
    (apart : ∀ session, broker.roster.get? device = some session →
      ¬ session.hasSubscriber leaver = true) : broker.detach leaver device = broker := by
  simp only [detach]
  split
  · rfl
  · next session found =>
    have unattached : (session.detach leaver).2 = false := by
      simpa [Session.detach] using apart session found
    simp [unattached]

theorem roster_detach {leaver : SubscriberId} {session : Session}
    (found : broker.roster.get? device = some session)
    (attached : session.hasSubscriber leaver = true) :
    (broker.detach leaver device).roster =
      if (session.detach leaver).1.isIdle then broker.roster.remove device
      else broker.roster.put (session.detach leaver).1 := by
  have was : (session.detach leaver).2 = true := attached
  have here : (session.detach leaver).1.device = device := (Roster.mem_of_get? found).2
  simp only [detach, found, was, Bool.not_true, Bool.false_eq_true, if_false]
  split
  · rw [roster_teardown, Roster.remove_put here]
  · rfl

end

theorem isClosed_detach (leaver : SubscriberId) (other : Subscriber) :
    (broker.detach leaver device).mailboxes.isClosed other = broker.mailboxes.isClosed other := by
  simp only [detach]
  split
  · rfl
  · split
    · rfl
    · split
      · rw [isClosed_teardown]
      · rfl

theorem shifts_detach (leaver : SubscriberId) :
    Shifts nobody broker (broker.detach leaver device) := by
  by_cases attached : ∃ session, broker.roster.get? device = some session ∧
      session.hasSubscriber leaver = true
  · obtain ⟨session, found, attached⟩ := attached
    refine .change ?_ (isClosed_detach broker device leaver)
    rw [roster_detach found attached]
    exact Roster.change_leave found rfl (Roster.mem_of_get? found).2 fun client watches =>
      ((session.hasSubscriber_detach leaver client).mp watches).1
  · rw [detach_of_apart fun session found watches => attached ⟨session, found, watches⟩]
    exact .same rfl rfl

theorem shifts_release {may : SubscriberId → Device → Prop} : Shifts may broker broker.release :=
  .same rfl rfl

@[simp] theorem told_roster (event : Event) :
    (broker.told subscriber event).roster = broker.roster := rfl

theorem shifts_told {may : SubscriberId → Device → Prop} (event : Event) :
    Shifts may broker (broker.told subscriber event) :=
  ⟨.refl, fun other => broker.mailboxes.isClosed_deliver other event subscriber⟩

theorem shifts_join :
    Shifts (Welcomes subscriber device (broker.join subscriber device).2) broker
      (broker.join subscriber device).1 := by
  cases found : broker.roster.get? device with
  | none =>
    simp only [join, found]
    exact .same rfl rfl
  | some session =>
    let attached := (session.attach subscriber).1
    let joined := { broker with roster := broker.roster.put attached }
    have here : session.device = device := (Roster.mem_of_get? found).2
    have there : attached.device = device := (session.device_attach subscriber).trans here
    have joins : broker.join subscriber device = joined.confirmStarted subscriber device := by
      simp only [join, found, joined, attached]
    have told (other : Subscriber) :
        (joined.told subscriber (.started device)).mailboxes.isClosed other =
          broker.mailboxes.isClosed other :=
      broker.mailboxes.isClosed_deliver other (.started device) subscriber
    rw [joins, confirmStarted_eq]
    split
    · have watches : attached.hasSubscriber subscriber.id = true :=
        (session.hasSubscriber_attach subscriber subscriber.id).mpr (.inr rfl)
      have now : (joined.told subscriber (.started device)).roster.get? device = some attached := by
        show (broker.roster.put attached).get? device = some attached
        rw [Roster.get?_put, found, Option.map_some, if_pos (here.trans there.symm)]
      have roster := roster_detach now watches
      have twice : (broker.roster.put attached).put (attached.detach subscriber.id).1 =
          broker.roster.put (attached.detach subscriber.id).1 := Roster.put_put rfl
      simp only [told_roster, joined, Roster.remove_put there, twice] at roster
      refine .lift (.change ?_ fun other => (isClosed_detach ..).trans (told other))
      rw [roster]
      refine Roster.change_leave found (session.id_attach subscriber) there fun client watches => ?_
      obtain ⟨before, apart⟩ := (attached.hasSubscriber_detach subscriber.id client).mp watches
      exact ((session.hasSubscriber_attach subscriber client).mp before).resolve_right apart
    · exact .change (Roster.change_attach found subscriber) told

section

variable {broker device}

theorem get?_of_alone (alone : ¬ broker.roster.contains device = true) :
    broker.roster.get? device = none := by
  simpa [Roster.contains] using alone

theorem roster_opened (alone : ¬ broker.roster.contains device = true) :
    (broker.opened subscriber device locator).roster =
      broker.roster.add (broker.firstSession subscriber device locator) := by
  let empty : Session := { id := broker.roster.created + 1, device, locator }
  have absent : broker.roster.get? empty.device = none := get?_of_alone alone
  exact Roster.put_add absent rfl

theorem roster_started (alone : ¬ broker.roster.contains device = true) :
    (broker.started subscriber device locator).roster =
      broker.roster.add (broker.firstSession subscriber device locator).setDecoder := by
  let first := broker.firstSession subscriber device locator
  have absent : broker.roster.get? first.device = none := get?_of_alone alone
  have replaced : (broker.started subscriber device locator).roster =
      (broker.roster.add first).put first.setDecoder :=
    congrArg (·.put first.setDecoder) (roster_opened subscriber locator alone)
  exact replaced.trans (Roster.put_add absent rfl)

end

theorem subscribers_live :
    (broker.firstSession subscriber device locator).setDecoder.subscribers = [subscriber] := rfl

theorem shifts_openSession :
    Shifts (Welcomes subscriber device (broker.openSession subscriber device locator fault).2) broker
      (broker.openSession subscriber device locator fault).1 := by
  by_cases session : broker.roster.contains device = true
  · rw [openSession_of_session subscriber locator fault session]
    exact (shifts_release broker).trans (shifts_join broker.release subscriber device)
  have absent := get?_of_alone session
  cases fault with
  | none =>
    let live := (broker.firstSession subscriber device locator).setDecoder
    have subscribers : live.subscribers = [subscriber] := subscribers_live ..
    have told (other : Subscriber) :
        ((broker.started subscriber device locator).told subscriber
          (.started device)).mailboxes.isClosed other = broker.mailboxes.isClosed other :=
      broker.mailboxes.isClosed_deliver other (.started device) subscriber
    have roster : ((broker.started subscriber device locator).told subscriber
        (.started device)).roster = broker.roster.add live := roster_started subscriber locator session
    rw [openSession_of_start subscriber locator session, confirmStarted_eq]
    split
    · -- The only subscriber leaves, and the session with it.
      have now : ((broker.started subscriber device locator).told subscriber
          (.started device)).roster.get? device = some live := by
        rw [roster]
        exact Roster.get?_add absent rfl
      have watches : live.hasSubscriber subscriber.id = true := by
        simp [Session.hasSubscriber, subscribers]
      have idle : (live.detach subscriber.id).1.isIdle = true := by
        simp [Session.isIdle, Session.detach, subscribers]
      have left := roster_detach now watches
      rw [if_pos idle, roster, Roster.remove_add absent rfl] at left
      refine .lift (.change ?_ fun other => (isClosed_detach ..).trans (told other))
      rw [left]
      exact .spend
    · refine .change ?_ told
      rw [roster]
      refine .add live absent rfl ?_ fun client watches => ⟨rfl, ?_, rfl⟩
      · simp [subscribers]
      · rw [Session.hasSubscriber_iff, subscribers] at watches
        exact List.mem_singleton.mp watches
  | some fault =>
    rw [openSession_of_fault subscriber locator fault session]
    refine .lift (.change ?_ fun other => isClosed_teardown ..)
    rw [roster_teardown, roster_opened subscriber locator session, Roster.remove_add absent rfl]
    exact .spend

/-! ### Requests -/

/-- Whom a first step attaches. -/
def Entered.Welcomes (entered : Entered) (client : SubscriberId) (watched : Device) : Prop :=
  ∃ outcome, entered = .finished outcome ∧
    Roster.Welcomes subscriber device outcome client watched

theorem Alike.shifts {may : SubscriberId → Device → Prop} {before after : Broker}
    (alike : before.Alike after) : Shifts may before after :=
  .same alike.roster alike.mailboxes

section

variable {broker subscriber device locator fault}

/-- Serving a request attaches nobody but its subscriber, and that if it finishes well. -/
theorem Handles.shifts {next : Broker} {outcome? : Option Outcome}
    (h : broker.Handles subscriber device locator fault next outcome?) :
    Shifts (fun client watched => ∃ outcome, outcome? = some outcome ∧
      Welcomes subscriber device outcome client watched) broker next := by
  cases h with
  | hush _ alike => exact alike.shifts
  | told event _ _ alike => exact (shifts_told broker subscriber event).trans alike.shifts
  | @joins middle outcome same alike =>
    have joined := shifts_join middle subscriber device
    refine same.shifts.trans ((joined.mono fun _ _ welcome => ?_).trans alike.shifts)
    exact ⟨_, outcome, welcome⟩
  | @opens middle outcome same alike =>
    have opened := shifts_openSession middle subscriber device locator fault
    refine same.shifts.trans ((opened.mono fun _ _ welcome => ?_).trans alike.shifts)
    exact ⟨_, outcome, welcome⟩

end

theorem shifts_enter :
    Shifts (Entered.Welcomes subscriber device
        (broker.enter subscriber device locator fault).2) broker
      (broker.enter subscriber device locator fault).1 :=
  (handles_enter broker subscriber device locator fault).shifts.mono
    fun _ _ ⟨outcome, entered, welcome⟩ =>
      ⟨outcome, Entered.outcome?_eq_some.mp entered, welcome⟩

theorem shifts_resume (ticket : TicketId) (cause : Wake) :
    Shifts (Welcomes subscriber device
        (broker.resume subscriber device locator fault ticket cause).2) broker
      (broker.resume subscriber device locator fault ticket cause).1 :=
  (handles_resume broker subscriber device locator fault ticket cause).shifts.mono
    fun _ _ ⟨_, finished, welcome⟩ => Option.some.inj finished ▸ welcome

/-! ### Everything else -/

theorem shifts_report (id : Nat) (report : Report) :
    Shifts nobody broker (broker.report device id report).1 := by
  cases report with
  | bytes count =>
    simp only [Broker.report, recordBytes]
    split
    · exact .same rfl rfl
    · next session current =>
      have found := Roster.get?_of_current? current
      obtain rfl : session.device = device := (Roster.mem_of_get? found).2
      let counted := { session with bytesRead := session.bytesRead + count }
      have goesOn : Roster.Change nobody broker.roster (broker.roster.put counted) :=
        .put counted found rfl (fun watched => watched) fun _ => .inl
      exact .change goesOn fun _ => rfl
  | frame frame =>
    simp only [Broker.report, deliverFrame]
    split
    · exact .same rfl rfl
    · next session current =>
      have found := Roster.get?_of_current? current
      obtain rfl : session.device = device := (Roster.mem_of_get? found).2
      let after := (session.broadcast broker.mailboxes frame).1
      have told (other : Subscriber) :
          (broker.shown session frame).mailboxes.isClosed other =
            broker.mailboxes.isClosed other :=
        Session.isClosed_fanOut ..
      have gone : (broker.roster.put after).remove session.device =
          broker.roster.remove session.device := Roster.remove_put rfl
      have leaves : Roster.Change nobody broker.roster
          (if after.isIdle then broker.roster.remove session.device
            else broker.roster.put after) := by
        refine Roster.change_leave found rfl rfl fun client watches => ?_
        rw [Session.hasSubscriber_iff] at watches ⊢
        exact (List.filter_sublist.map _).subset watches
      split
      · next idle =>
        rw [if_pos idle, ← gone] at leaves
        refine .change ?_ fun other => (isClosed_teardown ..).trans (told other)
        rw [roster_teardown]
        exact leaves
      · next busy =>
        rw [if_neg busy] at leaves
        exact .change leaves told
  | exit exit =>
    simp only [Broker.report, decoderExited]
    split
    · exact .same rfl rfl
    · exact shifts_teardown broker device (.exit exit)

theorem shifts_disconnect (leaver : SubscriberId) :
    Shifts nobody broker (broker.disconnect leaver) := by
  have left : Shifts nobody broker
      ((broker.roster.devicesOf leaver).foldl (·.detach leaver ·) broker) :=
    List.foldlRecOn _ _ (.same rfl rfl) fun current h device _ =>
      h.trans (shifts_detach current device leaver)
  exact left.trans (.same rfl rfl)

theorem shifts_close : Shifts nobody broker broker.close :=
  List.foldlRecOn _ _ (.same rfl rfl) fun current h device _ =>
    h.trans (shifts_teardown current device .stop)

end Broker

end CameraRelay
