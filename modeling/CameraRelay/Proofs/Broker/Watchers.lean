import CameraRelay.Proofs.Broker.Offers

/-!
# Who goes on watching

Who watches a session goes on to watch it unless it leaves by itself, cannot be told of something it
should be told of, or the session is over.
-/

namespace CameraRelay

namespace Roster

variable {roster : Roster} {id : Nat} {device : Device} {client : SubscriberId}

theorem Watched.remove (h : roster.Watched id device client) {gone : Device}
    (apart : device ≠ gone) : (roster.remove gone).Watched id device client := by
  obtain ⟨session, here, same, there, watches⟩ := h
  refine ⟨session, List.mem_filter.mpr ⟨here, ?_⟩, same, there, watches⟩
  simpa [there] using apart

theorem Watched.get? (h : roster.Watched id device client) (distinct : roster.devices.Nodup)
    {session : Session} (found : roster.get? device = some session) :
    session.id = id ∧ session.hasSubscriber client = true := by
  obtain ⟨other, here, same, rfl, watches⟩ := h
  rw [get?_of_mem distinct here] at found
  obtain rfl := Option.some.inj found
  exact ⟨same, watches⟩

/-- Who watches the session that was changed still watches it if the change lets it. -/
theorem Watched.put (h : roster.Watched id device client) (distinct : roster.devices.Nodup)
    {old session : Session} (found : roster.get? session.device = some old)
    (same : session.id = old.id)
    (kept : old.hasSubscriber client = true → session.hasSubscriber client = true) :
    (roster.put session).Watched id device client := by
  obtain ⟨other, here, number, there, watches⟩ := h
  by_cases changed : other.device = session.device
  · rw [← changed, get?_of_mem distinct here] at found
    obtain rfl := Option.some.inj found
    refine ⟨session, List.mem_map.mpr ⟨other, here, if_pos changed⟩, same.trans number,
      changed.symm.trans there, kept watches⟩
  · exact ⟨other, List.mem_map.mpr ⟨other, here, if_neg changed⟩, number, there, watches⟩

end Roster

namespace Broker

/-- The session with a number is over. -/
def Over (broker : Broker) (id : Nat) : Prop := ∃ session ∈ broker.departed, session.id = id

/-- Over a step everybody goes on watching, but for those lost and those whose session is over. -/
structure Keeps (lost : SubscriberId → Device → Prop) (before after : Broker) : Prop where
  distinct : before.roster.devices.Nodup → after.roster.devices.Nodup
  departed : before.departed ⊆ after.departed
  watched : before.roster.devices.Nodup → ∀ id device client,
    before.roster.Watched id device client →
      after.roster.Watched id device client ∨ lost client device ∨ after.Over id

namespace Keeps

variable {lost other : SubscriberId → Device → Prop} {first second third : Broker}

theorem same (roster : second.roster = first.roster) (departed : second.departed = first.departed) :
    Keeps lost first second where
  distinct := by simp only [roster, imp_self]
  departed := by simp only [departed, List.Subset.refl]
  watched := by
    intro _ id device client watched
    rw [roster]
    exact .inl watched

theorem trans (h : Keeps lost first second) (h' : Keeps lost second third) :
    Keeps lost first third where
  distinct := fun distinct => h'.distinct (h.distinct distinct)
  departed := List.Subset.trans h.departed h'.departed
  watched := by
    intro distinct id device client watched
    rcases h.watched distinct id device client watched with goesOn | gone | ⟨session, mem, same⟩
    · exact h'.watched (h.distinct distinct) id device client goesOn
    · exact .inr (.inl gone)
    · exact .inr (.inr ⟨session, h'.departed mem, same⟩)

theorem after (h : Keeps lost second third) (roster : second.roster = first.roster)
    (departed : second.departed = first.departed) : Keeps lost first third :=
  (Keeps.same roster departed).trans h

theorem mono (h : Keeps lost first second)
    (wider : ∀ client device, lost client device → other client device) :
    Keeps other first second :=
  ⟨h.distinct, h.departed, fun distinct id device client watched =>
    (h.watched distinct id device client watched).imp_right fun either =>
      either.imp_left (wider client device)⟩

theorem put {broker : Broker} {old session : Session}
    (found : broker.roster.get? session.device = some old) (same : session.id = old.id)
    (kept : ∀ client, old.hasSubscriber client = true →
      session.hasSubscriber client = true ∨ lost client session.device) :
    Keeps lost broker { broker with roster := broker.roster.put session } where
  distinct := fun distinct => by
    show (broker.roster.put session).devices.Nodup
    rwa [Roster.devices_put]
  departed := List.Subset.refl _
  watched := by
    intro distinct id device client watched
    by_cases either : old.hasSubscriber client = true → session.hasSubscriber client = true
    · exact .inl (watched.put distinct found same either)
    · obtain ⟨watches, leaves⟩ := Classical.not_imp.mp either
      by_cases here : device = session.device
      · exact .inr (.inl (here ▸ (kept client watches).resolve_left leaves))
      · obtain ⟨other, mem, number, there, watches⟩ := watched
        refine .inl ⟨other, List.mem_map.mpr ⟨other, mem, if_neg ?_⟩, number, there, watches⟩
        rwa [there]

end Keeps

variable {lost : SubscriberId → Device → Prop} (broker : Broker) (subscriber : Subscriber)
  (device : Device) (locator : String) (fault : Option SystemFault)

/-! ### Sessions -/

theorem keeps_teardown (reason : Teardown) : Keeps lost broker (broker.teardown device reason) := by
  cases found : broker.roster.get? device with
  | none =>
    rw [teardown_of_none broker device reason found]
    exact .same rfl rfl
  | some session =>
    rw [teardown_eq found]
    refine ⟨fun distinct => ?_, List.subset_cons_self _ _,
      fun distinct id watched client watches => ?_⟩
    · show (broker.roster.remove device).devices.Nodup
      rw [Roster.devices_remove]
      exact distinct.filter _
    · by_cases here : watched = device
      · obtain rfl := here
        have number := (watches.get? distinct found).1
        exact .inr (.inr ⟨_, List.mem_cons_self, (session.id_concluded reason).trans number⟩)
      · exact .inl (watches.remove here)

theorem keeps_detach (leaver : SubscriberId) :
    Keeps (fun client watched => client = leaver ∧ watched = device) broker
      (broker.detach leaver device) := by
  simp only [detach]
  split
  · exact .same rfl rfl
  · next session found =>
    have there : (session.detach leaver).1.device = device := (Roster.mem_of_get? found).2
    have detached : Keeps (fun client watched => client = leaver ∧ watched = device) broker
        { broker with roster := broker.roster.put (session.detach leaver).1 } := by
      have goesOn : broker.roster.get? (session.detach leaver).1.device = some session := by
        rwa [there]
      refine .put goesOn rfl fun client watches => ?_
      by_cases own : client = leaver
      · exact .inr ⟨own, there⟩
      · exact .inl ((session.hasSubscriber_detach leaver client).mpr ⟨watches, own⟩)
    split
    · exact .same rfl rfl
    · split
      · exact detached.trans (keeps_teardown _ device .stop)
      · exact detached

/-- Nobody but a client that does not listen stops watching because of its own request. -/
def LostIfDeaf (boxes : Mailboxes) (subscriber : Subscriber) (client : SubscriberId)
    (_ : Device) : Prop :=
  client = subscriber.id ∧ boxes.isClosed subscriber = true

theorem keeps_confirmStarted :
    Keeps (LostIfDeaf broker.mailboxes subscriber) broker (broker.confirmStarted subscriber device).1 := by
  have told : Keeps (LostIfDeaf broker.mailboxes subscriber) broker
      (broker.told subscriber (.started device)) := .same rfl rfl
  rw [confirmStarted_eq]
  split
  · next closed =>
    refine told.trans ((keeps_detach _ device subscriber.id).mono fun client _ own => ?_)
    exact ⟨own.1, closed⟩
  · exact told

theorem keeps_join :
    Keeps (LostIfDeaf broker.mailboxes subscriber) broker (broker.join subscriber device).1 := by
  simp only [join]
  split
  · exact .same rfl rfl
  · next session found =>
    have there : (session.attach subscriber).1.device = device :=
      (session.device_attach subscriber).trans (Roster.mem_of_get? found).2
    have goesOn : broker.roster.get? (session.attach subscriber).1.device = some session := by
      rwa [there]
    let joined := { broker with roster := broker.roster.put (session.attach subscriber).1 }
    have attached : Keeps (LostIfDeaf broker.mailboxes subscriber) broker joined := by
      refine .put goesOn (session.id_attach subscriber) fun client watches => .inl ?_
      exact (session.hasSubscriber_attach subscriber client).mpr (.inl watches)
    exact attached.trans (keeps_confirmStarted joined subscriber device)

theorem keeps_openSession :
    Keeps (LostIfDeaf broker.mailboxes subscriber) broker
      (broker.openSession subscriber device locator fault).1 := by
  by_cases session : broker.roster.contains device = true
  · rw [openSession_of_session subscriber locator fault session]
    exact (keeps_join broker.release subscriber device).after rfl rfl
  have absent := get?_of_alone session
  have more {roster : Roster} (fewer : broker.roster.sessions ⊆ roster.sessions) {id : Nat}
      {watched : Device} {client : SubscriberId} (watches : broker.roster.Watched id watched client) :
      roster.Watched id watched client := by
    obtain ⟨session, here, same, there, attached⟩ := watches
    exact ⟨session, fewer here, same, there, attached⟩
  cases fault with
  | none =>
    rw [openSession_of_start subscriber locator session]
    let live := (broker.firstSession subscriber device locator).setDecoder
    have added : (broker.started subscriber device locator).roster = broker.roster.add live :=
      roster_started subscriber locator session
    let started := broker.started subscriber device locator
    have starts : Keeps (LostIfDeaf broker.mailboxes subscriber) broker started := by
      refine ⟨fun distinct => ?_, List.Subset.refl _, fun _ id watched client watches => ?_⟩
      · rw [added]
        exact Roster.distinct_add absent distinct
      · rw [added]
        exact .inl (more (List.subset_append_left _ _) watches)
    exact starts.trans (keeps_confirmStarted started subscriber device)
  | some fault =>
    rw [openSession_of_fault subscriber locator fault session,
      teardown_eq (get?_opened subscriber locator session)]
    have same : ((broker.opened subscriber device locator).roster.remove device) =
        { broker.roster with created := broker.roster.created + 1 } := by
      rw [roster_opened subscriber locator session, Roster.remove_add absent rfl]
    simp only [same]
    exact ⟨fun distinct => distinct, List.subset_cons_self _ _,
      fun _ id watched client watches => .inl (more (List.Subset.refl _) watches)⟩

/-! ### Requests -/

theorem Handles.keeps {broker next : Broker} {subscriber : Subscriber} {device : Device}
    {locator : String} {fault : Option SystemFault} {outcome? : Option Outcome}
    (h : broker.Handles subscriber device locator fault next outcome?) :
    Keeps (LostIfDeaf broker.mailboxes subscriber) broker next := by
  cases h with
  | hush _ alike => exact .same alike.roster alike.departed
  | told _ _ _ alike => exact .same alike.roster alike.departed
  | @joins middle _ same alike =>
    have joined := keeps_join middle subscriber device
    rw [same.mailboxes] at joined
    exact (joined.after same.roster same.departed).trans (.same alike.roster alike.departed)
  | @opens middle _ same alike =>
    have opened := keeps_openSession middle subscriber device locator fault
    rw [same.mailboxes] at opened
    exact (opened.after same.roster same.departed).trans (.same alike.roster alike.departed)

/-! ### Everything else -/

/-- Reports make no client stop watching that listens, unless they end the session. -/
theorem keeps_report (id : Nat) (report : Report) :
    Keeps (fun client _ => ∃ session ∈ broker.roster.sessions, ∃ subscriber ∈ session.subscribers,
        subscriber.id = client ∧ broker.mailboxes.isClosed subscriber = true)
      broker (broker.report device id report).1 := by
  cases report with
  | bytes count =>
    simp only [Broker.report, recordBytes]
    split
    · exact .same rfl rfl
    · next session current =>
      have found := Roster.get?_of_current? current
      obtain rfl : session.device = device := (Roster.mem_of_get? found).2
      have counted : broker.roster.get?
          ({ session with bytesRead := session.bytesRead + count } : Session).device =
            some session := found
      exact .put counted rfl fun _ watches => .inl watches
  | frame frame =>
    simp only [Broker.report, deliverFrame]
    split
    · exact .same rfl rfl
    · next session current =>
      have found := Roster.get?_of_current? current
      obtain ⟨here, rfl⟩ := Roster.mem_of_get? found
      have shown : Keeps (fun client _ => ∃ session ∈ broker.roster.sessions,
          ∃ subscriber ∈ session.subscribers, subscriber.id = client ∧
            broker.mailboxes.isClosed subscriber = true) broker (broker.shown session frame) := by
        have goesOn : broker.roster.get? (session.broadcast broker.mailboxes frame).1.device =
            some session := found
        refine (Keeps.put goesOn rfl fun client watches => ?_).trans (.same rfl rfl)
        obtain ⟨subscriber, mem, rfl⟩ :=
          List.mem_map.mp ((session.hasSubscriber_iff client).mp watches)
        by_cases failed : subscriber.id ∈ (Session.fanOut (.frame session.device frame)
            session.subscribers broker.mailboxes).2.failed
        · exact .inr ⟨session, here, Session.mem_failed.mp failed⟩
        · refine .inl ((Session.hasSubscriber_iff ..).mpr (List.mem_map_of_mem ?_))
          exact List.mem_filter.mpr ⟨mem, by simpa using failed⟩
      split
      · exact shown.trans (keeps_teardown _ session.device .stop)
      · exact shown
  | exit exit =>
    simp only [Broker.report, decoderExited]
    split
    · exact .same rfl rfl
    · exact keeps_teardown broker device (.exit exit)

theorem keeps_disconnect (leaver : SubscriberId) :
    Keeps (fun client _ => client = leaver) broker (broker.disconnect leaver) := by
  have left : Keeps (fun client _ => client = leaver) broker
      ((broker.roster.devicesOf leaver).foldl (·.detach leaver ·) broker) :=
    List.foldlRecOn _ _ (.same rfl rfl) fun current h device _ =>
      h.trans ((keeps_detach current device leaver).mono fun _ _ own => own.1)
  exact left.trans (.same rfl rfl)

theorem keeps_close : Keeps lost broker broker.close :=
  List.foldlRecOn _ _ (.same rfl rfl) fun current h device _ =>
    h.trans (keeps_teardown current device .stop)

end Broker

end CameraRelay
