import CameraRelay.Proofs.Relay.Decoders
import CameraRelay.Proofs.Relay.Slots
import Mathlib.Data.List.Perm.Subperm

/-!
# Sessions and the supervisors of their decoders

Every session that had a decoder has one supervisor, and every supervisor such a session. While a
session is in the roster its supervisor does not stop the decoder; a supervisor that does, or is
done, belongs to a session that is gone. Main statement: `decoders_accounted`.
-/

namespace CameraRelay

namespace Supervisor

variable {supervisor : Supervisor} {observation : Observation} {wanted : Bool}

/-- It stops its decoder, found it stopped, or is done. -/
def Quits (supervisor : Supervisor) : Prop :=
  supervisor.watch = .stopping ∨ supervisor.watch = .leaving .stopped ∨
    supervisor.watch = .finished

/-- What the roll says of a session that has this supervisor. -/
def entry (supervisor : Supervisor) : Nat × Device × Bool :=
  (supervisor.session, supervisor.device, true)

theorem entry_observe (supervisor : Supervisor) (observation : Observation) :
    (supervisor.observe observation).entry = supervisor.entry := by
  simp only [observe]
  split
  any_goals rfl
  split <;> rfl

theorem entry_offer (units : List Bytes) : (supervisor.offer units).entry = supervisor.entry := by
  cases units <;> rfl

theorem entry_answer (supervisor : Supervisor) (wanted : Bool) :
    (supervisor.answer wanted).entry = supervisor.entry := by
  simp only [answer]
  split
  · split
    · exact entry_offer _
    · rfl
  · split
    · exact entry_offer _
    · rfl
  · rfl
  · rfl

theorem session_observe (supervisor : Supervisor) (observation : Observation) :
    (supervisor.observe observation).session = supervisor.session :=
  congrArg (·.1) (supervisor.entry_observe observation)

theorem session_answer (supervisor : Supervisor) (wanted : Bool) :
    (supervisor.answer wanted).session = supervisor.session :=
  congrArg (·.1) (supervisor.entry_answer wanted)

/-- A supervisor comes to quit by a request to stop only. -/
theorem quits_observe (quits : (supervisor.observe observation).Quits) :
    supervisor.Quits ∨ observation = .stopRequest := by
  cases watch : supervisor.watch with
  | watching =>
    cases observation with
    | stopRequest => exact .inr rfl
    | read chunk =>
      simp only [observe, watch] at quits
      split at quits <;> simp [Quits, watch] at quits
    | _ => simp [observe, Quits, watch] at quits
  | stopping => exact .inl (.inl watch)
  | finished => exact .inl (.inr (.inr watch))
  | _ =>
    simp only [observe, watch] at quits
    exact .inl quits

theorem finished_observe (finished : supervisor.watch = .finished) :
    supervisor.observe observation = supervisor := by
  cases observation <;> simp [observe, finished]

/-- It comes to quit by an answer only if nothing more is wanted, or what it reports is the end. -/
theorem quits_answer {report : Report} (due : supervisor.due? = some report)
    (quits : (supervisor.answer wanted).Quits) :
    wanted = false ∨ ∃ exit, report = .exit exit := by
  cases wanted with
  | false => exact .inl rfl
  | true =>
    refine .inr ?_
    have offers (supervisor : Supervisor) (units : List Bytes) :
        ¬ (supervisor.offer units).Quits := by
      cases units <;> simp [offer, Quits]
    simp only [due?] at due
    split at due
    · next watch => exact absurd quits (by simpa [answer, watch] using offers _ _)
    · next watch => exact absurd quits (by simpa [answer, watch] using offers _ _)
    · exact ⟨_, (Option.some.inj due).symm⟩
    · cases due

theorem finished_answer {exit : DecoderExit} (due : supervisor.due? = some (.exit exit)) :
    (supervisor.answer wanted).watch = .finished := by
  simp only [due?] at due
  split at due
  · cases due
  · cases due
  · next watch => simp [answer, watch]
  · cases due

end Supervisor

/-! ### The roll -/

theorem mem_roll {lives : Roster × List Session} {entry : Nat × Device × Bool} :
    entry ∈ roll lives ↔
      (∃ session ∈ lives.1.sessions, session.entry = entry) ∨
        ∃ session ∈ lives.2, session.entry = entry := by
  simp only [roll, List.map_append, List.mem_append, List.mem_map]

namespace Broker

variable {broker next : Broker} {known : Subscriber → Prop} {id : Nat} {device : Device}

theorem isDismissed_iff :
    broker.isDismissed id = true ↔
      ∃ session ∈ broker.departed, session.id = id ∧ session.decoder ≠ .absent := by
  simp [isDismissed]

theorem isDismissed_mono (h : broker.departed ⊆ next.departed)
    (dismissed : broker.isDismissed id = true) : next.isDismissed id = true := by
  obtain ⟨session, gone, same, started⟩ := isDismissed_iff.mp dismissed
  exact isDismissed_iff.mpr ⟨session, h gone, same, started⟩

/-- A decoder whose session is not the current one of its device was dismissed. -/
theorem dismissed_or_current (sound : Sound known broker.lives)
    (listed : (id, device, true) ∈ roll broker.lives) :
    broker.isDismissed id = true ∨
      ∃ session, broker.roster.get? device = some session ∧ session.id = id := by
  rcases mem_roll.mp listed with ⟨session, here, same⟩ | ⟨session, gone, same⟩
  · obtain ⟨rfl, rest⟩ := Prod.mk.inj same
    obtain ⟨rfl, _⟩ := Prod.mk.inj rest
    exact .inr ⟨session, Roster.get?_of_mem sound.devices here, rfl⟩
  · obtain ⟨rfl, rest⟩ := Prod.mk.inj same
    refine .inl (isDismissed_iff.mpr ⟨session, gone, rfl, ?_⟩)
    simpa using (Prod.mk.inj rest).2

end Broker

namespace Relay

/-! ### Supervisors -/

/-- Supervisors belong to the sessions that had a decoder, one to each, and one that quits belongs to
a session that is gone. -/
structure Supervised (relay : Relay) : Prop where
  sound : Sound Own relay.broker.lives
  staff : (relay.decoders.map (·.entry)).Perm ((roll relay.broker.lives).filter (·.2.2))
  quits : ∀ supervisor ∈ relay.decoders, supervisor.Quits →
    relay.broker.isDismissed supervisor.session = true

namespace Supervised

variable {relay next : Relay} {supervisor : Supervisor} {session : Nat}

theorem listed (h : relay.Supervised) (mem : supervisor ∈ relay.decoders) :
    supervisor.entry ∈ roll relay.broker.lives :=
  (List.mem_filter.mp (h.staff.subset (List.mem_map_of_mem mem))).1

theorem nodup (h : relay.Supervised) : (relay.decoders.map (·.session)).Nodup := by
  have numbers : relay.decoders.map (·.session) = (relay.decoders.map (·.entry)).map (·.1) := by
    rw [List.map_map]
    rfl
  have fewer : (((roll relay.broker.lives).filter (·.2.2)).map (·.1)).Nodup :=
    (h.sound.numbers.nodup_iff.mpr List.nodup_range').sublist (List.filter_sublist.map _)
  rw [numbers]
  exact (h.staff.map _).nodup_iff.mpr fewer

theorem decoder?_eq_some (h : relay.Supervised) :
    relay.decoder? session = some supervisor ↔
      supervisor ∈ relay.decoders ∧ supervisor.session = session := by
  constructor
  · exact fun found => ⟨List.mem_of_find?_eq_some found, decoder_session found⟩
  · intro here
    obtain ⟨mem, rfl⟩ := here
    have present : (relay.decoder? supervisor.session).isSome = true :=
      List.find?_isSome.mpr ⟨supervisor, mem, beq_self_eq_true _⟩
    obtain ⟨other, found⟩ := Option.isSome_iff_exists.mp present
    have only : other = supervisor := List.inj_on_of_nodup_map h.nodup
      (List.mem_of_find?_eq_some found) mem (decoder_session found)
    rw [found, only]

end Supervised

theorem mem_setDecoder {relay : Relay} {after supervisor : Supervisor}
    (mem : supervisor ∈ (relay.setDecoder after).decoders) :
    supervisor = after ∨ (supervisor ∈ relay.decoders ∧ supervisor.session ≠ after.session) := by
  obtain ⟨before, here, rfl⟩ := List.mem_map.mp mem
  by_cases same : before.session = after.session
  · exact .inl (if_pos same)
  · rw [if_neg same]
    exact .inr ⟨here, same⟩

/-- What is required of supervisors besides that the sessions are sound. -/
def Staffs (decoders : List Supervisor) (broker : Broker) : Prop :=
  (decoders.map (·.entry)).Perm ((roll broker.lives).filter (·.2.2)) ∧
    ∀ supervisor ∈ decoders, supervisor.Quits → broker.isDismissed supervisor.session = true

namespace Supervised

variable {relay : Relay} {next : Broker} {supervisor after : Supervisor} {session : Nat}

theorem aged (h : relay.Supervised)
    (same : (roll next.lives).Perm (roll relay.broker.lives))
    (departed : relay.broker.departed ⊆ next.departed) : Staffs relay.decoders next :=
  ⟨h.staff.trans (same.filter _).symm, fun supervisor mem quits =>
    Broker.isDismissed_mono departed (h.quits supervisor mem quits)⟩

/-- A supervisor goes on to another state, and has its session gone if it quits now. -/
theorem replaced (h : relay.Supervised) (found : relay.decoder? session = some supervisor)
    (same : after.entry = supervisor.entry) (staffs : Staffs relay.decoders next)
    (quits : after.Quits → next.isDismissed after.session = true) :
    Staffs (relay.setDecoder after).decoders next := by
  obtain ⟨mem, rfl⟩ := h.decoder?_eq_some.mp found
  have numbered : after.session = supervisor.session := congrArg (·.1) same
  refine ⟨?_, fun other here => ?_⟩
  · have entries : (relay.setDecoder after).decoders.map (·.entry) =
        relay.decoders.map (·.entry) := by
      simp only [setDecoder, List.map_map]
      refine List.map_congr_left fun other here => ?_
      by_cases this : other.session = after.session
      · have only : other = supervisor :=
          List.inj_on_of_nodup_map h.nodup here mem (this.trans numbered)
        rw [Function.comp_apply, if_pos this, same, only]
      · rw [Function.comp_apply, if_neg this]
    rw [entries]
    exact staffs.1
  · rcases mem_setDecoder here with rfl | ⟨before, _⟩
    · exact quits
    · exact staffs.2 other before

theorem hosted (h : relay.Supervised) {known : Subscriber → Prop} {device : Device}
    {fault : Option SystemFault}
    (hosts : Broker.Hosts device fault (· = .stop) known relay.broker next)
    (wider : ∀ subscriber, known subscriber → Own subscriber) :
    Staffs (relay.hired next device fault) next := by
  rcases hosts.roll h.sound wider with ⟨created, same⟩ | ⟨created, grown⟩
  · have stays : relay.hired next device fault = relay.decoders := by
      simp [hired, hire, created]
    rw [stays]
    exact h.aged same hosts.departed
  have latest : relay.broker.roster.created < next.roster.created := by
    rw [created]
    exact Nat.lt_succ_self _
  have filtered := grown.filter (·.2.2)
  cases fault with
  | some fault =>
    have stays : relay.hired next device (some fault) = relay.decoders := by
      simp [hired, hire]
    rw [stays]
    refine ⟨h.staff.trans filtered.symm, fun supervisor mem quits => ?_⟩
    exact Broker.isDismissed_mono hosts.departed (h.quits supervisor mem quits)
  | none =>
    let fresh := Supervisor.start relay.settings.decoder device next.roster.created
    have joins : relay.hired next device none = relay.decoders ++ [fresh] := by
      simp [hired, hire, latest, fresh]
    rw [joins]
    refine ⟨?_, fun supervisor mem quits => ?_⟩
    · rw [List.map_append]
      exact (List.perm_append_singleton _ _).trans ((h.staff.cons _).trans filtered.symm)
    · rcases List.mem_append.mp mem with before | last
      · exact Broker.isDismissed_mono hosts.departed (h.quits supervisor before quits)
      · obtain rfl := List.mem_singleton.mp last
        simp [fresh, Supervisor.Quits, Supervisor.start] at quits

theorem staffs_of_ages (h : relay.Supervised) {ending : Teardown → Prop}
    (ages : Broker.Ages ending (fun _ => False) relay.broker next) : Staffs relay.decoders next :=
  h.aged (ages.sound h.sound).2 (departed_of_lives ages)

theorem reported (h : relay.Supervised) (device : Device) (session : Nat) (report : Report) :
    Staffs relay.decoders (relay.broker.report device session report).1 := by
  exact h.staffs_of_ages (Broker.ages_report ..)

/-- A supervisor that quits upon an answer has its session gone by then. -/
theorem answered (h : relay.Supervised) {report : Report}
    (found : relay.decoder? session = some supervisor) (due : supervisor.due? = some report) :
    let result := relay.broker.report supervisor.device supervisor.session report
    (supervisor.answer result.2).Quits → result.1.isDismissed supervisor.session = true := by
  intro result quits
  have unwanted : result.2 = false := by
    rcases supervisor.quits_answer due quits with unwanted | ⟨exit, rfl⟩
    · exact unwanted
    · rfl
  obtain ⟨sound, same⟩ : Sound Own result.1.lives ∧
      (roll result.1.lives).Perm (roll relay.broker.lives) :=
    (Broker.ages_report ..).sound h.sound
  have listed : supervisor.entry ∈ roll result.1.lives :=
    same.symm.subset (h.listed (h.decoder?_eq_some.mp found).1)
  refine (Broker.dismissed_or_current sound listed).resolve_right fun current => ?_
  obtain ⟨other, there, number⟩ := current
  have gone := Broker.current?_of_unwanted unwanted
  rw [Roster.current?, Option.filter_eq_none_iff] at gone
  exact gone other there (by simpa using number)

theorem step (h : relay.Supervised) (orderly : relay.Orderly) (action : Action) :
    (relay.step action).Supervised := by
  suffices staffs : Staffs (relay.step action).decoders (relay.step action).broker from
    ⟨sound_step h.sound orderly action, staffs.1, staffs.2⟩
  have tended := relay.tends action
  generalize (relay.step action).broker = next, (relay.step action).decoders = decoders at tended ⊢
  cases tended with
  | age _ ages => exact h.staffs_of_ages ages
  | host _ found hosts =>
    refine h.hosted hosts fun subscriber same => ?_
    rw [same]
    exact orderly.handles _ _ found
  | @observe session observation supervisor found can =>
    refine h.replaced found (supervisor.entry_observe _) ⟨h.staff, h.quits⟩ fun quits => ?_
    obtain ⟨mem, _⟩ := h.decoder?_eq_some.mp found
    rw [supervisor.session_observe]
    rcases supervisor.quits_observe quits with before | rfl
    · exact h.quits supervisor mem before
    · exact can
  | @report session supervisor report found due =>
    refine h.replaced found (supervisor.entry_answer _) (h.reported ..) fun quits => ?_
    rw [supervisor.session_answer]
    exact h.answered found due quits
  | notice => exact h.reported ..

theorem run (h : relay.Supervised) (orderly : relay.Orderly) (actions : List Action) :
    (relay.run actions).Supervised := by
  induction actions generalizing relay with
  | nil => exact h
  | cons action rest ih => exact ih (h.step orderly action) (orderly.step action)

theorem new (settings : RelaySettings) : (Relay.new settings).Supervised :=
  ⟨sound_new settings, .nil, by simp [Relay.new]⟩

theorem finished_setDecoder (h : relay.Supervised)
    (found : relay.decoder? session = some supervisor) (same : after.session = supervisor.session)
    (stays : supervisor.watch = .finished → after = supervisor) {other : Supervisor}
    (mem : other ∈ relay.decoders) (finished : other.watch = .finished) :
    other ∈ (relay.setDecoder after).decoders := by
  refine List.mem_map.mpr ⟨other, mem, ?_⟩
  by_cases this : other.session = after.session
  · have here := (h.decoder?_eq_some.mp found).1
    have only : other = supervisor :=
      List.inj_on_of_nodup_map h.nodup mem here (this.trans same)
    obtain rfl := only
    rw [if_pos this, stays finished]
  · rw [if_neg this]

end Supervised

/-- A decoder that nobody told to stop is supervised no more once its session is gone. -/
def Ended (relay : Relay) : Prop :=
  ∀ session ∈ relay.broker.departed, session.decoder = .running →
    ∃ supervisor ∈ relay.decoders, supervisor.session = session.id ∧ supervisor.watch = .finished

theorem Ended.step {relay : Relay} (h : relay.Ended) (supervised : relay.Supervised)
    (orderly : relay.Orderly) {action : Action}
    (own : ∀ device session report, action ≠ .notice device session report) :
    (relay.step action).Ended := by
  have tended := relay.tends action
  simp only [Ended]
  generalize (relay.step action).broker = next, (relay.step action).decoders = decoders at tended ⊢
  intro session gone running
  cases tended with
  | age _ ages =>
    have told := told_of_lives ages supervised.sound (fun _ never => never.elim) gone
    refine h session (told.resolve_right fun told => ?_) running
    rw [told] at running
    cases running
  | @host _ number request fault _ found hosts =>
    have wider (subscriber : Subscriber) (same : subscriber = request.subscriber) :
        Own subscriber := same ▸ orderly.handles _ _ found
    have before := (hosts.told supervised.sound wider gone).resolve_right fun told => told running
    obtain ⟨supervisor, mem, same, finished⟩ := h session before running
    refine ⟨supervisor, ?_, same, finished⟩
    simp only [hired, hire]
    split
    · exact List.mem_append_left _ mem
    · exact mem
  | @observe _ observation supervisor found can =>
    obtain ⟨other, mem, same, finished⟩ := h session gone running
    refine ⟨other, supervised.finished_setDecoder found ?_ ?_ mem finished, same, finished⟩
    · exact supervisor.session_observe observation
    · exact fun finished => supervisor.finished_observe finished
  | @report _ supervisor report found due =>
    let result := relay.broker.report supervisor.device supervisor.session report
    have numbered := supervisor.session_answer result.2
    -- What finished before is not the supervisor that has a report to make.
    have kept (before : session ∈ relay.broker.departed) :
        ∃ other ∈ (relay.setDecoder (supervisor.answer result.2)).decoders,
          other.session = session.id ∧ other.watch = .finished := by
      obtain ⟨other, mem, same, finished⟩ := h session before running
      refine ⟨other, supervised.finished_setDecoder found numbered (fun watch => ?_) mem finished,
        same, finished⟩
      simp [Supervisor.due?, watch] at due
    cases current : relay.broker.roster.current? supervisor.device supervisor.session with
    | none =>
      rw [Broker.report_of_stale current] at gone
      exact kept gone
    | some now =>
      have heeds : relay.broker.Heeds now report result := Broker.heeds_report current report
      have id : now.id = supervisor.session := (Roster.current?_eq_some.mp current).2
      rcases heeds.departed with same | ⟨last, reason, ends, same, departed⟩
      · exact kept (same ▸ gone)
      · rw [departed] at gone
        rcases List.mem_cons.mp gone with rfl | before
        · obtain ⟨status, rfl⟩ := Session.exited_of_running ends running
          obtain ⟨mem, _⟩ := supervised.decoder?_eq_some.mp found
          refine ⟨_, List.mem_map.mpr ⟨supervisor, mem, if_pos numbered.symm⟩, ?_, ?_⟩
          · rw [numbered, last.id_concluded, same, id]
          · exact supervisor.finished_answer due
        · exact kept before
  | notice device session report => exact absurd rfl (own device session report)

theorem Ended.run {relay : Relay} (h : relay.Ended) (supervised : relay.Supervised)
    (orderly : relay.Orderly) {actions : List Action}
    (own : ∀ device session report, .notice device session report ∉ actions) :
    (relay.run actions).Ended := by
  induction actions generalizing relay with
  | nil => exact h
  | cons action rest ih =>
    have now : (relay.step action).Ended := h.step supervised orderly fun device session report eq =>
      own device session report (by simp [eq])
    exact ih now (supervised.step orderly action) (orderly.step action)
      fun device session report mem => own device session report (List.mem_cons_of_mem _ mem)

namespace Supervised

variable {relay : Relay} {session : Session} {supervisor : Supervisor}

theorem not_dismissed (h : relay.Supervised) (here : session ∈ relay.broker.roster.sessions) :
    relay.broker.isDismissed session.id = false := by
  refine Bool.eq_false_iff.mpr fun dismissed => ?_
  obtain ⟨last, gone, same, _⟩ := Broker.isDismissed_iff.mp dismissed
  exact h.sound.apart here gone same.symm

/-- A session in the roster has a supervisor, which does not stop the decoder. -/
theorem watches (h : relay.Supervised) (here : session ∈ relay.broker.roster.sessions) :
    ∃ supervisor, relay.decoder? session.id = some supervisor ∧
      supervisor.device = session.device ∧ ¬ supervisor.Quits := by
  have listed : session.entry ∈ roll relay.broker.lives := mem_roll.mpr (.inl ⟨session, here, rfl⟩)
  have entry := (h.sound.live session here).entry_eq
  rw [entry] at listed
  have staffed := h.staff.symm.subset (List.mem_filter.mpr ⟨listed, rfl⟩)
  obtain ⟨supervisor, mem, same⟩ := List.mem_map.mp staffed
  obtain ⟨number, rest⟩ := Prod.mk.inj same
  refine ⟨supervisor, h.decoder?_eq_some.mpr ⟨mem, number⟩, (Prod.mk.inj rest).1, fun quits => ?_⟩
  have dismissed := h.quits supervisor mem quits
  rw [number, h.not_dismissed here] at dismissed
  cases dismissed

/-- A session whose decoder was never started has no supervisor. -/
theorem unwatched (h : relay.Supervised) (gone : session ∈ relay.broker.departed)
    (absent : session.decoder = .absent) : relay.decoder? session.id = none := by
  refine Option.eq_none_iff_forall_ne_some.mpr fun supervisor found => ?_
  obtain ⟨mem, same⟩ := h.decoder?_eq_some.mp found
  have distinct : ((roll relay.broker.lives).map (·.1)).Nodup :=
    h.sound.numbers.nodup_iff.mpr List.nodup_range'
  have listed : session.entry ∈ roll relay.broker.lives := mem_roll.mpr (.inr ⟨session, gone, rfl⟩)
  have only : supervisor.entry = session.entry :=
    List.inj_on_of_nodup_map distinct (h.listed mem) listed same
  simp [Supervisor.entry, Session.entry, absent] at only

theorem dismissed_or_current (h : relay.Supervised) (mem : supervisor ∈ relay.decoders) :
    relay.broker.isDismissed supervisor.session = true ∨
      ∃ session, relay.broker.roster.get? supervisor.device = some session ∧
        session.id = supervisor.session :=
  Broker.dismissed_or_current h.sound (h.listed mem)

/-- A supervisor at work has the session that its device has now. -/
theorem current_of_working (h : relay.Supervised)
    (mem : supervisor ∈ relay.decoders.filter fun d => !relay.broker.isDismissed d.session) :
    supervisor ∈ relay.decoders ∧ ∃ session,
      relay.broker.roster.get? supervisor.device = some session ∧
        session.id = supervisor.session := by
  obtain ⟨here, working⟩ := List.mem_filter.mp mem
  refine ⟨here, (h.dismissed_or_current here).resolve_left fun dismissed => ?_⟩
  simp [dismissed] at working

theorem working_distinct (h : relay.Supervised) :
    ((relay.decoders.filter fun d => !relay.broker.isDismissed d.session).map
      (·.device)).Nodup := by
  refine List.Nodup.map_on (fun first mem second mem' same => ?_) (h.nodup.of_map.filter _)
  obtain ⟨here, session, found, number⟩ := h.current_of_working mem
  obtain ⟨here', session', found', number'⟩ := h.current_of_working mem'
  rw [same, found'] at found
  obtain rfl := Option.some.inj found
  exact List.inj_on_of_nodup_map h.nodup here here' (number.symm.trans number')

theorem length_working_le (h : relay.Supervised) :
    (relay.decoders.filter fun d => !relay.broker.isDismissed d.session).length ≤
      relay.broker.roster.sessions.length := by
  have devices : (relay.decoders.filter fun d =>
      !relay.broker.isDismissed d.session).map (·.device) ⊆ relay.broker.roster.devices := by
    intro device mem
    obtain ⟨supervisor, working, rfl⟩ := List.mem_map.mp mem
    obtain ⟨_, session, found, _⟩ := h.current_of_working working
    exact (relay.broker.roster.contains_iff _).mp (by simp [Roster.contains, found])
  have lengths := (List.Nodup.subperm h.working_distinct devices).length_le
  simpa [Roster.devices] using lengths

/-- Who reports that its decoder was stopped has its session gone. -/
theorem not_current_of_stopped (h : relay.Supervised) (mem : supervisor ∈ relay.decoders)
    (due : supervisor.due? = some (.exit .stopped)) :
    relay.broker.roster.current? supervisor.device supervisor.session = none := by
  have leaves : supervisor.watch = .leaving .stopped := by
    simp only [Supervisor.due?] at due
    split at due
    · cases due
    · cases due
    · next watch =>
      obtain rfl := Report.exit.inj (Option.some.inj due)
      exact watch
    · cases due
  have dismissed := h.quits supervisor mem (.inr (.inl leaves))
  rw [Roster.current?, Option.filter_eq_none_iff]
  intro session found same
  have here := (Roster.mem_of_get? found).1
  have number : session.id = supervisor.session := by simpa using same
  rw [← number, h.not_dismissed here] at dismissed
  cases dismissed

end Supervised

/-- In every state of every run each session that was ever created is in the roster or gone, and no
move between phases was refused to it. A session in the roster is live, its decoder is held and was
not dismissed, and is watched by a supervisor that does not stop it. A session that is gone is
terminated, and its decoder was told to stop, or never started, or its handle was let go of, which
in a run without reports from elsewhere happens to decoders that ended by themselves only. So the
decoders that were not dismissed are at most one for each device and no more than there are slots,
and no supervisor that reports its decoder as stopped finds the session still there. -/
theorem decoders_accounted (settings : RelaySettings) (actions : List Action) :
    let relay := (new settings).run actions
    let broker := relay.broker
    let working := relay.decoders.filter fun d => !broker.isDismissed d.session
    ((broker.roster.sessions ++ broker.departed).map (·.id)).Perm
      (List.range' 1 broker.roster.created) ∧
    (∀ session ∈ broker.roster.sessions ++ broker.departed, session.refusedMoves = 0) ∧
    (∀ session ∈ broker.roster.sessions,
      session.phase = .live ∧ session.decoder = .running ∧
      broker.isDismissed session.id = false ∧
      ∃ supervisor, relay.decoder? session.id = some supervisor ∧
        supervisor.device = session.device ∧ ¬ supervisor.Quits) ∧
    (∀ session ∈ broker.departed,
      session.phase = .terminated ∧
      (session.decoder = .told ∨
        (session.decoder = .absent ∧ relay.decoder? session.id = none) ∨
        (session.decoder = .running ∧ broker.isDismissed session.id = true ∧
          ((∀ device id report, .notice device id report ∉ actions) →
            ∃ supervisor, relay.decoder? session.id = some supervisor ∧
              supervisor.watch = .finished)))) ∧
    (∀ supervisor ∈ relay.decoders, broker.isDismissed supervisor.session = true ∨
      ∃ session, broker.roster.get? supervisor.device = some session ∧
        session.id = supervisor.session) ∧
    (working.map (·.device)).Nodup ∧
    working.length ≤ max settings.maxStreams 1 ∧
    (∀ supervisor ∈ relay.decoders, supervisor.due? = some (.exit .stopped) →
      broker.roster.current? supervisor.device supervisor.session = none) := by
  intro relay broker working
  have orderly : (new settings).Orderly := .new settings
  have supervised : relay.Supervised := (Supervised.new settings).run orderly actions
  have live := supervised.sound.live
  have rests := supervised.sound.gone
  refine ⟨?_, ?_, ?_, ?_, fun _ => supervised.dismissed_or_current, supervised.working_distinct,
    ?_, fun _ => supervised.not_current_of_stopped⟩
  · have numbers := supervised.sound.numbers
    rwa [roll, List.map_map] at numbers
  · intro session mem
    rcases List.mem_append.mp mem with here | gone
    · exact (live session here).refusedMoves
    · exact (rests session gone).refusedMoves
  · intro session here
    exact ⟨(live session here).phase, (live session here).decoder, supervised.not_dismissed here,
      supervised.watches here⟩
  · intro session gone
    refine ⟨(rests session gone).phase, ?_⟩
    cases held : session.decoder with
    | told => exact .inl rfl
    | absent => exact .inr (.inl ⟨rfl, supervised.unwatched gone held⟩)
    | running =>
      have started : session.decoder ≠ .absent := by simp [held]
      refine .inr (.inr ⟨rfl, Broker.isDismissed_iff.mpr ⟨session, gone, rfl, started⟩, ?_⟩)
      intro own
      have nothing : (new settings).Ended := by simp [Ended, new, Broker.new]
      have ended : relay.Ended := nothing.run (.new settings) orderly own
      obtain ⟨supervisor, mem, same, finished⟩ := ended session gone held
      exact ⟨supervisor, supervised.decoder?_eq_some.mpr ⟨mem, same⟩, finished⟩
  · exact Nat.le_trans supervised.length_working_le (sessions_le settings actions)

end Relay

end CameraRelay
