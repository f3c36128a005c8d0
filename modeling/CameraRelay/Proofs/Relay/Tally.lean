import CameraRelay.Proofs.Broker.Counts
import CameraRelay.Proofs.Relay.Supervision
import CameraRelay.Proofs.Relay.Viewing

/-!
# The counters of a session and the output of its decoder

Of a run one can tell what was read from the decoder of a session and which of its frames were
reported. While the session goes on its counters tell the same, and its supervisor has the account
of the bytes in between; each kind of action keeps it so. Main statement: `Tallied.run`.
-/

namespace CameraRelay

namespace Relay

/-! ### Reads and frames -/

/-- The bytes that the supervisor of a session takes in with an action. -/
def read? (relay : Relay) (id : Nat) : Action → Option Bytes
  | .observe session observation =>
    if session = id then (relay.decoder? id).bind (·.intake? observation) else none
  | _ => none

/-- What is read from the decoder of a session over some actions. -/
def reads (relay : Relay) (id : Nat) : List Action → List Bytes
  | [] => []
  | action :: rest => (relay.read? id action).toList ++ (relay.step action).reads id rest

/-- The frames of a session that are reported over some actions. -/
def frames (relay : Relay) (device : Device) (id : Nat) : List Action → List Frame
  | [] => []
  | action :: rest =>
    (relay.frame? device id action).toList ++ (relay.step action).frames device id rest

/-! ### Supervisors by number -/

section

variable {relay : Relay} {id : Nat} {supervisor after : Supervisor}

theorem decoder?_setDecoder (relay : Relay) (after : Supervisor) (id : Nat) :
    (relay.setDecoder after).decoder? id =
      (relay.decoder? id).map fun s => if s.session = after.session then after else s := by
  have numbers : ((fun s : Supervisor => s.session == id) ∘ fun s : Supervisor =>
      if s.session = after.session then after else s) = fun s => s.session == id := by
    funext s
    by_cases same : s.session = after.session
    · rw [Function.comp_apply, if_pos same, same]
    · rw [Function.comp_apply, if_neg same]
  simp only [decoder?, setDecoder, List.find?_map, numbers]

theorem decoder?_setDecoder_self (found : relay.decoder? id = some supervisor)
    (same : after.session = id) : (relay.setDecoder after).decoder? id = some after := by
  rw [decoder?_setDecoder, found, Option.map_some]
  exact congrArg some (if_pos ((decoder_session found).trans same.symm))

theorem decoder?_setDecoder_of_ne (apart : after.session ≠ id) :
    (relay.setDecoder after).decoder? id = relay.decoder? id := by
  rw [decoder?_setDecoder]
  cases found : relay.decoder? id with
  | none => rfl
  | some supervisor =>
    have there : supervisor.session ≠ after.session := by
      rw [decoder_session found]
      exact apart.symm
    rw [Option.map_some, if_neg there]

theorem Supervised.le_created (h : relay.Supervised)
    (found : relay.decoder? id = some supervisor) : id ≤ relay.broker.roster.created := by
  obtain ⟨mem, rfl⟩ := h.decoder?_eq_some.mp found
  have listed := h.sound.numbers.subset (List.mem_map_of_mem (h.listed mem))
  have bound : supervisor.session < 1 + relay.broker.roster.created :=
    (List.mem_range'_1.mp listed).2
  omega

/-- The supervisor of a session in the roster reports about this session. -/
theorem Supervised.current_of_here (h : relay.Supervised) {session : Session}
    (here : session ∈ relay.broker.roster.sessions)
    (found : relay.decoder? session.id = some supervisor) :
    relay.broker.roster.current? supervisor.device session.id = some session := by
  obtain ⟨_, known, device, _⟩ := h.watches here
  obtain rfl := Option.some.inj (found.symm.trans known)
  have standing : relay.broker.roster.get? session.device = some session :=
    Roster.get?_of_mem h.sound.devices here
  rw [device]
  exact Roster.current?_eq_some.mpr ⟨standing, rfl⟩

theorem step_report {session : Nat} {report : Report}
    (found : relay.decoder? session = some supervisor) (due : supervisor.due? = some report) :
    let result := relay.broker.report supervisor.device session report
    (relay.step (.report session)).broker = result.1 ∧
      (relay.step (.report session)).decoder? session = some (supervisor.answer result.2) ∧
      ∀ other, other ≠ session →
        (relay.step (.report session)).decoder? other = relay.decoder? other := by
  intro result
  have number := decoder_session found
  have stepped : relay.step (.report session) =
      ({ relay with broker := result.1 }.setDecoder (supervisor.answer result.2)) := by
    simp only [step, found, due, number, result]
  have answered : (supervisor.answer result.2).session = session :=
    (supervisor.session_answer result.2).trans number
  let next : Relay := { relay with broker := result.1 }
  have same (other : Nat) : next.decoder? other = relay.decoder? other := rfl
  rw [stepped]
  refine ⟨rfl, decoder?_setDecoder_self ((same session).trans found) answered,
    fun other apart => ?_⟩
  refine decoder?_setDecoder_of_ne ?_
  rw [answered]
  exact apart.symm

theorem settings_step (relay : Relay) (action : Action) :
    (relay.step action).settings = relay.settings := by
  have hire (relay before : Relay) (device : Device) (fault : Option SystemFault) :
      (relay.hire before device fault).settings = relay.settings := by
    simp only [Relay.hire]
    split <;> rfl
  cases action with
  | register => simp only [step]; split <;> rfl
  | unregister => simp only [step]; split <;> rfl
  | resolve =>
    simp only [step, resolve]
    repeat' split
    all_goals rfl
  | enter =>
    simp only [step, enter]
    repeat' split
    all_goals simp [setStage, hire]
  | wake =>
    simp only [step, wake]
    repeat' split
    all_goals simp [setStage, hire]
  | abandon =>
    simp only [step, abandon]
    repeat' split
    all_goals rfl
  | observe =>
    simp only [step]
    repeat' split
    all_goals rfl
  | report =>
    simp only [step]
    repeat' split
    all_goals rfl
  | _ => rfl

end

end Relay

/-- An action that neither brings a report nor concerns a supervisor. -/
def Action.SparesDecoders : Action → Prop
  | .observe _ _ => False
  | .report _ => False
  | .notice _ _ _ => False
  | _ => True

namespace Relay

variable {relay : Relay} {action : Action} {device : Device} {id : Nat}

theorem inherits_step (spares : action.SparesDecoders) :
    (relay.step action).broker.roster.Inherits relay.broker.roster := by
  have moved := relay.moves action
  generalize (relay.step action).broker = next, (relay.step action).requests = after at moved ⊢
  cases moved with
  | enter => exact (Broker.handles_enter ..).inherits
  | wake => exact (Broker.handles_resume ..).inherits
  | stop subscriber device => exact Broker.inherits_detach ..
  | disconnect subscriber => exact Broker.inherits_disconnect ..
  | shutdown => exact Broker.inherits_close _
  | report device session report kind => rcases kind with rfl | rfl <;> exact spares.elim
  | _ => exact .refl _

/-- A decoder that is new starts with the number of the latest session. -/
theorem staff_step (spares : action.SparesDecoders) :
    (relay.step action).decoders = relay.decoders ∨
      ∃ device, (relay.step action).decoders = relay.decoders ++
        [.start relay.settings.decoder device (relay.step action).broker.roster.created] := by
  have tended := relay.tends action
  generalize (relay.step action).broker = next, (relay.step action).decoders = decoders at tended ⊢
  cases tended with
  | age => exact .inl rfl
  | @host _ number request fault next found hosts =>
    simp only [hired, hire]
    split
    · exact .inr ⟨request.device, rfl⟩
    · exact .inl rfl
  | observe => exact spares.elim
  | report => exact spares.elim
  | notice => exact spares.elim

theorem read?_of_spares (spares : action.SparesDecoders) : relay.read? id action = none := by
  cases action <;> first | rfl | exact spares.elim

theorem frame?_of_spares (spares : action.SparesDecoders) : relay.frame? device id action = none := by
  cases action <;> first | rfl | exact spares.elim

theorem frame?_report {session : Nat} {supervisor : Supervisor} {report : Report}
    (found : relay.decoder? session = some supervisor) (due : supervisor.due? = some report) :
    relay.frame? device id (.report session) =
      if supervisor.device = device ∧ session = id then report.frame? else none := by
  simp only [frame?, carried?, found, due, Option.map_some, decoder_session found]
  cases report <;> simp [Report.frame?]

theorem frame?_notice {named : Device} {number : Nat} (apart : ¬ (named = device ∧ number = id))
    (report : Report) : relay.frame? device id (.notice named number report) = none := by
  cases report <;> simp [frame?, carried?, apart]

/-- Nothing is read and no frame is reported of a session that has no decoder. -/
theorem hush_of_none (none : relay.decoder? id = none)
    (own : ∀ report, action ≠ .notice device id report) :
    relay.read? id action = .none ∧ relay.frame? device id action = .none := by
  cases action with
  | observe session observation => simp [read?, frame?, carried?, none]
  | report session =>
    refine ⟨rfl, ?_⟩
    cases found : relay.decoder? session with
    | none => simp [frame?, carried?, found]
    | some supervisor =>
      cases due : supervisor.due? with
      | none => simp [frame?, carried?, found, due]
      | some report =>
        rw [frame?_report found due]
        refine if_neg fun here => ?_
        rw [here.2, none] at found
        cases found
  | notice named session report =>
    have apart : ¬ (named = device ∧ session = id) := fun here =>
      own report (by rw [here.1, here.2])
    exact ⟨rfl, frame?_notice apart report⟩
  | _ => exact ⟨rfl, rfl⟩

/-! ### The tally of a session -/

/-- While a session goes on, its counters tell what was read and reported, and its supervisor has
the account of it. -/
def Tallies (relay : Relay) (device : Device) (id threshold : Nat) (reads : List Bytes)
    (frames : List Frame) : Prop :=
  ∀ session ∈ relay.broker.roster.sessions, session.id = id → session.device = device →
    session.frames = frames.length ∧ ∃ supervisor, relay.decoder? id = some supervisor ∧
      supervisor.Accounts threshold reads session.bytesRead frames

namespace Tallies

variable {threshold : Nat} {reads : List Bytes} {frames : List Frame}

theorem spared (h : relay.Tallies device id threshold reads frames) (supervised : relay.Supervised)
    (orderly : relay.Orderly) (bySize : relay.settings.decoder.framing = .bySize)
    (limit : max relay.settings.decoder.flushThreshold 1 = threshold)
    (unborn : relay.broker.roster.created < id → reads = [] ∧ frames = [])
    (spares : action.SparesDecoders) :
    (relay.step action).Tallies device id threshold reads frames := by
  rintro session mem rfl rfl
  rcases (inherits_step spares).sessions session mem with
    ⟨before, here, same, there, counts⟩ | ⟨new, none⟩
  · obtain ⟨total, supervisor, found, accounts⟩ := h before here same there
    obtain ⟨bytes, shown⟩ := Prod.mk.inj counts
    rw [shown] at total
    rw [bytes] at accounts
    refine ⟨total, supervisor, ?_, accounts⟩
    rcases staff_step spares with stay | ⟨device, joins⟩
    · rw [decoder?, stay]
      exact found
    · rw [decoder?, joins, List.find?_append]
      simp only [decoder?] at found
      rw [found]
      rfl
  · -- The session is new, and so is its supervisor.
    obtain ⟨rfl, rfl⟩ := unborn new
    obtain ⟨bytes, shown⟩ := Prod.mk.inj none
    have staffed := supervised.step orderly action
    obtain ⟨supervisor, found, _⟩ := staffed.watches mem
    refine ⟨shown, supervisor, found, ?_⟩
    rw [bytes, ← limit]
    obtain ⟨listed, number⟩ := staffed.decoder?_eq_some.mp found
    have fresh : supervisor ∉ relay.decoders := fun earlier => by
      have known := supervised.le_created (supervised.decoder?_eq_some.mpr ⟨earlier, number⟩)
      omega
    rcases staff_step spares with stay | ⟨device, joins⟩
    · rw [stay] at listed
      exact absurd listed fresh
    · rw [joins] at listed
      obtain rfl := List.mem_singleton.mp ((List.mem_append.mp listed).resolve_left fresh)
      exact Supervisor.accounts_start bySize device _

theorem observe (h : relay.Tallies device id threshold reads frames) (session : Nat)
    (observation : Observation) :
    (relay.step (.observe session observation)).Tallies device id threshold
      (reads ++ (relay.read? id (.observe session observation)).toList) frames := by
  intro other mem same there
  have broker : (relay.step (.observe session observation)).broker = relay.broker := by
    simp only [step]
    repeat' split
    all_goals rfl
  rw [broker] at mem
  obtain ⟨total, supervisor, found, accounts⟩ := h other mem same there
  refine ⟨total, ?_⟩
  by_cases here : session = id
  · obtain rfl := here
    have taken := accounts.observe observation
    simp only [step, read?, if_true, found, Option.bind_some]
    split
    · have same := (supervisor.session_observe observation).trans (decoder_session found)
      exact ⟨_, decoder?_setDecoder_self found same, taken⟩
    · next cannot =>
      -- Only a request to stop can be out of place.
      cases observation with
      | stopRequest => exact ⟨supervisor, found, by simpa [Supervisor.intake?] using accounts⟩
      | _ => exact absurd rfl cannot
  · refine ⟨supervisor, ?_, by simpa [read?, here] using accounts⟩
    simp only [step]
    split
    · next watcher known =>
      split
      · have apart : (watcher.observe observation).session ≠ id := by
          rw [watcher.session_observe, decoder_session known]
          exact here
        rw [decoder?_setDecoder_of_ne apart, found]
      · exact found
    · exact found

theorem report (h : relay.Tallies device id threshold reads frames) (supervised : relay.Supervised)
    (session : Nat) :
    (relay.step (.report session)).Tallies device id threshold reads
      (frames ++ (relay.frame? device id (.report session)).toList) := by
  cases found : relay.decoder? session with
  | none => simpa [Tallies, step, frame?, carried?, found] using h
  | some supervisor =>
    cases due : supervisor.due? with
    | none => simpa [Tallies, step, frame?, carried?, found, due] using h
    | some made =>
      obtain ⟨broker, answered, others⟩ := step_report found due
      rw [frame?_report found due]
      intro other mem same there
      rw [broker] at mem
      rcases Broker.mem_report mem with ⟨here, apart⟩ | ⟨now, current, wanted, number, at', counts⟩
      · have differs : session ≠ id := by
          rintro rfl
          rw [← same] at found apart
          exact apart (supervised.current_of_here here found)
        rw [if_neg fun both => differs both.2, others id differs.symm]
        simpa using h other here same there
      · obtain rfl : session = id := number.symm.trans same
        obtain rfl : supervisor.device = device := at'.symm.trans there
        obtain ⟨here, before⟩ := Roster.mem_of_get? (Roster.get?_of_current? current)
        have id' : now.id = session := (Roster.current?_eq_some.mp current).2
        obtain ⟨total, _, known, accounts⟩ := h now here id' before
        obtain rfl := Option.some.inj (found.symm.trans known)
        obtain ⟨bytes, shown⟩ := Prod.mk.inj counts
        have inner (exit : DecoderExit) : made ≠ .exit exit := by
          rintro rfl
          cases wanted
        rw [if_pos ⟨rfl, rfl⟩, bytes, shown, total, List.length_append]
        refine ⟨rfl, _, answered, ?_⟩
        rw [wanted]
        exact accounts.answer due inner

theorem notice (h : relay.Tallies device id threshold reads frames) {named : Device} {number : Nat}
    {report : Report} (own : ¬ (named = device ∧ number = id)) :
    (relay.step (.notice named number report)).Tallies device id threshold reads frames := by
  intro session mem same there
  rcases Broker.mem_report mem with ⟨here, _⟩ | ⟨_, _, _, number', at', _⟩
  · exact h session here same there
  · exact absurd ⟨at'.symm.trans there, number'.symm.trans same⟩ own

end Tallies

structure Tallied (relay : Relay) (device : Device) (id threshold : Nat) (reads : List Bytes)
    (frames : List Frame) : Prop where
  bySize : relay.settings.decoder.framing = .bySize
  limit : max relay.settings.decoder.flushThreshold 1 = threshold
  unborn : relay.broker.roster.created < id → reads = [] ∧ frames = []
  tallies : relay.Tallies device id threshold reads frames

namespace Tallied

variable {threshold : Nat} {reads : List Bytes} {frames : List Frame}

theorem new {settings : RelaySettings} (bySize : settings.decoder.framing = .bySize)
    (device : Device) (id : Nat) :
    (Relay.new settings).Tallied device id (max settings.decoder.flushThreshold 1) [] [] where
  bySize := bySize
  limit := rfl
  unborn := fun _ => ⟨rfl, rfl⟩
  tallies := by simp [Tallies, Relay.new, Broker.new]

theorem step (h : relay.Tallied device id threshold reads frames) (supervised : relay.Supervised)
    (orderly : relay.Orderly) (own : ∀ report, action ≠ .notice device id report) :
    (relay.step action).Tallied device id threshold
      (reads ++ (relay.read? id action).toList)
      (frames ++ (relay.frame? device id action).toList) where
  bySize := by
    rw [settings_step]
    exact h.bySize
  limit := by
    rw [settings_step]
    exact h.limit
  unborn := by
    intro later
    have grown := (Roster.succeeds_of_changes (relay.changes_step action)).created
    have before : relay.broker.roster.created < id := Nat.lt_of_le_of_lt grown later
    obtain ⟨rfl, rfl⟩ := h.unborn before
    have nobody : relay.decoder? id = none :=
      Option.eq_none_iff_forall_ne_some.mpr fun supervisor found =>
        absurd (supervised.le_created found) (Nat.not_le_of_lt before)
    obtain ⟨unread, unshown⟩ := hush_of_none nobody own
    rw [unread, unshown]
    exact ⟨rfl, rfl⟩
  tallies := by
    by_cases spares : action.SparesDecoders
    · rw [read?_of_spares spares, frame?_of_spares spares, Option.toList_none, Option.toList_none,
        List.append_nil, List.append_nil]
      exact h.tallies.spared supervised orderly h.bySize h.limit h.unborn spares
    · cases action with
      | observe session observation =>
        have unshown : relay.frame? device id (.observe session observation) = none := rfl
        rw [unshown, Option.toList_none, List.append_nil]
        exact h.tallies.observe session observation
      | report session =>
        have unread : relay.read? id (.report session) = none := rfl
        rw [unread, Option.toList_none, List.append_nil]
        exact h.tallies.report supervised session
      | notice named number report =>
        have apart : ¬ (named = device ∧ number = id) := fun here =>
          own report (by rw [here.1, here.2])
        have unread : relay.read? id (.notice named number report) = none := rfl
        rw [unread, frame?_notice apart, Option.toList_none, Option.toList_none, List.append_nil,
          List.append_nil]
        exact h.tallies.notice apart
      | _ => exact absurd trivial spares

theorem run (h : relay.Tallied device id threshold reads frames) (supervised : relay.Supervised)
    (orderly : relay.Orderly) {actions : List Action}
    (own : ∀ report, .notice device id report ∉ actions) :
    (relay.run actions).Tallied device id threshold (reads ++ relay.reads id actions)
      (frames ++ relay.frames device id actions) := by
  induction actions generalizing relay reads frames with
  | nil => simpa [Relay.run, Relay.reads, Relay.frames] using h
  | cons action rest ih =>
    have first : (relay.step action).Tallied device id threshold _ _ :=
      h.step supervised orderly fun report eq => own report (by simp [eq])
    have later := ih first (supervised.step orderly action) (orderly.step action)
      fun report mem => own report (List.mem_cons_of_mem _ mem)
    rwa [List.append_assoc, List.append_assoc] at later

end Tallied

end Relay

end CameraRelay
