import CameraRelay.Proofs.Broker.Reports
import CameraRelay.Proofs.Relay.Waiting

/-!
# Sessions and decoders under one action

What an action does to the sessions and to the supervisors of their decoders is said once, case by
case (`tends`): a request may start a decoder, a supervisor observes its decoder or reports to the
broker, and everything else at most stops sessions. Main statement: `reports_confined`.
-/

namespace CameraRelay

theorem Supervisor.stopping_of_unwanted (supervisor : Supervisor) {report : Report}
    (due : supervisor.due? = some report) (inner : ∀ exit, report ≠ .exit exit) :
    (supervisor.answer false).watch = .stopping := by
  simp only [due?] at due
  split at due
  · next watch => simp [answer, watch]
  · next watch => simp [answer, watch]
  · exact absurd (Option.some.inj due).symm (inner _)
  · cases due

namespace Relay

/-- The supervisors after a step to a broker in which a decoder may have been started. -/
def hired (relay : Relay) (next : Broker) (device : Device) (fault : Option SystemFault) :
    List Supervisor :=
  ({ relay with broker := next }.hire relay device fault).decoders

inductive Tends (relay : Relay) : Action → Broker → List Supervisor → Prop
  | age (action : Action) {next : Broker}
    (ages : Broker.Ages (· = .stop) (fun _ => False) relay.broker next) :
    Tends relay action next relay.decoders
  | host (action : Action) {number : Nat} {request : Request} {fault : Option SystemFault}
    {next : Broker} (found : relay.request? number = some request)
    (hosts : Broker.Hosts request.device fault (· = .stop) (· = request.subscriber) relay.broker
      next) :
    Tends relay action next (relay.hired next request.device fault)
  | observe {session : Nat} {observation : Observation} {supervisor : Supervisor}
    (found : relay.decoder? session = some supervisor)
    (can : relay.canObserve supervisor observation = true) :
    Tends relay (.observe session observation) relay.broker
      (relay.setDecoder (supervisor.observe observation)).decoders
  | report {session : Nat} {supervisor : Supervisor} {report : Report}
    (found : relay.decoder? session = some supervisor) (due : supervisor.due? = some report) :
    Tends relay (.report session)
      (relay.broker.report supervisor.device supervisor.session report).1
      (relay.setDecoder (supervisor.answer
        (relay.broker.report supervisor.device supervisor.session report).2)).decoders
  | notice (device : Device) (session : Nat) (report : Report) :
    Tends relay (.notice device session report) (relay.broker.report device session report).1
      relay.decoders

theorem decoders_enter (relay : Relay) (number : Nat) (request : Request) (locator : String)
    (fault : Option SystemFault) :
    (relay.enter number request locator fault).decoders =
      relay.hired (relay.broker.enter request.subscriber request.device locator fault).1
        request.device fault := by
  simp only [enter]
  split <;> rfl

theorem tends (relay : Relay) (action : Action) :
    Tends relay action (relay.step action).broker (relay.step action).decoders := by
  have idle (action : Action) : Tends relay action relay.broker relay.decoders :=
    .age action (.same rfl rfl)
  cases action with
  | register device source =>
    simp only [step]
    split <;> exact idle _
  | unregister device =>
    simp only [step]
    split <;> exact idle _
  | subscribe => exact .age _ (.same rfl rfl)
  | ask => exact idle _
  | resolve number =>
    simp only [step]
    split
    · split
      · simp only [resolve]
        split
        · exact idle _
        · exact .age _ (.same rfl rfl)
      · exact idle _
    · exact idle _
  | enter number fault =>
    simp only [step]
    split
    · next found =>
      split
      · rw [broker_enter, decoders_enter]
        exact .host _ found (Broker.handles_enter ..).hosts
      · exact idle _
    · exact idle _
  | wake number cause fault =>
    simp only [step]
    split
    · next found =>
      split
      · split
        · exact idle _
        · rw [broker_wake]
          exact .host _ found (Broker.handles_resume ..).hosts
      · exact idle _
    · exact idle _
  | abandon number =>
    simp only [step]
    split
    · simp only [abandon]
      split
      · exact .age _ (.same rfl rfl)
      all_goals exact idle _
    · exact idle _
  | stop subscriber device => exact .age _ (Broker.ages_detach ..)
  | disconnect subscriber => exact .age _ (Broker.ages_disconnect ..)
  | shutdown => exact .age _ (Broker.ages_close ..)
  | receive => exact .age _ (.same rfl rfl)
  | closeMailbox => exact .age _ (.same rfl rfl)
  | dropMailbox => exact .age _ (.same rfl rfl)
  | observe session observation =>
    simp only [step]
    split
    · next found =>
      split
      · next can => exact .observe found can
      · exact idle _
    · exact idle _
  | report session =>
    simp only [step]
    split
    · next found =>
      split
      · next due => exact .report found due
      · exact idle _
    · exact idle _
  | notice device session report => exact .notice device session report
  | complain => exact .age _ (.same rfl rfl)

/-- Subscribers use the mailboxes of their own numbers. -/
def Own (subscriber : Subscriber) : Prop := subscriber = handle subscriber.id

variable {relay : Relay}

theorem sound_step (sound : Sound Own relay.broker.lives) (orderly : relay.Orderly)
    (action : Action) : Sound Own (relay.step action).broker.lives := by
  have tended := relay.tends action
  generalize (relay.step action).broker = next, (relay.step action).decoders = decoders at tended ⊢
  cases tended with
  | age _ ages => exact (ages.sound sound).1
  | host _ found hosts =>
    refine hosts.sound sound fun subscriber same => ?_
    rw [same]
    exact orderly.handles _ _ found
  | observe => exact sound
  | report => exact ((Broker.ages_report ..).sound sound).1
  | notice => exact ((Broker.ages_report ..).sound sound).1

theorem sound_run (sound : Sound Own relay.broker.lives) (orderly : relay.Orderly)
    (actions : List Action) : Sound Own (relay.run actions).broker.lives := by
  induction actions generalizing relay with
  | nil => exact sound
  | cons action rest ih => exact ih (sound_step sound orderly action) (orderly.step action)

theorem sound_new (settings : RelaySettings) : Sound Own (new settings).broker.lives where
  devices := .nil
  live := by simp [new, Broker.new, Broker.lives]
  gone := by simp [new, Broker.new, Broker.lives]
  numbers := .nil

theorem mailboxes_of_thrives {session : Session} (thrives : session.Thrives Own) :
    session.subscribers.map (·.mailbox) = session.subscribers.map (·.id) :=
  List.map_congr_left fun subscriber mem => congrArg (·.mailbox) (thrives.knows subscriber mem)

/-- Each subscriber of a session has a mailbox of its own. -/
theorem distinct_of_thrives {session : Session} (thrives : session.Thrives Own) :
    (session.subscribers.map (·.mailbox)).Nodup := by
  rw [mailboxes_of_thrives thrives]
  exact thrives.distinct

/-- An event for all subscribers of a session puts one event into each mailbox at most. -/
theorem get?_of_posts {session : Session} (thrives : session.Thrives Own)
    {before after : Mailboxes} (posts : session.Posts before after) (number : Nat) :
    after.get? number = before.get? number ∨
      ∃ client box event, number = (handle client).mailbox ∧
        session.hasSubscriber client = true ∧ event.device? = some session.device ∧
        before.get? number = some box ∧
        after.get? number = some { box with queue := box.queue ++ [event] } := by
  rcases posts with same | ⟨event, names, fanned⟩
  · exact .inl (by rw [same])
  have distinct := distinct_of_thrives thrives
  rw [fanned]
  refine (Session.get?_fanOut number before distinct).imp_right fun got => ?_
  obtain ⟨subscriber, mem, here, box, found, put⟩ := got
  refine ⟨subscriber.id, box, event, ?_, ?_, names, found, put⟩
  · rw [← here]
    exact congrArg (·.mailbox) (thrives.knows subscriber mem)
  · exact (session.hasSubscriber_iff _).mpr (List.mem_map_of_mem mem)

/-- In every state of every run, a report of a decoder about a session that is not the one its device
has now changes nothing and is answered with no, which makes the supervisor stop its decoder. A
report about the session that the device has now leaves all other sessions as they are; a mailbox
gets at most one event, which names the device, and only if it is that of a subscriber of the
session; and the session goes on without a slot changing hands, or it is gone and its slot was given
back once. -/
theorem reports_confined (settings : RelaySettings) (actions : List Action) (device : Device)
    (id : Nat) (report : Report) :
    let broker := ((new settings).run actions).broker
    let after := (broker.report device id report).1
    let wanted := (broker.report device id report).2
    ((∀ session, broker.roster.get? device = some session → session.id ≠ id) →
      after = broker ∧ wanted = false ∧
      ∀ supervisor : Supervisor, supervisor.due? = some report →
        (∀ exit, report ≠ .exit exit) → (supervisor.answer wanted).watch = .stopping) ∧
    (∀ session, broker.roster.get? device = some session → session.id = id →
      (∀ other, other ≠ device → after.roster.get? other = broker.roster.get? other) ∧
      after.roster.remove device = broker.roster.remove device ∧
      (∀ number, after.mailboxes.get? number = broker.mailboxes.get? number ∨
        ∃ client box event, number = (handle client).mailbox ∧
          session.hasSubscriber client = true ∧ event.device? = some device ∧
          broker.mailboxes.get? number = some box ∧
          after.mailboxes.get? number = some { box with queue := box.queue ++ [event] }) ∧
      ((∃ goesOn, after.roster.get? device = some goesOn ∧ goesOn.id = id ∧
          after.admission = broker.admission) ∨
        (after.roster.get? device = none ∧
          after.admission = broker.admission.release.1))) := by
  intro broker after wanted
  have sound : Sound Own broker.lives :=
    sound_run (sound_new settings) (.new settings) actions
  constructor
  · intro other
    have stale : broker.roster.current? device id = none := by
      rw [Roster.current?, Option.filter_eq_none_iff]
      intro session found same
      exact other session found (by simpa using same)
    have nothing := Broker.report_of_stale stale report
    refine ⟨congrArg Prod.fst nothing, congrArg Prod.snd nothing, fun supervisor due inner => ?_⟩
    rw [show wanted = false from congrArg Prod.snd nothing]
    exact supervisor.stopping_of_unwanted due inner
  · intro session found same
    have current : broker.roster.current? device id = some session :=
      Option.filter_eq_some_iff.mpr ⟨found, by simpa using same⟩
    have heeds : broker.Heeds session report (broker.report device id report) :=
      Broker.heeds_report current report
    obtain ⟨here, rfl⟩ := Roster.mem_of_get? found
    obtain rfl := same
    have others : after.roster.remove session.device = broker.roster.remove session.device :=
      heeds.remove
    refine ⟨fun other apart => ?_, others, get?_of_posts (sound.live session here) heeds.posts, ?_⟩
    · rw [← Roster.get?_remove_of_ne apart, others, Roster.get?_remove_of_ne apart]
    · rcases heeds.goes_or_leaves found with ⟨goesOn, now, id, slots, _⟩ | ⟨gone, slots, _⟩
      · exact .inl ⟨goesOn, now, id, slots⟩
      · exact .inr ⟨gone, slots⟩

end Relay

end CameraRelay
