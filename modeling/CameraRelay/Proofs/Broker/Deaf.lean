import CameraRelay.Proofs.Admission.Owners
import CameraRelay.Proofs.Broker.Shape

/-!
# Clients that do not listen

A client whose mailbox is closed is never admitted: whichever step of a start request finds out that
it cannot be told takes back what it did for it. So once such a client has left, the broker keeps
nothing for it, whatever its requests on their way still do.
-/

namespace CameraRelay

namespace Broker

variable {broker : Broker} {subscriber : Subscriber} {device : Device} {locator : String}
  {fault : Option SystemFault}

/-! ### Requests come to nothing -/

section

variable (deaf : broker.mailboxes.isClosed subscriber = true)

include deaf

theorem confirmStarted_ne_ok : (broker.confirmStarted subscriber device).2 ≠ .ok () := by
  rw [confirmStarted_eq, if_pos deaf]
  exact fun eq => by cases eq

theorem join_ne_ok : (broker.join subscriber device).2 ≠ .ok () := by
  simp only [join]
  split
  · exact fun eq => by cases eq
  · exact confirmStarted_ne_ok deaf

theorem openSession_ne_ok : (broker.openSession subscriber device locator fault).2 ≠ .ok () := by
  by_cases session : broker.roster.contains device = true
  · rw [openSession_of_session subscriber locator fault session]
    have released : broker.release.mailboxes.isClosed subscriber = true := deaf
    exact join_ne_ok released
  · cases fault with
    | none =>
      rw [openSession_of_start subscriber locator session]
      have started : (broker.started subscriber device locator).mailboxes.isClosed subscriber =
          true := deaf
      exact confirmStarted_ne_ok started
    | some fault =>
      rw [openSession_of_fault subscriber locator fault session]
      exact fun eq => by cases eq

theorem Handles.ne_ok {next : Broker} {outcome? : Option Outcome}
    (h : broker.Handles subscriber device locator fault next outcome?) :
    outcome? ≠ some (.ok ()) := by
  have still {middle : Broker} (same : broker.Alike middle) :
      middle.mailboxes.isClosed subscriber = true := by
    rw [same.mailboxes]
    exact deaf
  cases h with
  | hush useless => exact useless
  | told _ useless => exact useless
  | joins outcome same =>
    rw [outcome]
    exact fun well => join_ne_ok (still same) (Option.some.inj well)
  | opens outcome same =>
    rw [outcome]
    exact fun well => openSession_ne_ok (still same) (Option.some.inj well)

end

/-! ### Nothing waits -/

theorem Evolves.lacks {allowed : Admission.Operation → Prop} {before after : Broker}
    {client : SubscriberId} (h : Evolves allowed before after)
    (silent : ∀ operation, allowed operation → ¬ operation.Asks client)
    (lacks : before.admission.Lacks client) : after.admission.Lacks client :=
  h.admission.keeps (·.Lacks client) (fun _ operation kind lacks => lacks.act (silent operation kind))
    lacks

section

variable {client : SubscriberId} {operation : Admission.Operation}

theorem silent_of_releases (kind : Admission.Releases operation) : ¬ operation.Asks client := by
  obtain rfl := kind
  simp [Admission.Operation.Asks]

theorem silent_of_enters {asker : SubscriberId} {deaf : Bool} (apart : asker ≠ client)
    (kind : Admission.Enters asker deaf operation) : ¬ operation.Asks client := by
  rcases kind with rfl | ⟨device, sessionExists, rfl⟩ | ⟨_, rfl⟩
  all_goals simp [Admission.Operation.Asks, apart]

theorem silent_of_resumes {ticket : TicketId} (kind : Admission.Resumes ticket operation) :
    ¬ operation.Asks client := by
  rcases kind with rfl | rfl | rfl | rfl | rfl
  all_goals simp [Admission.Operation.Asks]

theorem silent_of_leaves {leaver : SubscriberId} (kind : Admission.Leaves leaver operation) :
    ¬ operation.Asks client := by
  rcases kind with rfl | rfl
  all_goals simp [Admission.Operation.Asks]

end

/-- Who does not listen is not left in line by a first step. -/
theorem lacks_enter (deaf : broker.mailboxes.isClosed subscriber = true)
    (lacks : broker.admission.Lacks subscriber.id) :
    (broker.enter subscriber device locator fault).1.admission.Lacks subscriber.id := by
  by_cases closed : broker.closed = true
  · rw [enter_of_closed closed]
    exact lacks
  by_cases session : broker.roster.contains device = true
  · rw [enter_of_session closed session]
    exact (evolves_join broker subscriber device).lacks (fun _ => silent_of_releases) lacks
  by_cases free : broker.admission.active < broker.admission.capacity
  · rw [enter_of_free closed session free]
    have taken : broker.taken.admission.Lacks subscriber.id := ⟨lacks.entries, lacks.grants⟩
    have opened := evolves_openSession broker.taken subscriber device locator fault
    exact opened.lacks (fun _ => silent_of_releases) taken
  · -- The entry just made is cancelled again, as nobody hears of it.
    rw [enter_of_full closed session free, if_pos deaf]
    exact Admission.lacks_cancelRequester _ _

theorem lacks_close (broker : Broker) (client : SubscriberId) :
    broker.close.admission.Lacks client := by
  have cancelled : broker.cancelled.admission.Lacks client :=
    Admission.lacks_cancelAll broker.admission client
  exact broker.evolves_close.lacks (fun _ => silent_of_releases) cancelled

theorem lacks_disconnect (broker : Broker) (leaver : SubscriberId) :
    (broker.disconnect leaver).admission.Lacks leaver :=
  Admission.lacks_cancelRequester _ _

/-! ### Nothing is watched -/

theorem not_watches_detach (shaped : broker.roster.Shaped) (leaver : SubscriberId) :
    device ∉ (broker.detach leaver device).roster.devicesOf leaver := by
  intro mem
  obtain ⟨_, session, here, _, there, watches⟩ := Roster.mem_devicesOf.mp mem
  by_cases attached : ∃ session, broker.roster.get? device = some session ∧
      session.hasSubscriber leaver = true
  · obtain ⟨old, found, attached⟩ := attached
    rw [roster_detach found attached] at here
    split at here
    · have apart := (List.mem_filter.mp here).2
      simp [there] at apart
    · rcases Roster.mem_put here with rfl | ⟨_, apart⟩
      · exact ((old.hasSubscriber_detach leaver leaver).mp watches).2 rfl
      · exact apart (there.trans (Roster.mem_of_get? found).2.symm)
  · rw [detach_of_apart fun session found watches => attached ⟨session, found, watches⟩] at here
    exact attached ⟨session, shaped.get?_eq_some.mpr ⟨here, there⟩, watches⟩

theorem devicesOf_foldl_detach (shaped : broker.roster.Shaped) (leaver : SubscriberId)
    (devices : List Device) (all : broker.roster.devicesOf leaver ⊆ devices) :
    (devices.foldl (·.detach leaver ·) broker).roster.devicesOf leaver = [] := by
  -- The devices that are left to detach from still cover all that are watched.
  induction devices generalizing broker with
  | nil => exact List.subset_nil.mp all
  | cons first rest ih =>
    have change := (shifts_detach broker first leaver).roster
    refine ih (Roster.shaped_of_changes change shaped) fun device mem => ?_
    rcases Roster.devicesOf_of_changes change mem with before | never
    · refine (List.mem_cons.mp (all before)).resolve_left fun same => ?_
      obtain rfl := same
      exact not_watches_detach shaped leaver mem
    · exact never.elim

theorem devicesOf_disconnect (shaped : broker.roster.Shaped) (leaver : SubscriberId) :
    (broker.disconnect leaver).roster.devicesOf leaver = [] :=
  devicesOf_foldl_detach shaped leaver _ (List.Subset.refl _)

end Broker

end CameraRelay
