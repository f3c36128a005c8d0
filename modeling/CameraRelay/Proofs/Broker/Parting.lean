import CameraRelay.Proofs.Admission.Advance
import CameraRelay.Proofs.Broker.Courses

/-!
# A client parts with its sessions

A client leaves the sessions of some devices one after the other. Those that others watch go on
without it; those that nobody else watches leave, and with each of them the line advances by one.
-/

namespace CameraRelay

namespace Admission

/-- Slots that are given back one after the other go along the line together. -/
theorem advances_released {admission : Admission} (packed : admission.Packed) {count : Nat}
    (held : count ≤ admission.active) :
    Advances admission (admission.released count) count count := by
  induction count generalizing admission with
  | zero => exact .refl _
  | succ count ih =>
    have now := advances_release packed (Nat.lt_of_lt_of_le (Nat.succ_pos count) held)
    have active := now.active
    have later := ih packed.release (by omega)
    have both : Advances admission (admission.released (count + 1)) (1 + count) (1 + count) :=
      now.trans later
    rwa [Nat.add_comm 1 count] at both

end Admission

namespace Session

variable {session : Session} {client : SubscriberId}

/-- The session without a client, if it goes on without it. -/
def leave (session : Session) (client : SubscriberId) : Option Session :=
  if session.isOnlyOf client then none else some (session.detach client).1

def leaveAt (session : Session) (client : SubscriberId) (devices : List Device) : Option Session :=
  if session.device ∈ devices then session.leave client else some session

theorem leave_of_only (only : session.isOnlyOf client = true) : session.leave client = none :=
  if_pos only

theorem leave_of_shared (shared : ¬ session.isOnlyOf client = true) :
    session.leave client = some (session.detach client).1 :=
  if_neg shared

theorem leave_of_apart (apart : ¬ session.hasSubscriber client = true) :
    session.leave client = some session := by
  rw [leave_of_shared (shared_of_apart apart), detach_of_apart apart]

theorem next?_parting (session : Session) (client : SubscriberId) (devices : List Device) :
    (session.parting client devices).next? = session.leaveAt client devices := by
  unfold parting leaveAt leave
  split
  · split <;> rfl
  · rfl

theorem Peopled.leave (peopled : session.Peopled) {next : Session}
    (leaves : session.leave client = some next) : next.Peopled := by
  by_cases watches : session.hasSubscriber client = true
  · by_cases only : session.isOnlyOf client = true
    · rw [leave_of_only only] at leaves
      cases leaves
    · rw [leave_of_shared only] at leaves
      obtain rfl := Option.some.inj leaves
      refine ⟨fun empty => only ((peopled.isOnlyOf_iff watches).mpr ?_), ?_⟩
      · rw [isIdle, empty, List.isEmpty_nil]
      · exact peopled.distinct.sublist (List.filter_sublist.map _)
  · rw [leave_of_apart watches] at leaves
    exact Option.some.inj leaves ▸ peopled

end Session

namespace Broker

open Admission (Advances)
open Session (parting)

/-- What every step of the broker keeps of its slots and sessions. -/
structure Tidy (broker : Broker) : Prop where
  balanced : broker.Balanced 0
  packed : broker.admission.Packed
  peopled : ∀ session ∈ broker.roster.sessions, session.Peopled

/-- A client left the sessions of some devices, and for each that went with it the line advanced by
one. -/
structure Parts (client : SubscriberId) (devices : List Device) (before after : Broker) : Prop where
  sessions : after.roster.sessions =
    before.roster.sessions.filterMap (·.leaveAt client devices)
  slots : ∃ count, after.roster.sessions.length + count = before.roster.sessions.length ∧
    Advances before.admission after.admission count count

variable {broker : Broker} {client : SubscriberId} {device : Device}

theorem Tidy.detach (tidy : broker.Tidy) (client : SubscriberId) (device : Device) :
    (broker.detach client device).Tidy where
  balanced := tidy.balanced.detach device client
  packed := (evolves_detach broker device client).admission.keeps Admission.Packed
    (fun _ operation _ packed => packed.act operation) tidy.packed
  peopled := by
    intro session mem
    rw [(sifts_detach tidy.balanced.devices tidy.peopled client device).roster] at mem
    obtain ⟨before, here, leaves⟩ := List.mem_filterMap.mp mem
    have peopled := tidy.peopled before here
    rw [before.next?_parting, Session.leaveAt] at leaves
    split at leaves
    · exact peopled.leave leaves
    · exact Option.some.inj leaves ▸ peopled

theorem sifts_foldl_detach (tidy : broker.Tidy) (client : SubscriberId) (devices : List Device) :
    Sifts (parting client devices) broker (devices.foldl (·.detach client ·) broker) := by
  induction devices generalizing broker with
  | nil => exact sifts_of_same fun s _ => by simp [parting]
  | cons device rest ih =>
    have now := sifts_detach tidy.balanced.devices tidy.peopled client device
    exact now.trans (ih (tidy.detach client device)) fun s _ => s.parting_cons device rest

theorem Tidy.foldl (tidy : broker.Tidy) (client : SubscriberId) (devices : List Device) :
    (devices.foldl (·.detach client ·) broker).Tidy := by
  induction devices generalizing broker with
  | nil => exact tidy
  | cons device rest ih => exact ih (tidy.detach client device)

theorem parts_foldl (tidy : broker.Tidy) (client : SubscriberId) (devices : List Device) :
    Parts client devices broker (devices.foldl (·.detach client ·) broker) := by
  have sifted := sifts_foldl_detach tidy client devices
  have lengths := Course.length_next_last (parting client devices) broker.roster.sessions
  have active := tidy.balanced.holds.active_eq
  have held : (broker.roster.sessions.filterMap fun s => (parting client devices s).last?).length ≤
      broker.admission.active := by omega
  have advances := Admission.advances_released tidy.packed held
  rw [← sifted.admission] at advances
  refine ⟨?_, _, ?_, advances⟩
  · rw [sifted.roster]
    exact List.filterMap_congr fun session _ => session.next?_parting client devices
  · rw [sifted.roster]
    exact lengths

theorem length_leave (sessions : List Session) (client : SubscriberId) :
    (sessions.filterMap (·.leave client)).length + (sessions.filter (·.isOnlyOf client)).length =
      sessions.length := by
  induction sessions with
  | nil => rfl
  | cons session rest ih =>
    by_cases only : session.isOnlyOf client = true
    · simp only [List.filterMap_cons, Session.leave_of_only only, List.filter_cons, only, if_true,
        List.length_cons]
      omega
    · simp only [List.filterMap_cons, Session.leave_of_shared only, List.filter_cons, only,
        Bool.false_eq_true, if_false, List.length_cons]
      omega

/-- A client that goes leaves every session, and the line without it advances by the slots of the
sessions that go with it and those that it was granted. -/
theorem advances_disconnect (tidy : broker.Tidy) (client : SubscriberId) :
    let freed := (broker.roster.sessions.filter (·.isOnlyOf client)).length +
      (broker.admission.grantsOf client).length
    (broker.disconnect client).roster.sessions =
        broker.roster.sessions.filterMap (·.leave client) ∧
      Advances (broker.admission.vacate client) (broker.disconnect client).admission
        freed freed := by
  intro freed
  obtain ⟨sessions, count, length, advances⟩ :=
    parts_foldl tidy client (broker.roster.devicesOf client)
  have left := tidy.foldl client (broker.roster.devicesOf client)
  have all : broker.roster.sessions.filterMap
      (·.leaveAt client (broker.roster.devicesOf client)) =
        broker.roster.sessions.filterMap (·.leave client) := by
    refine List.filterMap_congr fun session mem => ?_
    rw [Session.leaveAt]
    split
    · rfl
    · next away =>
      refine (Session.leave_of_apart fun watches => away ?_).symm
      exact Roster.mem_devicesOf.mpr ⟨_, session, mem, rfl, rfl, watches⟩
  rw [all] at sessions
  refine ⟨sessions, ?_⟩
  have gone : count = (broker.roster.sessions.filter (·.isOnlyOf client)).length := by
    have lengths := length_leave broker.roster.sessions client
    rw [sessions] at length
    omega
  obtain ⟨chronicle, faithful⟩ := left.balanced.accounted
  have active := left.balanced.holds.active_eq
  have handed := Admission.advances_cancelRequester faithful left.packed (by omega) client
  show Advances _ _ (_ + _) (_ + _)
  rw [← gone]
  exact advances.handover handed

end Broker

end CameraRelay
