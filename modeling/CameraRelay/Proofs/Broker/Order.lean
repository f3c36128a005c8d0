import CameraRelay.Proofs.Broker.Parting

/-!
# Sessions gone over in any order

Nothing promises in which order a client that leaves, or a broker that closes, comes upon the
sessions. The order shows nowhere but in the order of those that ended. Main statements:
`disconnectIn_matches`, `closeIn_matches`.
-/

namespace CameraRelay

namespace Broker

open Session (parting stopping)

/-- The same in everything but the order of the sessions that ended. -/
structure Matches (first second : Broker) : Prop where
  roster : first.roster = second.roster
  admission : first.admission = second.admission
  mailboxes : first.mailboxes = second.mailboxes
  departed : first.departed.Perm second.departed
  framesDelivered : first.framesDelivered = second.framesDelivered
  framesDropped : first.framesDropped = second.framesDropped
  closed : first.closed = second.closed

variable {broker first second : Broker} {client : SubscriberId}

/-- All that the sessions are gone over for is the course of each. -/
theorem Sifts.matches {course : Session → Course} (h : Sifts course broker first)
    (h' : Sifts course broker second) : Matches first second where
  roster := h.roster.trans h'.roster.symm
  admission := h.admission.trans h'.admission.symm
  mailboxes := h.mailboxes.trans h'.mailboxes.symm
  departed := h.departed.trans h'.departed.symm
  framesDelivered := h.framesDelivered.trans h'.framesDelivered.symm
  framesDropped := h.framesDropped.trans h'.framesDropped.symm
  closed := h.closed.trans h'.closed.symm

theorem sifts_foldl_teardown (distinct : broker.roster.devices.Nodup) (devices : List Device) :
    Sifts (stopping devices) broker (devices.foldl (·.teardown · .stop) broker) := by
  induction devices generalizing broker with
  | nil => exact sifts_of_same fun s _ => by simp [stopping]
  | cons device rest ih =>
    have now := sifts_teardown distinct device
    have distinct' : (broker.teardown device .stop).roster.devices.Nodup := by
      rw [roster_teardown, Roster.devices_remove]
      exact distinct.filter _
    exact now.trans (ih distinct') fun s _ => s.stopping_cons device rest

/-! ### A client leaves, the broker closes -/

/-- An order in which a client that leaves is taken out of its sessions, and in which its grants are
come upon afterwards. -/
structure Leaving (broker : Broker) (client : SubscriberId) where
  devices : List Device
  sessions : devices.Perm (broker.roster.devicesOf client)
  grants : (devices.foldl (·.detach client ·) broker).admission.Revoking client

def Leaving.listed (broker : Broker) (client : SubscriberId) : broker.Leaving client :=
  ⟨broker.roster.devicesOf client, .refl _, .listed _ _⟩

/-- `disconnect` in some order, with the numbers of sessions left and of requests cancelled. -/
def disconnectIn (broker : Broker) (client : SubscriberId) (order : broker.Leaving client) :
    Broker × Nat × Nat :=
  let left := order.devices.foldl (·.detach client ·) broker
  let (admission, cancelled) := left.admission.cancelRequesterIn client order.grants
  ({ left with admission }, order.devices.length, cancelled)

/-- An order in which the sessions of a broker that closes are stopped. -/
structure Closing (broker : Broker) where
  devices : List Device
  sessions : devices.Perm broker.roster.devices

def Closing.listed (broker : Broker) : broker.Closing := ⟨broker.roster.devices, .refl _⟩

/-- `close` in some order, with the number of sessions stopped. -/
def closeIn (broker : Broker) (order : broker.Closing) : Broker × Nat :=
  (order.devices.foldl (·.teardown · .stop) broker.cancelled, order.devices.length)

theorem disconnectIn_listed (broker : Broker) (client : SubscriberId) :
    (broker.disconnectIn client (.listed broker client)).1 = broker.disconnect client := by
  simp only [disconnectIn, Leaving.listed, Admission.cancelRequesterIn_listed]
  rfl

theorem closeIn_listed (broker : Broker) : (broker.closeIn (.listed broker)).1 = broker.close := rfl

theorem disconnectIn_matches (tidy : broker.Tidy) (one two : broker.Leaving client) :
    Matches (broker.disconnectIn client one).1 (broker.disconnectIn client two).1 ∧
      (broker.disconnectIn client one).2 = (broker.disconnectIn client two).2 := by
  have same : one.devices.Perm two.devices := one.sessions.trans two.sessions.symm
  have left := sifts_foldl_detach tidy client one.devices
  have left' : Sifts (parting client one.devices) broker
      (two.devices.foldl (·.detach client ·) broker) :=
    (sifts_foldl_detach tidy client two.devices).congr fun s _ => by
      simp only [parting, same.mem_iff]
  have alike := left.matches left'
  obtain ⟨chronicle, faithful⟩ := (tidy.foldl client one.devices).balanced.accounted
  have cancelled := Admission.cancelRequesterIn_congr faithful alike.admission one.grants two.grants
  refine ⟨?_, ?_⟩
  · exact ⟨alike.roster, congrArg Prod.fst cancelled, alike.mailboxes, alike.departed,
      alike.framesDelivered, alike.framesDropped, alike.closed⟩
  · simp only [disconnectIn, same.length_eq, cancelled]

theorem closeIn_matches (distinct : broker.roster.devices.Nodup) (one two : broker.Closing) :
    Matches (broker.closeIn one).1 (broker.closeIn two).1 ∧
      (broker.closeIn one).2 = (broker.closeIn two).2 := by
  have same : one.devices.Perm two.devices := one.sessions.trans two.sessions.symm
  have distinct' : broker.cancelled.roster.devices.Nodup := distinct
  have ended : Sifts (stopping one.devices) broker.cancelled (broker.closeIn one).1 :=
    sifts_foldl_teardown distinct' one.devices
  have ended' : Sifts (stopping one.devices) broker.cancelled (broker.closeIn two).1 :=
    (sifts_foldl_teardown distinct' two.devices).congr fun s _ => by
      simp only [stopping, same.mem_iff]
  exact ⟨ended.matches ended', same.length_eq⟩

end Broker

end CameraRelay
