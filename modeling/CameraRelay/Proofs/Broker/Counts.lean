import CameraRelay.Proofs.Broker.Reports
import CameraRelay.Proofs.Decoder.Intake

/-!
# What sessions have counted

A session counts the bytes and the frames of its decoder. It begins with none, and its counters move
with the reports about it and with nothing else the broker does.
-/

namespace CameraRelay

namespace Session

/-- The bytes and the frames that were reported. -/
def counts (session : Session) : Nat × Nat := (session.bytesRead, session.frames)

theorem counts_attach (session : Session) (subscriber : Subscriber) :
    (session.attach subscriber).1.counts = session.counts := by
  simp only [attach]
  split <;> rfl

end Session

namespace Roster

/-- Every session was there before and had counted as much, or is new and has counted nothing. -/
structure Inherits (later earlier : Roster) : Prop where
  created : earlier.created ≤ later.created
  sessions : ∀ session ∈ later.sessions,
    (∃ before ∈ earlier.sessions, before.id = session.id ∧ before.device = session.device ∧
      before.counts = session.counts) ∨
    (earlier.created < session.id ∧ session.counts = (0, 0))

namespace Inherits

variable {first second third : Roster} {roster : Roster} {session old : Session}

theorem refl (roster : Roster) : roster.Inherits roster :=
  ⟨Nat.le_refl _, fun session mem => .inl ⟨session, mem, rfl, rfl, rfl⟩⟩

theorem trans (h : third.Inherits second) (h' : second.Inherits first) :
    third.Inherits first where
  created := Nat.le_trans h'.created h.created
  sessions := by
    intro session mem
    rcases h.sessions session mem with ⟨before, here, id, device, counts⟩ | ⟨new, none⟩
    · rw [← id, ← device, ← counts]
      exact h'.sessions before here
    · exact .inr ⟨Nat.lt_of_le_of_lt h'.created new, none⟩

theorem put (found : roster.get? session.device = some old) (id : session.id = old.id)
    (counts : session.counts = old.counts) : (roster.put session).Inherits roster where
  created := Nat.le_refl _
  sessions := by
    intro other mem
    obtain ⟨here, device⟩ := mem_of_get? found
    rcases mem_put mem with rfl | ⟨before, _⟩
    · exact .inl ⟨old, here, id.symm, device, counts.symm⟩
    · exact .inl ⟨other, before, rfl, rfl, rfl⟩

theorem remove (roster : Roster) (device : Device) : (roster.remove device).Inherits roster :=
  ⟨Nat.le_refl _, fun session mem => .inl ⟨session, (List.mem_filter.mp mem).1, rfl, rfl, rfl⟩⟩

theorem add (number : session.id = roster.created + 1) (none : session.counts = (0, 0)) :
    (roster.add session).Inherits roster where
  created := Nat.le_succ _
  sessions := by
    intro other mem
    rcases List.mem_append.mp mem with before | last
    · exact .inl ⟨other, before, rfl, rfl, rfl⟩
    · obtain rfl := List.mem_singleton.mp last
      exact .inr ⟨by omega, none⟩

theorem spend (roster : Roster) :
    ({ roster with created := roster.created + 1 } : Roster).Inherits roster :=
  ⟨Nat.le_succ _, fun session mem => .inl ⟨session, mem, rfl, rfl, rfl⟩⟩

end Inherits

end Roster

namespace Broker

open Roster (Inherits)

variable (broker : Broker) (subscriber : Subscriber) (device : Device) (locator : String)
  (fault : Option SystemFault)

theorem inherits_teardown (reason : Teardown) :
    (broker.teardown device reason).roster.Inherits broker.roster := by
  rw [roster_teardown]
  exact .remove _ _

theorem inherits_detach (leaver : SubscriberId) :
    (broker.detach leaver device).roster.Inherits broker.roster := by
  by_cases attached : ∃ session, broker.roster.get? device = some session ∧
      session.hasSubscriber leaver = true
  · obtain ⟨session, found, attached⟩ := attached
    have goesOn : broker.roster.get? (session.detach leaver).1.device = some session := by
      rwa [show (session.detach leaver).1.device = device from (Roster.mem_of_get? found).2]
    rw [roster_detach found attached]
    split
    · exact .remove _ _
    · exact .put goesOn rfl rfl
  · rw [detach_of_apart fun session found watches => attached ⟨session, found, watches⟩]
    exact .refl _

theorem inherits_confirmStarted :
    (broker.confirmStarted subscriber device).1.roster.Inherits broker.roster := by
  rw [confirmStarted_eq]
  split
  · exact inherits_detach (broker.told subscriber (.started device)) device subscriber.id
  · exact .refl _

theorem inherits_join : (broker.join subscriber device).1.roster.Inherits broker.roster := by
  simp only [join]
  split
  · exact .refl _
  · next session found =>
    have there : (session.attach subscriber).1.device = device :=
      (session.device_attach subscriber).trans (Roster.mem_of_get? found).2
    have joins : (broker.roster.put (session.attach subscriber).1).Inherits broker.roster :=
      .put (by rwa [there]) (session.id_attach subscriber) (session.counts_attach subscriber)
    exact (inherits_confirmStarted ..).trans joins

theorem inherits_openSession :
    (broker.openSession subscriber device locator fault).1.roster.Inherits broker.roster := by
  by_cases session : broker.roster.contains device = true
  · rw [openSession_of_session subscriber locator fault session]
    exact inherits_join broker.release subscriber device
  cases fault with
  | none =>
    rw [openSession_of_start subscriber locator session]
    have comes : (broker.started subscriber device locator).roster.Inherits broker.roster := by
      rw [roster_started subscriber locator session]
      exact .add rfl rfl
    exact (inherits_confirmStarted ..).trans comes
  | some fault =>
    rw [openSession_of_fault subscriber locator fault session, roster_teardown,
      roster_opened subscriber locator session, Roster.remove_add (get?_of_alone session) rfl]
    exact .spend _

section

variable {broker subscriber device locator fault}

theorem Handles.inherits {next : Broker} {outcome? : Option Outcome}
    (h : broker.Handles subscriber device locator fault next outcome?) :
    next.roster.Inherits broker.roster := by
  cases h with
  | hush _ alike =>
    rw [alike.roster]
    exact .refl _
  | told _ _ _ alike =>
    rw [alike.roster]
    exact .refl _
  | @joins middle _ same alike =>
    rw [alike.roster, ← same.roster]
    exact inherits_join middle subscriber device
  | @opens middle _ same alike =>
    rw [alike.roster, ← same.roster]
    exact inherits_openSession middle subscriber device locator fault

end

theorem inherits_disconnect (leaver : SubscriberId) :
    (broker.disconnect leaver).roster.Inherits broker.roster :=
  List.foldlRecOn (motive := fun left : Broker => left.roster.Inherits broker.roster)
    (broker.roster.devicesOf leaver) _ (.refl _) fun left h device _ =>
      (inherits_detach left device leaver).trans h

theorem inherits_close : broker.close.roster.Inherits broker.roster :=
  List.foldlRecOn (motive := fun left : Broker => left.roster.Inherits broker.roster)
    broker.roster.devices _ (.refl _) fun left h device _ =>
      (inherits_teardown left device .stop).trans h

/-- A report counts for the session that it is about, if this goes on, and for no other. -/
theorem mem_report {broker : Broker} {device : Device} {id : Nat} {session : Session}
    {report : Report} (mem : session ∈ (broker.report device id report).1.roster.sessions) :
    (session ∈ broker.roster.sessions ∧ broker.roster.current? device id ≠ some session) ∨
      ∃ before, broker.roster.current? device id = some before ∧
        (broker.report device id report).2 = true ∧ session.id = id ∧ session.device = device ∧
        session.counts = (before.bytesRead + report.count,
          before.frames + report.frame?.toList.length) := by
  cases current : broker.roster.current? device id with
  | none =>
    rw [report_of_stale current] at mem
    exact .inl ⟨mem, by simp⟩
  | some before =>
    have there : before.device = device :=
      (Roster.mem_of_get? (Roster.get?_of_current? current)).2
    have number := (Roster.current?_eq_some.mp current).2
    have spared (here : session ∈ broker.roster.sessions) (apart : session.device ≠ device) :
        session ∈ broker.roster.sessions ∧ some before ≠ some session := by
      refine ⟨here, fun same => apart ?_⟩
      rw [← Option.some.inj same, there]
    have removed (roster : Roster) (mem : session ∈ (roster.remove device).sessions) :
        session ∈ roster.sessions ∧ session.device ≠ device := by
      simpa [Roster.remove] using mem
    cases report with
    | bytes count =>
      simp only [Broker.report, recordBytes, current] at mem ⊢
      rcases Roster.mem_put mem with rfl | ⟨here, apart⟩
      · exact .inr ⟨before, rfl, trivial, number, there, rfl⟩
      · exact .inl (spared here (there ▸ apart))
    | frame image =>
      simp only [Broker.report, deliverFrame, current] at mem ⊢
      split at mem
      · rw [roster_teardown] at mem
        obtain ⟨mem, apart⟩ := removed _ mem
        rcases Roster.mem_put mem with rfl | ⟨here, _⟩
        · exact absurd there apart
        · exact .inl (spared here apart)
      · next busy =>
        rw [if_neg busy]
        rcases Roster.mem_put mem with rfl | ⟨here, apart⟩
        · exact .inr ⟨before, rfl, rfl, number, there, rfl⟩
        · exact .inl (spared here (there ▸ apart))
    | exit exit =>
      simp only [Broker.report, decoderExited, current, roster_teardown] at mem
      obtain ⟨here, apart⟩ := removed _ mem
      exact .inl (spared here apart)

end Broker

end CameraRelay
