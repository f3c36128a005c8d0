import CameraRelay.Proofs.Broker.Balance
import CameraRelay.Proofs.Broker.Changes
import Mathlib.Data.List.Nodup

/-!
# Rosters over changes

Every change of a roster keeps it in shape: one session for each device, no number twice, nobody
without a subscriber. Numbers go up only, so one that is free again is never given to another
session. A client comes to watch a device only where a change may attach it.
-/

namespace CameraRelay

open Relation (ReflTransGen)

namespace Roster

def ids (roster : Roster) : List Nat := roster.sessions.map (·.id)

structure Shaped (roster : Roster) : Prop where
  devices : roster.devices.Nodup
  ids : roster.ids.Nodup
  numbered : ∀ session ∈ roster.sessions, 1 ≤ session.id ∧ session.id ≤ roster.created
  watched : ∀ session ∈ roster.sessions, session.subscribers ≠ []

variable {roster next : Roster} {may : SubscriberId → Device → Prop} {device : Device}
  {session : Session}

theorem shaped_new : ({} : Roster).Shaped where
  devices := .nil
  ids := .nil
  numbered := by simp
  watched := by simp

theorem get?_of_mem (distinct : roster.devices.Nodup) (mem : session ∈ roster.sessions) :
    roster.get? session.device = some session := by
  have present : (roster.get? session.device).isSome = true :=
    (roster.contains_iff session.device).mpr (List.mem_map_of_mem mem)
  obtain ⟨other, found⟩ := Option.isSome_iff_exists.mp present
  obtain ⟨mem', same⟩ := mem_of_get? found
  rw [found, List.inj_on_of_nodup_map distinct mem' mem same]

theorem Shaped.get?_eq_some (shaped : roster.Shaped) :
    roster.get? device = some session ↔ session ∈ roster.sessions ∧ session.device = device := by
  constructor
  · exact mem_of_get?
  · intro here
    obtain ⟨mem, rfl⟩ := here
    exact get?_of_mem shaped.devices mem

theorem mem_put {other : Session} (mem : other ∈ (roster.put session).sessions) :
    other = session ∨ (other ∈ roster.sessions ∧ other.device ≠ session.device) := by
  obtain ⟨before, here, rfl⟩ := List.mem_map.mp mem
  by_cases same : before.device = session.device
  · exact .inl (if_pos same)
  · rw [if_neg same]
    exact .inr ⟨here, same⟩

theorem Shaped.ids_put (shaped : roster.Shaped) {old : Session}
    (found : roster.get? session.device = some old) (same : session.id = old.id) :
    (roster.put session).ids = roster.ids := by
  obtain ⟨here, device⟩ := mem_of_get? found
  simp only [Roster.ids, put, List.map_map]
  refine List.map_congr_left fun other mem => ?_
  by_cases there : other.device = session.device
  · have only : other = old :=
      List.inj_on_of_nodup_map shaped.devices mem here (there.trans device.symm)
    simp [only, device, same]
  · simp [there]

theorem distinct_add (alone : roster.get? session.device = none)
    (distinct : roster.devices.Nodup) : (roster.add session).devices.Nodup := by
  have absent : session.device ∉ roster.devices := fun mem => by
    have present := (roster.contains_iff session.device).mpr mem
    rw [contains, alone] at present
    cases present
  have devices : (roster.add session).devices = roster.devices ++ [session.device] := by
    simp [Roster.add, Roster.devices]
  rw [devices]
  exact List.nodup_append_comm.mp (List.nodup_cons.mpr ⟨absent, distinct⟩)

theorem Change.shaped (h : Change may roster next) (shaped : roster.Shaped) : next.Shaped := by
  cases h with
  | put session found same watched =>
    obtain ⟨here, _⟩ := mem_of_get? found
    refine ⟨?_, ?_, fun other mem => ?_, fun other mem => ?_⟩
    · rw [devices_put]
      exact shaped.devices
    · rw [shaped.ids_put found same]
      exact shaped.ids
    · rcases mem_put mem with rfl | ⟨before, _⟩
      · rw [same]
        exact shaped.numbered _ here
      · exact shaped.numbered other before
    · rcases mem_put mem with rfl | ⟨before, _⟩
      · exact watched (shaped.watched _ here)
      · exact shaped.watched other before
  | remove device =>
    have fewer : (roster.remove device).sessions.Sublist roster.sessions := List.filter_sublist
    exact ⟨shaped.devices.sublist (fewer.map _), shaped.ids.sublist (fewer.map _),
      fun other mem => shaped.numbered other (fewer.subset mem),
      fun other mem => shaped.watched other (fewer.subset mem)⟩
  | add session alone number watched =>
    -- The newcomer's number is above all others.
    have fresh : session.id ∉ roster.ids := by
      intro mem
      obtain ⟨other, here, same⟩ := List.mem_map.mp mem
      have bound := (shaped.numbered other here).2
      omega
    refine ⟨distinct_add alone shaped.devices, ?_, fun other mem => ?_, fun other mem => ?_⟩
    · have ids : (roster.add session).ids = roster.ids ++ [session.id] := by
        simp [Roster.add, Roster.ids]
      rw [ids]
      exact List.nodup_append_comm.mp (List.nodup_cons.mpr ⟨fresh, shaped.ids⟩)
    · show 1 ≤ other.id ∧ other.id ≤ roster.created + 1
      rcases List.mem_append.mp mem with before | last
      · have bounds := shaped.numbered other before
        omega
      · rw [List.mem_singleton.mp last]
        omega
    · rcases List.mem_append.mp mem with before | last
      · exact shaped.watched other before
      · rw [List.mem_singleton.mp last]
        exact watched
  | spend =>
    exact ⟨shaped.devices, shaped.ids,
      fun other mem => (shaped.numbered other mem).imp_right Nat.le_succ_of_le, shaped.watched⟩

/-- Every session was there before under its number, for the same device, or has a later number. -/
structure Succeeds (later earlier : Roster) : Prop where
  created : earlier.created ≤ later.created
  sessions : ∀ session ∈ later.sessions, earlier.created < session.id ∨
    ∃ before ∈ earlier.sessions, before.id = session.id ∧ before.device = session.device

theorem Succeeds.refl (roster : Roster) : roster.Succeeds roster :=
  ⟨Nat.le_refl _, fun session mem => .inr ⟨session, mem, rfl, rfl⟩⟩

theorem Succeeds.trans {first second third : Roster} (h : third.Succeeds second)
    (h' : second.Succeeds first) : third.Succeeds first where
  created := Nat.le_trans h'.created h.created
  sessions := by
    intro session mem
    rcases h.sessions session mem with latest | ⟨before, mem', id, device⟩
    · exact .inl (Nat.lt_of_le_of_lt h'.created latest)
    · rw [← id, ← device]
      exact h'.sessions before mem'

theorem Change.succeeds (h : Change may roster next) : next.Succeeds roster := by
  cases h with
  | put session found same =>
    obtain ⟨here, device⟩ := mem_of_get? found
    refine ⟨Nat.le_refl _, fun other mem => .inr ?_⟩
    rcases mem_put mem with rfl | ⟨before, _⟩
    · exact ⟨_, here, same.symm, device⟩
    · exact ⟨other, before, rfl, rfl⟩
  | remove device =>
    exact ⟨Nat.le_refl _, fun other mem => .inr ⟨other, (List.mem_filter.mp mem).1, rfl, rfl⟩⟩
  | add session alone number =>
    refine ⟨Nat.le_succ _, fun other mem => ?_⟩
    rcases List.mem_append.mp mem with before | last
    · exact .inr ⟨other, before, rfl, rfl⟩
    · rw [List.mem_singleton.mp last, number]
      exact .inl (Nat.lt_succ_self _)
  | spend => exact ⟨Nat.le_succ _, fun other mem => .inr ⟨other, mem, rfl, rfl⟩⟩

theorem shaped_of_changes (h : ReflTransGen (Change may) roster next) (shaped : roster.Shaped) :
    next.Shaped := by
  induction h with
  | refl => exact shaped
  | tail _ change ih => exact change.shaped ih

theorem succeeds_of_changes (h : ReflTransGen (Change may) roster next) :
    next.Succeeds roster := by
  induction h with
  | refl => exact .refl _
  | tail _ change ih => exact change.succeeds.trans ih

/-- A client watches a device's session with a number. -/
def Watched (roster : Roster) (id : Nat) (device : Device) (client : SubscriberId) : Prop :=
  ∃ session ∈ roster.sessions, session.id = id ∧ session.device = device ∧
    session.hasSubscriber client = true

theorem mem_devicesOf {client : SubscriberId} :
    device ∈ roster.devicesOf client ↔ ∃ id, roster.Watched id device client := by
  simp [devicesOf, Watched, and_left_comm, and_comm]

theorem Change.watched (h : Change may roster next) {id : Nat} {client : SubscriberId}
    (watched : next.Watched id device client) :
    roster.Watched id device client ∨ may client device := by
  obtain ⟨session, here, rfl, rfl, watches⟩ := watched
  cases h with
  | put other found same watched attached =>
    rcases mem_put here with rfl | ⟨before, _⟩
    · obtain ⟨old, there⟩ := mem_of_get? found
      exact (attached client watches).imp_left fun before => ⟨_, old, same.symm, there, before⟩
    · exact .inl ⟨session, before, rfl, rfl, watches⟩
  | remove device => exact .inl ⟨session, (List.mem_filter.mp here).1, rfl, rfl, watches⟩
  | add other alone same watched attached =>
    rcases List.mem_append.mp here with before | last
    · exact .inl ⟨session, before, rfl, rfl, watches⟩
    · obtain rfl := List.mem_singleton.mp last
      exact .inr (attached client watches)
  | spend => exact .inl ⟨session, here, rfl, rfl, watches⟩

theorem watched_of_changes (h : ReflTransGen (Change may) roster next) {id : Nat}
    {client : SubscriberId} (watched : next.Watched id device client) :
    roster.Watched id device client ∨ may client device := by
  induction h with
  | refl => exact .inl watched
  | tail _ change ih => exact (change.watched watched).elim ih .inr

theorem devicesOf_of_changes {client : SubscriberId}
    (h : ReflTransGen (Change may) roster next) (mem : device ∈ next.devicesOf client) :
    device ∈ roster.devicesOf client ∨ may client device := by
  obtain ⟨id, watched⟩ := mem_devicesOf.mp mem
  exact (watched_of_changes h watched).imp_left fun before => mem_devicesOf.mpr ⟨id, before⟩

theorem Succeeds.never_reused (h : next.Succeeds roster) {id : Nat} (used : id ≤ roster.created)
    (free : id ∉ roster.ids) : id ∉ next.ids := by
  intro mem
  obtain ⟨session, here, rfl⟩ := List.mem_map.mp mem
  rcases h.sessions session here with latest | ⟨before, there, same, _⟩
  · exact absurd used (Nat.not_le_of_lt latest)
  · exact free (List.mem_map.mpr ⟨before, there, same⟩)

end Roster

end CameraRelay
