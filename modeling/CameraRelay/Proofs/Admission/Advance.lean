import CameraRelay.Proofs.Admission.Slots
import Mathlib.Data.List.Nodup

/-!
# How far the line advances

Slots that are given back one after the other go to those who still wait, in the order of their
arrival, and stay free when nobody waits any more. So what they come to depends on how many they
are, and not on whose they were: a requester that is cancelled hands on as many as it had grants.
-/

namespace CameraRelay

/-- The grant that an entry of the line comes to. -/
def Entry.grant (entry : Entry) : TicketId × SubscriberId := (entry.ticket, entry.requester)

namespace Admission

/-- Those in line who still wait, in the order of their arrival. -/
def awaiting (admission : Admission) : List Entry := admission.queue.filter admission.isAwaited

/-- Some slots were given back, and as many of those who still waited as `count` says, or all of
them, were granted a slot in the order of their arrival. -/
structure Advances (before after : Admission) (freed count : Nat) : Prop where
  awaiting : after.awaiting = before.awaiting.drop count
  granted : after.granted = before.granted ++ (before.awaiting.take count).map Entry.grant
  active : after.active + freed = before.active + (before.awaiting.take count).length
  queue : after.queue.Sublist before.queue
  frame : Frame before after

namespace Advances

variable {first second third : Admission} {freed count freed' count' : Nat}

theorem refl (admission : Admission) : Advances admission admission 0 0 where
  awaiting := rfl
  granted := by simp
  active := rfl
  queue := .refl _
  frame := ⟨rfl, rfl, rfl⟩

theorem trans (h : Advances first second freed count)
    (h' : Advances second third freed' count') :
    Advances first third (freed + freed') (count + count') where
  awaiting := by rw [h'.awaiting, h.awaiting, List.drop_drop]
  granted := by
    rw [h'.granted, h.granted, h.awaiting, List.append_assoc, ← List.map_append, ← List.take_add]
  active := by
    have now := h.active
    have later := h'.active
    rw [h.awaiting] at later
    rw [List.take_add, List.length_append]
    omega
  queue := h'.queue.trans h.queue
  frame := h.frame.trans h'.frame

/-- More than all who wait are all who wait. -/
theorem min_iff : Advances first second freed (min count first.awaiting.length) ↔
    Advances first second freed count := by
  have served : first.awaiting.take (min count first.awaiting.length) = first.awaiting.take count :=
    List.take_eq_take_min.symm
  have left : first.awaiting.drop (min count first.awaiting.length) = first.awaiting.drop count := by
    rcases Nat.le_total count first.awaiting.length with enough | few
    · rw [Nat.min_eq_left enough]
    · rw [Nat.min_eq_right few, List.drop_length, List.drop_eq_nil_of_le few]
  constructor
  · intro h
    exact ⟨left ▸ h.awaiting, served ▸ h.granted, served ▸ h.active, h.queue, h.frame⟩
  · intro h
    refine ⟨left ▸ h.awaiting, ?_, ?_, h.queue, h.frame⟩
    · rw [served, h.granted]
    · rw [served, h.active]

end Advances

/-! ### Giving slots back -/

theorem advances_grant {admission : Admission} {entry : Entry} {rest : List Entry}
    (queue : admission.queue = entry :: rest) (held : admission.isAwaited entry = true) :
    Advances admission { admission.grant entry with queue := rest } 0 1 := by
  have waits : admission.awaiting = entry :: rest.filter admission.isAwaited := by
    rw [awaiting, queue, List.filter_cons_of_pos held]
  rw [grant_of_awaited held]
  refine ⟨?_, ?_, ?_, ?_, ⟨rfl, rfl, rfl⟩⟩
  · rw [waits]
    rfl
  · rw [waits]
    rfl
  · rw [waits]
    rfl
  · rw [queue]
    exact List.sublist_cons_self ..

theorem advances_pass {admission : Admission} {entry : Entry} {rest : List Entry}
    (queue : admission.queue = entry :: rest) (unheld : admission.isAwaited entry = false) :
    Advances admission { admission with queue := rest } 0 0 := by
  have waits : admission.awaiting = rest.filter admission.isAwaited := by
    rw [awaiting, queue, List.filter_cons_of_neg (by simp [unheld])]
  refine ⟨waits.symm, by simp, rfl, ?_, ⟨rfl, rfl, rfl⟩⟩
  rw [queue]
  exact List.sublist_cons_self ..

theorem advances_grantAlong (admission : Admission) :
    ∃ count ≤ admission.awaiting.length,
      Advances admission (admission.grantAlong admission.queue).1 0 count := by
  refine along_line
    (P := fun _ a => ∃ count ≤ admission.awaiting.length, Advances admission a 0 count)
    [] admission ?_ ?_ admission.queue ⟨0, Nat.zero_le _, .refl _⟩
  · intro _ a entry rest queue _ held holds
    obtain ⟨count, enough, advances⟩ := holds
    refine ⟨count + 1, ?_, advances.trans (advances_grant queue held)⟩
    -- Somebody is left to be granted a slot.
    have some : a.awaiting ≠ [] :=
      List.ne_nil_of_mem (List.mem_filter.mpr ⟨by rw [queue]; exact List.mem_cons_self .., held⟩)
    rw [advances.awaiting] at some
    have left := List.length_pos_iff.mpr some
    rw [List.length_drop] at left
    omega
  · intro _ a entry rest queue _ unheld holds
    obtain ⟨count, enough, advances⟩ := holds
    exact ⟨count, enough, advances.trans (advances_pass queue unheld)⟩

/-- A slot that is given back goes to the first who still waits. -/
theorem advances_release {admission : Admission} (packed : admission.Packed)
    (held : 0 < admission.active) : Advances admission admission.release.1 1 1 := by
  have back : Advances admission admission.handBack 1 0 := by
    refine ⟨rfl, by simp [handBack], ?_, .refl _, ⟨rfl, rfl, rfl⟩⟩
    show admission.active - 1 + 1 = admission.active + 0
    omega
  obtain ⟨count, enough, along⟩ := admission.handBack.advances_grantAlong
  have both : Advances admission admission.release.1 1 (0 + count) := back.trans along
  rw [Nat.zero_add] at both
  have reached : count = min 1 admission.awaiting.length := by
    have bound := packed.release.active_le
    have active := both.active
    have enough' : count ≤ admission.awaiting.length := enough
    rw [List.length_take, Nat.min_eq_left enough'] at active
    rw [both.frame.capacity] at bound
    rcases Nat.eq_zero_or_pos admission.awaiting.length with nobody | somebody
    · omega
    · -- All slots were taken while somebody waits, so one is granted and no more.
      have waits : admission.queue ≠ [] := by
        obtain ⟨entry, mem⟩ := List.exists_mem_of_length_pos somebody
        exact List.ne_nil_of_mem (List.mem_filter.mp mem).1
      have full := packed.full waits
      rcases admission.handBack.grantAlong_stops admission.queue with empty | stopped
      · have rest : admission.release.1.awaiting = [] := by
          show admission.release.1.queue.filter _ = []
          rw [show admission.release.1.queue = [] from empty, List.filter_nil]
        have left := congrArg List.length (both.awaiting.symm.trans rest)
        rw [List.length_drop, List.length_nil] at left
        omega
      · have stopped' : ¬ admission.release.1.active < admission.release.1.capacity := stopped
        rw [both.frame.capacity] at stopped'
        omega
  exact Advances.min_iff.mp (reached ▸ both)

/-! ### Revoking grants -/

/-- Grants that were made before are not those that the line comes to. -/
theorem Advances.withhold {before after : Admission} {freed count : Nat}
    (h : Advances before after freed count) {tickets : List TicketId}
    (apart : ∀ t ∈ tickets, t ∉ before.line) :
    Advances { before with granted := before.granted.filter fun g => g.1 ∉ tickets }
      { after with granted := after.granted.filter fun g => g.1 ∉ tickets } freed count := by
  refine ⟨h.awaiting, ?_, h.active, h.queue,
    ⟨h.frame.capacity, h.frame.issued, h.frame.waiters⟩⟩
  have kept : ((before.awaiting.take count).map Entry.grant).filter (fun g => g.1 ∉ tickets) =
      (before.awaiting.take count).map Entry.grant := by
    refine List.filter_eq_self.mpr fun g mem => ?_
    obtain ⟨entry, served, rfl⟩ := List.mem_map.mp mem
    have waits : entry.ticket ∈ before.line :=
      List.mem_map_of_mem (List.mem_filter.mp (List.mem_of_mem_take served)).1
    exact decide_eq_true fun mem => apart _ mem waits
  show after.granted.filter _ = before.granted.filter _ ++ _
  rw [h.granted, List.filter_append, kept]
  rfl

/-- Grants are revoked one after the other, and each time the line advances by one. Whose grants
they are, and their order, is of no account. -/
theorem advances_revokeAll {admission : Admission} (packed : admission.Packed)
    (tickets : List TicketId) (apart : ∀ t ∈ tickets, t ∉ admission.line)
    (held : tickets.length ≤ admission.active) :
    Advances { admission with granted := admission.granted.filter fun g => g.1 ∉ tickets }
      (admission.revokeAll tickets) tickets.length tickets.length := by
  induction tickets generalizing admission with
  | nil =>
    have all : (admission.granted.filter fun g => g.1 ∉ ([] : List TicketId)) =
        admission.granted := List.filter_eq_self.mpr fun g _ => by simp
    rw [all]
    exact .refl admission
  | cons ticket rest ih =>
    rw [List.length_cons] at held
    have revoked : (admission.revoke ticket).Packed := ⟨packed.active_le, packed.full⟩
    have advances := advances_release revoked (Nat.lt_of_lt_of_le (Nat.succ_pos _) held)
    have line : ∀ t ∈ rest, t ∉ (admission.revoke ticket).line := fun t mem =>
      apart t (List.mem_cons_of_mem _ mem)
    have later := ih revoked.release
      (fun t mem waits => line t mem ((advances.queue.map _).subset waits))
      (by
        have kept := advances.active
        have active : (admission.revoke ticket).active = admission.active := rfl
        omega)
    have both := (advances.withhold line).trans later
    have start : (admission.revoke ticket).granted.filter (fun g => g.1 ∉ rest) =
        admission.granted.filter fun g => g.1 ∉ ticket :: rest := by
      show (admission.granted.filter _).filter _ = _
      rw [List.filter_filter]
      refine List.filter_congr fun g _ => ?_
      by_cases same : g.1 = ticket <;> simp [same]
    rw [start, Nat.add_comm 1] at both
    exact both

/-! ### A requester that goes -/

/-- The entries and the grants of a requester are out, and the slots of its grants are not given back
yet. -/
def vacate (admission : Admission) (requester : SubscriberId) : Admission :=
  { admission.withoutEntriesOf requester with
    granted := admission.granted.filter fun g => g.2 != requester }

theorem awaiting_vacate (admission : Admission) (requester : SubscriberId) :
    (admission.vacate requester).awaiting =
      admission.awaiting.filter fun e => e.requester != requester := by
  show (admission.queue.filter _).filter _ = (admission.queue.filter _).filter _
  rw [List.filter_filter, List.filter_filter]
  refine List.filter_congr fun entry _ => ?_
  exact Bool.and_comm ..

/-- Whose grants are out can be told by their tickets, as no ticket is granted twice. -/
theorem filter_grantsOf {admission : Admission} (once : (admission.granted.map (·.1)).Nodup)
    (requester : SubscriberId) :
    admission.granted.filter (fun g => g.1 ∉ admission.grantsOf requester) =
      admission.granted.filter fun g => g.2 != requester := by
  refine List.filter_congr fun grant mem => ?_
  have same : grant.1 ∈ admission.grantsOf requester ↔ grant.2 = requester := by
    constructor
    · intro own
      obtain ⟨other, mem', eq⟩ := List.mem_map.mp own
      obtain ⟨there, owner⟩ := List.mem_filter.mp mem'
      rw [← List.inj_on_of_nodup_map once there mem eq]
      simpa using owner
    · intro own
      exact List.mem_map_of_mem (List.mem_filter.mpr ⟨mem, by simpa using own⟩)
  by_cases own : grant.2 = requester <;> simp [same, own]

/-- A requester that is cancelled hands on as many slots as it had grants. -/
theorem advances_cancelRequester {chronicle : Chronicle} {admission : Admission}
    (faithful : Faithful chronicle admission) (packed : admission.Packed)
    (held : admission.granted.length ≤ admission.active) (requester : SubscriberId) :
    Advances (admission.vacate requester) (admission.cancelRequester requester).1
      (admission.grantsOf requester).length (admission.grantsOf requester).length := by
  have withdrawn : (admission.withoutEntriesOf requester).Packed :=
    packed.shorten rfl rfl List.filter_sublist
  have apart : ∀ t ∈ admission.grantsOf requester,
      t ∉ (admission.withoutEntriesOf requester).line := by
    intro t own waits
    have granted : t ∈ admission.granted.map (·.1) := (List.filter_sublist.map _).subset own
    have before : t ∈ admission.line := (List.filter_sublist.map _).subset waits
    exact faithful.not_gone before (faithful.gone_of_granted granted)
  have few : (admission.grantsOf requester).length ≤ admission.active := by
    refine Nat.le_trans ?_ held
    rw [grantsOf, List.length_map]
    exact List.length_filter_le ..
  have revoked := advances_revokeAll withdrawn (admission.grantsOf requester) apart few
  have grants : (admission.withoutEntriesOf requester).granted = admission.granted := rfl
  rw [grants, filter_grantsOf faithful.nodup_granted] at revoked
  obtain ⟨count, eq⟩ := admission.cancelRequester_fst requester
  rw [eq]
  exact ⟨revoked.awaiting, revoked.granted, revoked.active, revoked.queue,
    ⟨revoked.frame.capacity, revoked.frame.issued, revoked.frame.waiters⟩⟩

theorem filter_handover {α : Type} (p : α → Bool) (line : List α) (first more : Nat) :
    let others := (line.drop first).filter p
    let again := more + ((line.take first).filter fun a => !p a).length
    (line.filter p).take (first + more) = (line.take first).filter p ++ others.take again ∧
      (line.filter p).drop (first + more) = others.drop again := by
  intro others again
  have split : line.filter p = (line.take first).filter p ++ others := by
    rw [← List.filter_append, List.take_append_drop]
  have parts := List.length_eq_length_filter_add (l := line.take first) p
  rw [List.length_take] at parts
  rcases Nat.le_total first line.length with enough | few
  · have count : first + more = ((line.take first).filter p).length + again := by omega
    rw [split, count, List.take_length_add_append, List.drop_length_add_append]
    exact ⟨rfl, rfl⟩
  · have none : others = [] := by
      rw [show others = (line.drop first).filter p from rfl, List.drop_eq_nil_of_le few,
        List.filter_nil]
    have all : ((line.take first).filter p).length ≤ first + more := by omega
    rw [split, none, List.append_nil, List.take_nil, List.drop_nil, List.append_nil]
    exact ⟨List.take_of_length_le all, List.drop_eq_nil_of_le all⟩

/-- Slots that the line was granted before a requester went, and some of them to that requester, and
the slots that it handed on then: together the line without that requester advanced by all of them,
and the grants in between left no trace. -/
theorem Advances.handover {first second third : Admission} {requester : SubscriberId} {freed : Nat}
    (h : Advances first second freed freed)
    (h' : Advances (second.vacate requester) third (second.grantsOf requester).length
      (second.grantsOf requester).length) :
    Advances (first.vacate requester) third (freed + (first.grantsOf requester).length)
      (freed + (first.grantsOf requester).length) := by
  have own : (second.grantsOf requester).length = (first.grantsOf requester).length +
      ((first.awaiting.take freed).filter fun e => !(e.requester != requester)).length := by
    simp only [grantsOf, h.granted, List.filter_append, List.map_append, List.length_append,
      List.length_map, List.filter_map, Function.comp_def, Entry.grant, bne, Bool.not_not]
  obtain ⟨served, left⟩ := filter_handover (fun e : Entry => e.requester != requester)
    first.awaiting freed (first.grantsOf requester).length
  rw [← own] at served left
  have waiting := second.awaiting_vacate requester
  rw [h.awaiting] at waiting
  have start := first.awaiting_vacate requester
  refine ⟨?_, ?_, ?_, ?_, ?_⟩
  · rw [h'.awaiting, waiting, start, left]
  · rw [h'.granted, waiting, start, served, List.map_append, ← List.append_assoc]
    congr 1
    show second.granted.filter _ = first.granted.filter _ ++ _
    rw [h.granted, List.filter_append, List.filter_map]
    rfl
  · have now := h.active
    have later := h'.active
    rw [waiting] at later
    have parts := List.length_eq_length_filter_add (l := first.awaiting.take freed)
      fun e => e.requester != requester
    rw [start, served, List.length_append]
    have same : (second.vacate requester).active = second.active := rfl
    have same' : (first.vacate requester).active = first.active := rfl
    omega
  · exact h'.queue.trans (h.queue.filter _)
  · have kept : Frame (first.vacate requester) (second.vacate requester) :=
      ⟨h.frame.capacity, h.frame.issued, h.frame.waiters⟩
    exact kept.trans h'.frame

end Admission

end CameraRelay
