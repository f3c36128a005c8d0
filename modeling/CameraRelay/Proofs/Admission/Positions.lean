import CameraRelay.Proofs.Admission.Arrival
import Mathlib.Data.List.Nodup
import Mathlib.Data.List.Perm.Subperm

/-!
# Places in line

The place of a ticket is told by those who stand before it, and these are the older tickets that did
not leave the line yet. As nobody comes back into the line, no place ever gets worse. A request that
is told to wait counts those before it whose waiters are still there. Main statement:
`places_honest`.
-/

namespace CameraRelay

namespace Admission

/-- The tickets that stand in line before a ticket. -/
def ahead (admission : Admission) (ticket : TicketId) : List TicketId :=
  admission.line.filter (· < ticket)

/-- The earlier tickets that have a place in line and are still held. -/
def contenders (admission : Admission) : List TicketId :=
  (List.range' 1 admission.issued).filter fun ticket =>
    (admission.position? ticket).isSome && admission.isHeld ticket

/-- Before a ticket in a sorted line stand the older ones. -/
theorem findIdx?_ticket {entries : List Entry} {ticket : TicketId}
    (sorted : (entries.map (·.ticket)).Pairwise (· < ·)) (waits : ticket ∈ entries.map (·.ticket)) :
    entries.findIdx? (fun e => e.ticket == ticket) =
      some ((entries.map (·.ticket)).filter (· < ticket)).length := by
  induction entries with
  | nil => cases waits
  | cons entry rest ih =>
    rw [List.map_cons, List.pairwise_cons] at sorted
    by_cases here : entry.ticket = ticket
    · have nobody : (rest.map (·.ticket)).filter (· < ticket) = [] :=
        List.filter_eq_nil_iff.mpr fun other behind => by
          simpa [here] using Nat.le_of_lt (sorted.1 other behind)
      simp [List.findIdx?_cons, here, nobody]
    · have behind := (List.mem_cons.mp waits).resolve_left fun same => here same.symm
      have older : entry.ticket < ticket := sorted.1 ticket behind
      simp [List.findIdx?_cons, here, older, ih sorted.2 behind]

theorem position?_eq_none {admission : Admission} {ticket : TicketId} :
    admission.position? ticket = none ↔ ticket ∉ admission.line := by
  simp [position?, line]

end Admission

namespace Faithful

open Admission (Operation)

variable {chronicle : Chronicle} {admission : Admission}

/-! ### The place of a ticket -/

theorem position?_eq_some (h : Faithful chronicle admission) {ticket : TicketId} {place : Nat} :
    admission.position? ticket = some place ↔
      ticket ∈ admission.line ∧ place = (admission.ahead ticket).length + 1 := by
  by_cases waits : ticket ∈ admission.line
  · have place : admission.position? ticket = some ((admission.ahead ticket).length + 1) := by
      rw [Admission.position?, Admission.findIdx?_ticket h.sorted waits]
      rfl
    rw [place]
    simp [waits, eq_comm]
  · simp [Admission.position?_eq_none.mpr waits, waits]

/-- Who stands before whom is told by the tickets. -/
theorem lt_iff_position?_lt (h : Faithful chronicle admission) {ticket other : TicketId}
    {place place' : Nat} (here : admission.position? ticket = some place)
    (there : admission.position? other = some place') : place < place' ↔ ticket < other := by
  obtain ⟨waits, rfl⟩ := h.position?_eq_some.mp here
  obtain ⟨waits', rfl⟩ := h.position?_eq_some.mp there
  have once : admission.line.Nodup := (List.nodup_append.mp h.nodup).2.1
  -- Of two tickets, the older one and all that stand before it stand before the younger one.
  have fewer {older younger : TicketId} (mem : older ∈ admission.line) (lt : older < younger) :
      (admission.ahead older).length < (admission.ahead younger).length := by
    have distinct : (older :: admission.ahead older).Nodup :=
      List.nodup_cons.mpr ⟨by simp [Admission.ahead], once.filter _⟩
    have within : older :: admission.ahead older ⊆ admission.ahead younger := by
      intro t mem'
      rcases List.mem_cons.mp mem' with rfl | before
      · exact List.mem_filter.mpr ⟨mem, decide_eq_true lt⟩
      · obtain ⟨there, smaller⟩ := List.mem_filter.mp before
        refine List.mem_filter.mpr ⟨there, decide_eq_true ?_⟩
        exact Nat.lt_trans (of_decide_eq_true smaller) lt
    exact (distinct.subperm within).length_le
  constructor
  · intro smaller
    refine Nat.lt_of_not_le fun le => ?_
    rcases Nat.lt_or_eq_of_le le with younger | rfl
    · have more := fewer waits' younger
      omega
    · exact Nat.lt_irrefl _ smaller
  · intro older
    have more := fewer waits older
    omega

/-! ### Over a history -/

/-- Nobody comes back into the line. -/
theorem mem_line_of_run (h : Faithful chronicle admission) {operations : List Operation}
    {ticket : TicketId} (issued : ticket ≤ admission.issued)
    (waits : ticket ∈ (admission.run operations).line) : ticket ∈ admission.line := by
  have after := h.run operations
  have positive := ((after.mem_iff ticket).mp (.inr waits)).1
  refine ((h.mem_iff ticket).mpr ⟨positive, issued⟩).resolve_left fun left => ?_
  refine after.not_gone waits ?_
  rw [Chronicle.gone_append]
  exact List.mem_append_left _ left

theorem issued_of_position? (h : Faithful chronicle admission) {ticket : TicketId} {place : Nat}
    (here : admission.position? ticket = some place) : ticket ≤ admission.issued :=
  ((h.mem_iff ticket).mp (.inr (h.position?_eq_some.mp here).1)).2

theorem position?_le_of_run (h : Faithful chronicle admission) {operations : List Operation}
    {ticket : TicketId} {place later : Nat} (here : admission.position? ticket = some place)
    (still : (admission.run operations).position? ticket = some later) : later ≤ place := by
  have issued := h.issued_of_position? here
  have after := h.run operations
  obtain ⟨_, rfl⟩ := h.position?_eq_some.mp here
  obtain ⟨_, rfl⟩ := after.position?_eq_some.mp still
  have once : ((admission.run operations).ahead ticket).Nodup :=
    (List.nodup_append.mp after.nodup).2.1.filter _
  have within : (admission.run operations).ahead ticket ⊆ admission.ahead ticket := by
    intro other before
    obtain ⟨waits, older⟩ := List.mem_filter.mp before
    have bound := Nat.le_trans (Nat.le_of_lt (of_decide_eq_true older)) issued
    exact List.mem_filter.mpr ⟨h.mem_line_of_run bound waits, older⟩
  exact Nat.succ_le_succ (once.subperm within).length_le

theorem position?_none_of_run (h : Faithful chronicle admission) {ticket : TicketId}
    (issued : ticket ≤ admission.issued) (left : admission.position? ticket = none)
    (operations : List Operation) : (admission.run operations).position? ticket = none := by
  rw [Admission.position?_eq_none] at left ⊢
  exact fun waits => left (h.mem_line_of_run issued waits)

/-! ### The answer to a request -/

/-- Those who are left in line once the entries that nobody waits for are cleared away. -/
theorem perm_contenders (h : Faithful chronicle admission) :
    admission.prune.line.Perm admission.contenders := by
  have once : admission.line.Nodup := (List.nodup_append.mp h.nodup).2.1
  have kept : admission.prune.line.Sublist admission.line := List.filter_sublist.map _
  have distinct : admission.contenders.Nodup := List.Nodup.filter _ List.nodup_range'
  refine (List.perm_ext_iff_of_nodup (once.sublist kept) distinct).mpr fun ticket => ?_
  have placed : (admission.position? ticket).isSome = true ↔ ticket ∈ admission.line := by
    rw [Option.isSome_iff_ne_none, Ne, Admission.position?_eq_none, not_not]
  have left : ticket ∈ admission.prune.line ↔
      ticket ∈ admission.line ∧ admission.isHeld ticket = true := by
    simp only [Admission.line, Admission.prune, List.mem_map, List.mem_filter,
      Admission.isAwaited, Admission.isHeld]
    constructor
    · rintro ⟨entry, ⟨mem, awaited⟩, rfl⟩
      exact ⟨⟨entry, mem, rfl⟩, awaited⟩
    · rintro ⟨⟨entry, mem, rfl⟩, awaited⟩
      exact ⟨entry, ⟨mem, awaited⟩, rfl⟩
  have issued (waits : ticket ∈ admission.line) : ticket ∈ List.range' 1 admission.issued := by
    rw [← h.tickets.mem_iff]
    exact List.mem_append_right _ waits
  rw [left, Admission.contenders, List.mem_filter, Bool.and_eq_true, placed]
  exact ⟨fun both => ⟨issued both.1, both⟩, fun both => both.2⟩

theorem length_enqueue (h : Faithful chronicle admission) (device : Device)
    (requester : SubscriberId) :
    (admission.prune.enqueue device requester).queue.length =
      1 + admission.contenders.length := by
  have left := h.perm_contenders.length_eq
  rw [Admission.line, List.length_map] at left
  rw [Admission.enqueue, List.length_append, List.length_singleton, left, Nat.add_comm]

theorem queued_iff (h : Faithful chronicle admission) (device : Device) (requester : SubscriberId)
    (sessionExists : Bool) (ticket : TicketId) (place : Nat) :
    (admission.request device requester sessionExists).2 = .queued ticket place ↔
      sessionExists = false ∧ admission.capacity ≤ admission.active ∧
        ticket = admission.issued + 1 ∧ place = 1 + admission.contenders.length := by
  by_cases joins : sessionExists = true
  · simp [Admission.request, joins]
  by_cases free : admission.active < admission.capacity
  · simp [Admission.request, joins, free, Nat.not_le_of_lt free]
  · have issued : (admission.prune.enqueue device requester).issued = admission.issued + 1 := rfl
    simp only [Admission.request, joins, free, if_false, h.length_enqueue, issued]
    simp [Nat.le_of_not_lt free, eq_comm]

/-- The place that a request is told is the place of its ticket. -/
theorem position?_of_queued (h : Faithful chronicle admission) {device : Device}
    {requester : SubscriberId} {sessionExists : Bool} {ticket : TicketId} {place : Nat}
    (queued : (admission.request device requester sessionExists).2 = .queued ticket place) :
    (admission.request device requester sessionExists).1.position? ticket = some place := by
  have after := h.request device requester sessionExists
  obtain ⟨rfl, full, rfl, rfl⟩ := (h.queued_iff ..).mp queued
  have asked : (admission.request device requester false).1 =
      admission.prune.enqueue device requester := by
    simp [Admission.request, Nat.not_lt_of_le full]
  rw [asked] at after ⊢
  have line : (admission.prune.enqueue device requester).line =
      admission.prune.line ++ [admission.issued + 1] := by
    simp [Admission.enqueue, Admission.line, Admission.prune]
  have older : admission.prune.line.filter (· < admission.issued + 1) = admission.prune.line := by
    refine List.filter_eq_self.mpr fun other mem => decide_eq_true ?_
    have kept : admission.prune.line.Sublist admission.line := List.filter_sublist.map _
    exact Nat.lt_succ_of_le ((h.mem_iff other).mp (.inr (kept.subset mem))).2
  refine after.position?_eq_some.mpr ⟨by simp [line], ?_⟩
  rw [Admission.ahead, line, List.filter_append, older]
  simp [h.perm_contenders.length_eq, Nat.add_comm]

end Faithful

namespace Admission

/-- After every history: a request is told to wait exactly if there is no session to join and all
slots are held, and then its place is 1 more than the number of earlier tickets that stand in line
and are still held; that place is the place of its ticket. A ticket that was issued has no place
exactly if it left the line. And over whatever happens later: the place of a ticket that is still in
line never gets worse, two of them stay in their order, and who left the line has no place again. -/
theorem places_honest (capacity : Nat) (operations : List Operation) :
    let admission := (new capacity).run operations
    let chronicle := (new capacity).chronicle operations
    (∀ device requester sessionExists ticket place,
      let answered := admission.request device requester sessionExists
      (answered.2 = .queued ticket place ↔
        sessionExists = false ∧ admission.active = admission.capacity ∧
          ticket = admission.issued + 1 ∧ place = 1 + admission.contenders.length) ∧
      (answered.2 = .queued ticket place → answered.1.position? ticket = some place)) ∧
    (∀ ticket, 1 ≤ ticket → ticket ≤ admission.issued →
      (admission.position? ticket = none ↔ ticket ∈ chronicle.gone)) ∧
    ∀ later : List Operation,
      let after := admission.run later
      (∀ ticket place place', admission.position? ticket = some place →
        after.position? ticket = some place' → place' ≤ place) ∧
      (∀ ticket other place next place' next', admission.position? ticket = some place →
        admission.position? other = some next → place < next →
        after.position? ticket = some place' → after.position? other = some next' →
        place' < next') ∧
      (∀ ticket ≤ admission.issued, admission.position? ticket = none →
        after.position? ticket = none) := by
  intro admission chronicle
  have faithful : Faithful chronicle admission := faithful_run capacity operations
  have packed : admission.Packed := packed_run capacity operations
  refine ⟨fun device requester sessionExists ticket place => ⟨?_, faithful.position?_of_queued⟩,
    fun ticket positive issued => ?_, fun later => ⟨?_, ?_, ?_⟩⟩
  · have full : admission.capacity ≤ admission.active ↔ admission.active = admission.capacity :=
      ⟨Nat.le_antisymm packed.active_le, fun same => Nat.le_of_eq same.symm⟩
    rw [← full]
    exact faithful.queued_iff device requester sessionExists ticket place
  · rw [position?_eq_none]
    constructor
    · exact ((faithful.mem_iff ticket).mpr ⟨positive, issued⟩).resolve_right
    · exact fun left waits => faithful.not_gone waits left
  · intro ticket place place' here still
    exact faithful.position?_le_of_run here still
  · intro ticket other place next place' next' here there before still still'
    have older := (faithful.lt_iff_position?_lt here there).mp before
    exact ((faithful.run later).lt_iff_position?_lt still still').mpr older
  · intro ticket issued left
    exact faithful.position?_none_of_run issued left later

/-- Those who let go of their tickets keep their places and do not count for who comes later. -/
example :
    let operations : List Operation := [.request ⟨"d1"⟩ 1 false, .request ⟨"d2"⟩ 2 false,
      .request ⟨"d3"⟩ 3 false, .abandon 1]
    let admission := (new 1).run operations
    admission.position? 2 = some 2 ∧
      (admission.request ⟨"d4"⟩ 4 false).2 = .queued 3 2 ∧
      (admission.request ⟨"d4"⟩ 4 false).1.position? 2 = some 1 := by
  decide

end Admission

end CameraRelay
