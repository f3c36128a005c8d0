import CameraRelay.Proofs.Admission.Slots

/-!
# The order of arrival

Slots are granted strictly in the order in which tickets were issued, and nobody overtakes a request
that waits: neither an older ticket behind a younger one, nor a newcomer past the line. That a
newcomer is answered by the count of slots alone is sound since a state of admission is `Packed`.
-/

namespace CameraRelay

namespace Chronicle

/-- If everybody before it left the line when a ticket was granted, and nobody leaves it twice, then
the tickets granted only grow. -/
theorem InOrder.pairwise_granted {left : List (TicketId × Fate)} (order : InOrder left)
    (once : (left.map (·.1)).Nodup) (positive : ∀ d ∈ left, 1 ≤ d.1) :
    left.Pairwise fun d later => d.2 = .granted → later.2 = .granted → d.1 < later.1 := by
  have along : ∀ rest earlier, left = earlier ++ rest →
      rest.Pairwise fun d later => d.2 = .granted → later.2 = .granted → d.1 < later.1 := by
    intro rest
    induction rest with
    | nil => exact fun _ _ => .nil
    | cons departure rest ih =>
      intro earlier split
      refine .cons ?_ (ih (earlier ++ [departure]) (by simpa using split))
      intro later mem granted _
      obtain ⟨ticket, fate⟩ := departure
      obtain rfl : fate = .granted := granted
      rw [split, List.map_append, List.nodup_append] at once
      have behind : later.1 ∈ rest.map (·.1) := List.mem_map_of_mem mem
      have differs : later.1 ≠ ticket := by
        intro same
        rw [same] at behind
        exact (List.nodup_cons.mp once.2.1).1 behind
      rcases Nat.lt_or_gt_of_ne differs with older | younger
      · -- An older ticket left before, so it does not leave again.
        have before := order earlier ticket rest split later.1
          (positive later (by simp [split, mem])) older
        exact absurd rfl (once.2.2 later.1 before later.1 (List.mem_cons_of_mem _ behind))
      · exact younger
  exact along left [] rfl

end Chronicle

namespace Faithful

variable {chronicle : Chronicle} {admission : Admission}

theorem nodup_gone (h : Faithful chronicle admission) : chronicle.gone.Nodup :=
  (List.nodup_append.mp h.nodup).1

theorem pairwise_granted (h : Faithful chronicle admission) :
    chronicle.granted.Pairwise (· < ·) := by
  have positive : ∀ d ∈ chronicle.left, 1 ≤ d.1 := fun d mem =>
    ((h.mem_iff d.1).mp (.inl (List.mem_map_of_mem mem))).1
  have pairs := h.inOrder.pairwise_granted h.nodup_gone positive
  rw [Chronicle.granted, List.pairwise_map, List.pairwise_filter]
  exact pairs.imp fun smaller d later => smaller (by simpa using d) (by simpa using later)

theorem lt_of_granted (h : Faithful chronicle admission) {ticket other : TicketId}
    (granted : ticket ∈ chronicle.granted) (waits : other ∈ admission.line) : ticket < other := by
  refine Nat.lt_of_not_le fun older => ?_
  rw [Chronicle.mem_granted] at granted
  obtain ⟨earlier, later, split⟩ := List.append_of_mem granted
  have unleft := h.not_gone waits
  have differs : other ≠ ticket := by
    intro same
    obtain rfl := same
    exact unleft (Chronicle.mem_gone.mpr ⟨_, granted⟩)
  have positive := ((h.mem_iff other).mp (.inr waits)).1
  have before := h.inOrder earlier ticket later split other positive
    (Nat.lt_of_le_of_ne older differs)
  refine unleft ?_
  rw [Chronicle.gone, split, List.map_append]
  exact List.mem_append_left _ before

end Faithful

namespace Admission

/-- Only who finds the line empty is told to create a session at once. -/
theorem Packed.queue_of_create {admission : Admission} (h : admission.Packed) {device : Device}
    {requester : SubscriberId} {sessionExists : Bool}
    (created : (admission.request device requester sessionExists).2 = .create) :
    admission.queue = [] := by
  by_cases joins : sessionExists = true
  · simp [request, joins] at created
  by_cases free : admission.active < admission.capacity
  · by_cases empty : admission.queue = []
    · exact empty
    · exact absurd (h.full empty) (Nat.ne_of_lt free)
  · simp [request, joins, free] at created

/-- After every history: no more slots are held than there are, and none is free while somebody
waits, so no newcomer passes the line. Over the whole history the tickets granted grow strictly, and
when a ticket was granted every one issued before it had left the line. What the chronicle tells of
is what happened: every ticket issued left the line once or still stands in it, and the grants that
were neither claimed nor revoked are those that admission keeps, in the same order. -/
theorem arrival_order (capacity : Nat) (operations : List Operation) :
    let admission := (new capacity).run operations
    let chronicle := (new capacity).chronicle operations
    admission.active ≤ admission.capacity ∧
    admission.capacity = max capacity 1 ∧
    (admission.queue ≠ [] → admission.active = admission.capacity) ∧
    (∀ device requester sessionExists,
      (admission.request device requester sessionExists).2 = .create → admission.queue = []) ∧
    chronicle.granted.Pairwise (· < ·) ∧
    (∀ earlier ticket later, chronicle.left = earlier ++ (ticket, .granted) :: later →
      ∀ other, 1 ≤ other → other < ticket → other ∈ earlier.map (·.1)) ∧
    (∀ ticket ∈ chronicle.granted, ∀ other ∈ admission.line, ticket < other) ∧
    (chronicle.gone ++ admission.line).Perm (List.range' 1 admission.issued) ∧
    admission.granted.map (·.1) =
      chronicle.granted.filter fun t => t ∉ chronicle.claimed ∧ t ∉ chronicle.revoked := by
  intro admission chronicle
  have packed : admission.Packed := packed_run capacity operations
  have faithful : Faithful chronicle admission := faithful_run capacity operations
  refine ⟨packed.active_le, ?_, packed.full, ?_, faithful.pairwise_granted, faithful.inOrder, ?_,
    faithful.tickets, faithful.grants⟩
  · exact capacity_run (new capacity) operations
  · intro device requester sessionExists created
    exact packed.queue_of_create created
  · intro ticket granted other waits
    exact faithful.lt_of_granted granted waits

end Admission

end CameraRelay
