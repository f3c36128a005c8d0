import CameraRelay.Proofs.Admission.Faithful

/-!
# Slots

Two accounts of the slots that admission holds. A packed state holds no more slots than there are,
and all of them while somebody waits; every history keeps it. A state that holds for a number of
sessions has one slot for each of them and one for each unclaimed grant, and never gave back what
was not held; what each operation does to that number is stated operation by operation.
-/

namespace CameraRelay

namespace Admission

/-- No more slots are held than there are, and none is free while somebody waits. -/
structure Packed (admission : Admission) : Prop where
  active_le : admission.active ≤ admission.capacity
  full : admission.queue ≠ [] → admission.active = admission.capacity

/-- One slot is held for each session and one for each unclaimed grant. -/
structure HoldsFor (admission : Admission) (sessions : Nat) : Prop where
  active_eq : admission.active = sessions + admission.granted.length
  held : admission.counters.unheldReleases = 0

/-- Everything that does not change while slots are given back and granted. -/
structure Frame (before after : Admission) : Prop where
  capacity : after.capacity = before.capacity
  issued : after.issued = before.issued
  waiters : after.waiters = before.waiters

theorem Frame.trans {first second third : Admission} (h : Frame first second)
    (h' : Frame second third) : Frame first third :=
  ⟨h'.capacity.trans h.capacity, h'.issued.trans h.issued, h'.waiters.trans h.waiters⟩

/-! ### Granting along the line -/

theorem frame_grantAlong (admission : Admission) (line : List Entry) :
    Frame admission (admission.grantAlong line).1 := by
  refine along_line (P := fun _ a => Frame admission a) [] admission ?_ ?_ line ⟨rfl, rfl, rfl⟩
  · intro _ a entry rest _ _ held same
    rw [grant_of_awaited held]
    exact ⟨same.capacity, same.issued, same.waiters⟩
  · intro _ a entry rest _ _ _ same
    exact ⟨same.capacity, same.issued, same.waiters⟩

theorem active_grantAlong_le {admission : Admission} (line : List Entry)
    (bound : admission.active ≤ admission.capacity) :
    (admission.grantAlong line).1.active ≤ (admission.grantAlong line).1.capacity := by
  refine along_line (P := fun _ a => a.active ≤ a.capacity) [] admission ?_ ?_ line bound
  · intro _ a entry rest _ free held _
    rw [grant_of_awaited held]
    exact free
  · intro _ a entry rest _ _ _ bound
    exact bound

theorem grantAlong_stops (admission : Admission) (line : List Entry) :
    (admission.grantAlong line).1.queue = [] ∨
      ¬ (admission.grantAlong line).1.active < (admission.grantAlong line).1.capacity := by
  induction line generalizing admission with
  | nil => exact .inl rfl
  | cons entry rest ih =>
    by_cases free : admission.active < admission.capacity
    · by_cases held : admission.isAwaited entry = true
      · simp only [grantAlong, free, held, if_true]
        exact ih _
      · simp only [grantAlong, free, held, if_true]
        exact ih _
    · right
      simp [grantAlong, free]

theorem packed_grantAlong {admission : Admission} (line : List Entry)
    (bound : admission.active ≤ admission.capacity) : (admission.grantAlong line).1.Packed where
  active_le := active_grantAlong_le line bound
  full := by
    intro waits
    rcases admission.grantAlong_stops line with empty | stopped
    · exact absurd empty waits
    · exact Nat.le_antisymm (active_grantAlong_le line bound) (Nat.not_lt.mp stopped)

theorem holdsFor_grantAlong {admission : Admission} {sessions : Nat} (line : List Entry)
    (h : admission.HoldsFor sessions) : (admission.grantAlong line).1.HoldsFor sessions := by
  refine along_line (P := fun _ a => a.HoldsFor sessions) [] admission ?_ ?_ line
    ⟨h.active_eq, h.held⟩
  · intro _ a entry rest _ _ held h
    rw [grant_of_awaited held]
    refine ⟨?_, h.held⟩
    simp [h.active_eq, Nat.add_assoc]
  · intro _ a entry rest _ _ _ h
    exact ⟨h.active_eq, h.held⟩

theorem mem_granted_grantAlong {admission : Admission} {grant : TicketId × SubscriberId}
    (line : List Entry) (mem : grant ∈ admission.granted) :
    grant ∈ (admission.grantAlong line).1.granted := by
  refine along_line (P := fun _ a => grant ∈ a.granted) [] admission ?_ ?_ line mem
  · intro _ a entry rest _ _ held mem
    rw [grant_of_awaited held]
    exact List.mem_append_left _ mem
  · intro _ a entry rest _ _ _ mem
    exact mem

/-! ### Giving slots back -/

theorem frame_release (admission : Admission) : Frame admission admission.release.1 := by
  have along := frame_grantAlong admission.handBack admission.queue
  exact ⟨along.capacity, along.issued, along.waiters⟩

theorem Packed.release {admission : Admission} (h : admission.Packed) :
    admission.release.1.Packed :=
  packed_grantAlong admission.queue (Nat.le_trans (Nat.sub_le ..) h.active_le)

theorem HoldsFor.release {admission : Admission} {sessions : Nat}
    (h : admission.HoldsFor (sessions + 1)) : admission.release.1.HoldsFor sessions := by
  have active := h.active_eq
  refine holdsFor_grantAlong admission.queue ⟨?_, ?_⟩
  · show admission.active - 1 = sessions + admission.granted.length
    omega
  · show admission.counters.unheldReleases + (if admission.active = 0 then 1 else 0) = 0
    rw [if_neg (by omega), h.held]

theorem mem_granted_release {admission : Admission} {grant : TicketId × SubscriberId}
    (mem : grant ∈ admission.granted) : grant ∈ admission.release.1.granted :=
  mem_granted_grantAlong admission.queue mem

/-! ### Revoking grants -/

theorem frame_revokeAll (admission : Admission) (tickets : List TicketId) :
    Frame admission (admission.revokeAll tickets) := by
  induction tickets generalizing admission with
  | nil => exact ⟨rfl, rfl, rfl⟩
  | cons ticket rest ih =>
    rw [revokeAll_cons]
    have release := frame_release (admission.revoke ticket)
    have revoke : Frame admission (admission.revoke ticket) := ⟨rfl, rfl, rfl⟩
    exact (revoke.trans release).trans (ih _)

theorem frame_cancelRequester (admission : Admission) (requester : SubscriberId) :
    Frame admission (admission.cancelRequester requester).1 := by
  obtain ⟨count, eq⟩ := admission.cancelRequester_fst requester
  have withdraw : Frame admission (admission.withoutEntriesOf requester) := ⟨rfl, rfl, rfl⟩
  have revoked := withdraw.trans (frame_revokeAll _ (admission.grantsOf requester))
  rw [eq]
  exact ⟨revoked.capacity, revoked.issued, revoked.waiters⟩

theorem frame_cancelAll (admission : Admission) : Frame admission admission.cancelAll.1 := by
  obtain ⟨count, eq⟩ := admission.cancelAll_fst
  rw [eq]
  exact ⟨rfl, rfl, rfl⟩

theorem frame_expire (admission : Admission) (ticket : TicketId) :
    Frame admission (admission.expire ticket).1 := by
  simp only [expire]
  split <;> exact ⟨rfl, rfl, rfl⟩

theorem Packed.revokeAll {admission : Admission} (h : admission.Packed)
    (tickets : List TicketId) : (admission.revokeAll tickets).Packed := by
  induction tickets generalizing admission with
  | nil => exact h
  | cons ticket rest ih =>
    have revoked : (admission.revoke ticket).Packed := ⟨h.active_le, h.full⟩
    exact ih revoked.release

end Admission

/-- No ticket is granted twice. -/
theorem Faithful.nodup_granted {chronicle : Chronicle} {admission : Admission}
    (h : Faithful chronicle admission) : (admission.granted.map (·.1)).Nodup := by
  have once : chronicle.granted.Nodup :=
    (List.nodup_append.mp h.nodup).1.sublist (List.filter_sublist.map _)
  rw [h.grants]
  exact once.sublist List.filter_sublist

namespace Admission

theorem length_revoke {admission : Admission} {ticket : TicketId}
    (once : (admission.granted.map (·.1)).Nodup) (mem : ticket ∈ admission.granted.map (·.1)) :
    (admission.revoke ticket).granted.length + 1 = admission.granted.length := by
  have lengths : ∀ grants : List (TicketId × SubscriberId), (grants.map (·.1)).Nodup →
      ticket ∈ grants.map (·.1) →
      (grants.filter fun g => g.1 != ticket).length + 1 = grants.length := by
    intro grants
    induction grants with
    | nil =>
      intro _ mem
      simp at mem
    | cons grant rest ih =>
      intro once mem
      rw [List.map_cons, List.nodup_cons] at once
      by_cases same : grant.1 = ticket
      · have others : rest.filter (fun g => g.1 != ticket) = rest := by
          refine List.filter_eq_self.mpr fun g mem => ?_
          have differs : g.1 ≠ ticket := fun eq =>
            once.1 (by rw [same, ← eq]; exact List.mem_map_of_mem mem)
          simpa using differs
        simp [same, others]
      · have behind : ticket ∈ rest.map (·.1) := by
          rw [List.map_cons, List.mem_cons] at mem
          exact mem.resolve_left fun eq => same eq.symm
        simp [same, ih once.2 behind]
  exact lengths admission.granted once mem

theorem HoldsFor.revoke {admission : Admission} {sessions : Nat} {ticket : TicketId}
    (h : admission.HoldsFor sessions) (once : (admission.granted.map (·.1)).Nodup)
    (mem : ticket ∈ admission.granted.map (·.1)) :
    (admission.revoke ticket).HoldsFor (sessions + 1) := by
  have active := h.active_eq
  have length := length_revoke once mem
  refine ⟨?_, h.held⟩
  show admission.active = _
  omega

theorem HoldsFor.revokeAll {chronicle : Chronicle} {admission : Admission} {sessions : Nat}
    (faithful : Faithful chronicle admission) (h : admission.HoldsFor sessions)
    {tickets : List TicketId} (distinct : tickets.Nodup)
    (mem : ∀ t ∈ tickets, t ∈ admission.granted.map (·.1)) :
    (admission.revokeAll tickets).HoldsFor sessions := by
  induction tickets generalizing chronicle admission with
  | nil => exact h
  | cons ticket rest ih =>
    have here : ticket ∈ admission.granted.map (·.1) := mem ticket (by simp)
    rw [List.nodup_cons] at distinct
    rw [revokeAll_cons]
    have revoked := faithful.revoke (faithful.gone_of_granted here)
    refine ih revoked.release (h.revoke faithful.nodup_granted here).release distinct.2 ?_
    intro t behind
    obtain ⟨grant, granted, rfl⟩ := List.mem_map.mp (mem t (List.mem_cons_of_mem _ behind))
    have differs : grant.1 ≠ ticket := fun eq => distinct.1 (eq ▸ behind)
    have kept : grant ∈ (admission.revoke ticket).granted :=
      List.mem_filter.mpr ⟨granted, by simpa using differs⟩
    exact List.mem_map_of_mem (mem_granted_release kept)

/-! ### Operations -/

theorem capacity_act (admission : Admission) (operation : Operation) :
    (admission.act operation).1.capacity = admission.capacity := by
  cases operation with
  | request device requester sessionExists =>
    simp only [act, request]
    split
    · rfl
    · split <;> rfl
  | release => exact (frame_release admission).capacity
  | claim ticket => rfl
  | expire ticket => exact (frame_expire admission ticket).capacity
  | cancelRequester requester => exact (frame_cancelRequester admission requester).capacity
  | cancelAll => exact (frame_cancelAll admission).capacity
  | position ticket => rfl
  | poll ticket => rfl
  | abandon ticket => rfl

theorem issued_act (admission : Admission) (operation : Operation) :
    admission.issued ≤ (admission.act operation).1.issued := by
  cases operation with
  | request device requester sessionExists =>
    simp only [act, request]
    split
    · exact Nat.le_refl _
    · split
      · exact Nat.le_refl _
      · exact Nat.le_succ _
  | release => exact Nat.le_of_eq (frame_release admission).issued.symm
  | claim ticket => exact Nat.le_refl _
  | expire ticket => exact Nat.le_of_eq (frame_expire admission ticket).issued.symm
  | cancelRequester requester =>
    exact Nat.le_of_eq (frame_cancelRequester admission requester).issued.symm
  | cancelAll => exact Nat.le_of_eq (frame_cancelAll admission).issued.symm
  | position ticket => exact Nat.le_refl _
  | poll ticket => exact Nat.le_refl _
  | abandon ticket => exact Nat.le_refl _

/-- Who leaves the line makes no slot idle that others wait for. -/
theorem Packed.shorten {admission next : Admission} (h : admission.Packed)
    (active : next.active = admission.active) (capacity : next.capacity = admission.capacity)
    (queue : next.queue.Sublist admission.queue) : next.Packed where
  active_le := by
    rw [active, capacity]
    exact h.active_le
  full := by
    intro waits
    rw [active, capacity]
    refine h.full fun empty => waits ?_
    rw [empty] at queue
    exact List.sublist_nil.mp queue

theorem Packed.act {admission : Admission} (h : admission.Packed) (operation : Operation) :
    (admission.act operation).1.Packed := by
  cases operation with
  | request device requester sessionExists =>
    simp only [Admission.act, request]
    split
    · exact h
    · split
      · next free =>
        refine ⟨free, fun waits => ?_⟩
        -- A slot is free, so nobody waits.
        exact absurd (h.full waits) (Nat.ne_of_lt free)
      · next taken =>
        have full := Nat.le_antisymm h.active_le (Nat.not_lt.mp taken)
        exact ⟨h.active_le, fun _ => full⟩
  | release => exact h.release
  | claim ticket => exact ⟨h.active_le, h.full⟩
  | expire ticket =>
    simp only [Admission.act, expire]
    split
    · exact h.shorten rfl rfl List.filter_sublist
    · exact h
  | cancelRequester requester =>
    obtain ⟨count, eq⟩ := admission.cancelRequester_fst requester
    have withdrawn : (admission.withoutEntriesOf requester).Packed :=
      h.shorten rfl rfl List.filter_sublist
    have revoked := withdrawn.revokeAll (admission.grantsOf requester)
    show (admission.cancelRequester requester).1.Packed
    rw [eq]
    exact ⟨revoked.active_le, revoked.full⟩
  | cancelAll =>
    obtain ⟨count, eq⟩ := admission.cancelAll_fst
    show admission.cancelAll.1.Packed
    rw [eq]
    exact ⟨Nat.le_trans (Nat.sub_le ..) h.active_le, fun waits => absurd rfl waits⟩
  | position ticket => exact h
  | poll ticket => exact ⟨h.active_le, h.full⟩
  | abandon ticket => exact ⟨h.active_le, h.full⟩

theorem HoldsFor.request {admission : Admission} {sessions : Nat} (h : admission.HoldsFor sessions)
    (device : Device) (requester : SubscriberId) (sessionExists : Bool) :
    (admission.request device requester sessionExists).1.HoldsFor
      (if (admission.request device requester sessionExists).2 = .create then sessions + 1
        else sessions) := by
  have active := h.active_eq
  by_cases joins : sessionExists = true
  · simpa [Admission.request, joins] using h
  by_cases free : admission.active < admission.capacity
  · simp only [Admission.request, joins, free, if_true]
    refine ⟨?_, h.held⟩
    show admission.active + 1 = sessions + 1 + admission.granted.length
    omega
  · simp only [Admission.request, joins, free]
    exact ⟨h.active_eq, h.held⟩

theorem HoldsFor.claim {admission : Admission} {sessions : Nat} (h : admission.HoldsFor sessions)
    (once : (admission.granted.map (·.1)).Nodup) (ticket : TicketId) :
    (admission.claim ticket).1.HoldsFor
      (if (admission.claim ticket).2 then sessions + 1 else sessions) := by
  cases found : (admission.claim ticket).2 with
  | true => exact h.revoke once (by simpa [Admission.claim] using found)
  | false =>
    have unheld : ∀ g ∈ admission.granted, g.1 ≠ ticket := by
      simpa [Admission.claim] using found
    have same : (admission.claim ticket).1.granted = admission.granted :=
      List.filter_eq_self.mpr fun g mem => by simpa using unheld g mem
    refine ⟨?_, h.held⟩
    rw [same]
    exact h.active_eq

theorem HoldsFor.cancelRequester {chronicle : Chronicle} {admission : Admission} {sessions : Nat}
    (faithful : Faithful chronicle admission) (h : admission.HoldsFor sessions)
    (requester : SubscriberId) :
    (admission.cancelRequester requester).1.HoldsFor sessions := by
  obtain ⟨count, eq⟩ := admission.cancelRequester_fst requester
  have own : (admission.grantsOf requester).Sublist (admission.granted.map (·.1)) :=
    List.filter_sublist.map _
  have revoked : (admission.withoutRequester requester).HoldsFor sessions :=
    HoldsFor.revokeAll (faithful.withoutEntriesOf requester) ⟨h.active_eq, h.held⟩
      (faithful.nodup_granted.sublist own) fun t mem => own.subset mem
  rw [eq]
  exact ⟨revoked.active_eq, revoked.held⟩

theorem HoldsFor.cancelAll {admission : Admission} {sessions : Nat}
    (h : admission.HoldsFor sessions) : admission.cancelAll.1.HoldsFor sessions := by
  obtain ⟨count, eq⟩ := admission.cancelAll_fst
  have active := h.active_eq
  rw [eq]
  refine ⟨?_, h.held⟩
  show admission.active - admission.granted.length = sessions + 0
  omega

theorem HoldsFor.expire {admission : Admission} {sessions : Nat} (h : admission.HoldsFor sessions)
    (ticket : TicketId) : (admission.expire ticket).1.HoldsFor sessions := by
  simp only [Admission.expire]
  split
  · exact ⟨h.active_eq, h.held⟩
  · exact h

theorem HoldsFor.poll {admission : Admission} {sessions : Nat} (h : admission.HoldsFor sessions)
    (ticket : TicketId) : (admission.poll ticket).1.HoldsFor sessions :=
  ⟨h.active_eq, h.held⟩

theorem HoldsFor.abandon {admission : Admission} {sessions : Nat} (h : admission.HoldsFor sessions)
    (ticket : TicketId) : (admission.abandon ticket).HoldsFor sessions :=
  ⟨h.active_eq, h.held⟩

/-! ### Histories -/

theorem capacity_run (admission : Admission) (operations : List Operation) :
    (admission.run operations).capacity = admission.capacity := by
  induction operations generalizing admission with
  | nil => rfl
  | cons operation rest ih => exact (ih _).trans (admission.capacity_act operation)

theorem Packed.run {admission : Admission} (h : admission.Packed) (operations : List Operation) :
    (admission.run operations).Packed := by
  induction operations generalizing admission with
  | nil => exact h
  | cons operation rest ih => exact ih (h.act operation)

/-- After every history no slot is idle while somebody waits. -/
theorem packed_run (capacity : Nat) (operations : List Operation) :
    ((new capacity).run operations).Packed :=
  Packed.run ⟨Nat.zero_le _, fun waits => absurd rfl waits⟩ operations

end Admission

end CameraRelay
