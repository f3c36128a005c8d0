import CameraRelay.Proofs.Admission.Chronicle

/-!
# Who waits, and who was granted a slot

Nobody comes into the line but by a request of its own, and grants come out of the line only. So
what holds of everybody who waits and of every unclaimed grant goes on to hold, and a requester
that was cancelled is in neither place until it asks again.
-/

namespace CameraRelay

namespace Admission

/-- What holds of everybody in line, and of everybody with an unclaimed grant. -/
structure Owners (admission : Admission) (waiting granted : TicketId → SubscriberId → Prop) :
    Prop where
  entries : ∀ entry ∈ admission.queue, waiting entry.ticket entry.requester
  grants : ∀ grant ∈ admission.granted, granted grant.1 grant.2

namespace Owners

variable {admission : Admission} {waiting granted : TicketId → SubscriberId → Prop}

theorem shrink (h : admission.Owners waiting granted) {next : Admission}
    (queue : next.queue ⊆ admission.queue) (grants : next.granted ⊆ admission.granted) :
    next.Owners waiting granted where
  entries := fun entry mem => h.entries entry (queue mem)
  grants := fun grant mem => h.grants grant (grants mem)

theorem grantAlong (h : admission.Owners waiting granted)
    (passes : ∀ ticket requester, waiting ticket requester → granted ticket requester) :
    (admission.grantAlong admission.queue).1.Owners waiting granted := by
  refine along_line (P := fun _ a => a.Owners waiting granted) [] admission ?_ ?_ admission.queue
    ⟨h.entries, h.grants⟩
  · intro _ a entry rest queue _ held h
    rw [grant_of_awaited held]
    refine ⟨fun other mem => h.entries other (by simp [queue, mem]), fun grant mem => ?_⟩
    rcases List.mem_append.mp mem with old | new
    · exact h.grants grant old
    · rw [List.mem_singleton.mp new]
      exact passes _ _ (h.entries entry (by simp [queue]))
  · intro _ a entry rest queue _ _ h
    exact ⟨fun other mem => h.entries other (by simp [queue, mem]), h.grants⟩

theorem release (h : admission.Owners waiting granted)
    (passes : ∀ ticket requester, waiting ticket requester → granted ticket requester) :
    admission.release.1.Owners waiting granted := by
  have start : admission.handBack.Owners waiting granted := ⟨h.entries, h.grants⟩
  exact start.grantAlong passes

theorem revokeAll (h : admission.Owners waiting granted)
    (passes : ∀ ticket requester, waiting ticket requester → granted ticket requester)
    (tickets : List TicketId) : (admission.revokeAll tickets).Owners waiting granted := by
  induction tickets generalizing admission with
  | nil => exact h
  | cons first rest ih =>
    have revoked : (admission.revoke first).Owners waiting granted :=
      h.shrink (List.Subset.refl _) List.filter_sublist.subset
    exact ih (revoked.release passes)

/-- Only a request brings somebody in. -/
theorem act (h : admission.Owners waiting granted)
    (passes : ∀ ticket requester, waiting ticket requester → granted ticket requester)
    (operation : Operation)
    (asks : ∀ device requester sessionExists,
      operation = .request device requester sessionExists →
        waiting (admission.issued + 1) requester) :
    (admission.act operation).1.Owners waiting granted := by
  cases operation with
  | request device asker sessionExists =>
    simp only [Admission.act, request]
    split
    · exact h
    · split
      · exact ⟨h.entries, h.grants⟩
      · refine ⟨fun entry mem => ?_, h.grants⟩
        rcases List.mem_append.mp mem with old | new
        · exact h.entries entry (List.mem_filter.mp old).1
        · rw [List.mem_singleton.mp new]
          exact asks device asker sessionExists rfl
  | release => exact h.release passes
  | claim ticket => exact h.shrink (List.Subset.refl _) List.filter_sublist.subset
  | expire ticket =>
    simp only [Admission.act, expire]
    split
    · exact h.shrink List.filter_sublist.subset (List.Subset.refl _)
    · exact h
  | cancelRequester leaver =>
    obtain ⟨count, eq⟩ := admission.cancelRequester_fst leaver
    have withdrawn : (admission.withoutEntriesOf leaver).Owners waiting granted :=
      h.shrink List.filter_sublist.subset (List.Subset.refl _)
    have revoked := withdrawn.revokeAll passes (admission.grantsOf leaver)
    show (admission.cancelRequester leaver).1.Owners waiting granted
    rw [eq]
    exact ⟨revoked.entries, revoked.grants⟩
  | cancelAll =>
    obtain ⟨count, eq⟩ := admission.cancelAll_fst
    show admission.cancelAll.1.Owners waiting granted
    rw [eq]
    exact h.shrink (List.nil_subset _) (List.nil_subset _)
  | position ticket => exact h
  | poll ticket => exact ⟨h.entries, h.grants⟩
  | abandon ticket => exact ⟨h.entries, h.grants⟩

end Owners

/-- A client neither waits nor has an unclaimed grant. -/
def Lacks (admission : Admission) (client : SubscriberId) : Prop :=
  admission.Owners (fun _ requester => requester ≠ client) (fun _ requester => requester ≠ client)

def Operation.Asks (client : SubscriberId) (operation : Operation) : Prop :=
  ∃ device sessionExists, operation = .request device client sessionExists

theorem Lacks.act {admission : Admission} {client : SubscriberId} (h : admission.Lacks client)
    {operation : Operation} (silent : ¬ operation.Asks client) :
    (admission.act operation).1.Lacks client := by
  refine Owners.act h (fun _ _ differs => differs) operation ?_
  intro device requester sessionExists asks same
  exact silent ⟨device, sessionExists, same ▸ asks⟩

theorem lacks_revokeAll {admission : Admission} {client : SubscriberId} {tickets : List TicketId}
    (h : admission.Owners (fun _ requester => requester ≠ client)
      (fun ticket requester => requester = client → ticket ∈ tickets)) :
    (admission.revokeAll tickets).Lacks client := by
  induction tickets generalizing admission with
  | nil => exact ⟨h.entries, fun grant mem same => by simpa using h.grants grant mem same⟩
  | cons first rest ih =>
    -- What the client still holds is among the rest, and the slot goes to somebody else.
    have revoked : (admission.revoke first).Owners (fun _ requester => requester ≠ client)
        (fun ticket requester => requester = client → ticket ∈ rest) := by
      refine ⟨h.entries, fun grant mem own => ?_⟩
      obtain ⟨before, differs⟩ := List.mem_filter.mp mem
      have either := List.mem_cons.mp (h.grants grant before own)
      exact either.resolve_left (by simpa using differs)
    exact ih (revoked.release fun _ _ differs same => absurd same differs)

/-- While the grants of a client are revoked one after the other, the slots go to others. -/
theorem lacks_cancelRequester (admission : Admission) (client : SubscriberId) :
    (admission.cancelRequester client).1.Lacks client := by
  obtain ⟨count, eq⟩ := admission.cancelRequester_fst client
  have withdrawn : (admission.withoutEntriesOf client).Owners (fun _ requester => requester ≠ client)
      (fun ticket requester => requester = client → ticket ∈ admission.grantsOf client) := by
    refine ⟨fun entry mem => ?_, fun grant mem own => ?_⟩
    · simpa using (List.mem_filter.mp mem).2
    · exact List.mem_map_of_mem (List.mem_filter.mpr ⟨mem, by simpa using own⟩)
  have revoked := lacks_revokeAll withdrawn
  rw [eq]
  exact ⟨revoked.entries, revoked.grants⟩

theorem lacks_cancelAll (admission : Admission) (client : SubscriberId) :
    admission.cancelAll.1.Lacks client := by
  obtain ⟨count, eq⟩ := admission.cancelAll_fst
  rw [eq]
  exact ⟨by simp [withdraw], by simp⟩

end Admission

end CameraRelay
