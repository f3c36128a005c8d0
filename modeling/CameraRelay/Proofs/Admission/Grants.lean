import CameraRelay.Proofs.Admission.Standing

/-!
# Grants find their waiters

A slot is granted to nobody but the holder of a ticket, so as long as nobody lets go of a granted
ticket every unclaimed grant is one that its waiter comes for. A slot that is given back while all
of them are held goes to the first in line who still waits.
-/

namespace CameraRelay

namespace Admission

/-- The waiter of every unclaimed grant holds its ticket, but for the tickets set apart. -/
def Wanted (apart : TicketId → Prop) (admission : Admission) : Prop :=
  ∀ grant ∈ admission.granted, apart grant.1 ∨ grant.1 ∈ admission.waiters

namespace Wanted

variable {admission : Admission} {apart : TicketId → Prop}

theorem grantAlong (h : admission.Wanted apart) (line : List Entry) :
    (admission.grantAlong line).1.Wanted apart := by
  refine along_line (P := fun _ a => a.Wanted apart) [] admission ?_ ?_ line h
  · intro _ a entry rest _ _ held h
    rw [grant_of_awaited held]
    intro grant mem
    rcases List.mem_append.mp mem with old | new
    · exact h grant old
    · rw [List.mem_singleton.mp new]
      exact .inr (List.contains_iff_mem.mp held)
  · intro _ a entry rest _ _ _ h
    exact h

theorem release (h : admission.Wanted apart) : admission.release.1.Wanted apart := by
  have start : admission.handBack.Wanted apart := h
  exact start.grantAlong admission.queue

theorem shrink (h : admission.Wanted apart) {next : Admission}
    (grants : next.granted ⊆ admission.granted) (waiters : next.waiters = admission.waiters) :
    next.Wanted apart := by
  intro grant mem
  rw [waiters]
  exact h grant (grants mem)

theorem revokeAll (h : admission.Wanted apart) (tickets : List TicketId) :
    (admission.revokeAll tickets).Wanted apart := by
  induction tickets generalizing admission with
  | nil => exact h
  | cons first rest ih =>
    have revoked : (admission.revoke first).Wanted apart :=
      h.shrink List.filter_sublist.subset rfl
    exact ih revoked.release

/-- Only who lets go of a ticket leaves its grant behind. -/
theorem act (h : admission.Wanted apart) (operation : Operation)
    (abandons : ∀ ticket, operation = .abandon ticket → apart ticket) :
    (admission.act operation).1.Wanted apart := by
  cases operation with
  | request device requester sessionExists =>
    simp only [Admission.act, request]
    split
    · exact h
    · split
      · exact h
      · intro grant mem
        exact (h grant mem).imp_right fun held => List.mem_append_left _ held
  | release => exact h.release
  | claim ticket => exact h.shrink List.filter_sublist.subset rfl
  | expire ticket =>
    simp only [Admission.act, expire]
    split <;> exact h
  | cancelRequester requester =>
    obtain ⟨count, eq⟩ := admission.cancelRequester_fst requester
    have withdrawn : (admission.withoutEntriesOf requester).Wanted apart := h
    show (admission.cancelRequester requester).1.Wanted apart
    rw [eq]
    exact withdrawn.revokeAll (admission.grantsOf requester)
  | cancelAll =>
    obtain ⟨count, eq⟩ := admission.cancelAll_fst
    show admission.cancelAll.1.Wanted apart
    rw [eq]
    exact h.shrink (List.nil_subset _) rfl
  | position ticket => exact h
  | poll ticket => exact h
  | abandon ticket =>
    intro grant mem
    rcases h grant mem with apart | held
    · exact .inl apart
    · by_cases same : grant.1 = ticket
      · rw [same]
        exact .inl (abandons ticket rfl)
      · exact .inr (List.mem_filter.mpr ⟨held, by simpa using same⟩)

end Wanted

variable {admission : Admission} {entry : Entry}

theorem waiters_act {operation : Operation} (silent : ∀ client, ¬ operation.Asks client) :
    (admission.act operation).1.waiters ⊆ admission.waiters := by
  have framed {next : Admission} (frame : Frame admission next) :
      next.waiters ⊆ admission.waiters := by
    rw [frame.waiters]
    exact List.Subset.refl _
  cases operation with
  | request device requester sessionExists =>
    exact absurd ⟨device, sessionExists, rfl⟩ (silent requester)
  | release => exact framed (frame_release admission)
  | expire ticket => exact framed (frame_expire admission ticket)
  | cancelRequester requester => exact framed (frame_cancelRequester admission requester)
  | cancelAll => exact framed (frame_cancelAll admission)
  | claim ticket => exact List.Subset.refl _
  | position ticket => exact List.Subset.refl _
  | poll ticket => exact List.Subset.refl _
  | abandon ticket => exact List.filter_sublist.subset

theorem granted_grantAlong {line : List Entry} (free : admission.active < admission.capacity)
    (first : line.find? admission.isAwaited = some entry) :
    (entry.ticket, entry.requester) ∈ (admission.grantAlong line).1.granted := by
  induction line with
  | nil => simp at first
  | cons head rest ih =>
    by_cases held : admission.isAwaited head = true
    · rw [List.find?_cons_of_pos held] at first
      obtain rfl := Option.some.inj first
      have here : (head.ticket, head.requester) ∈ (admission.grant head).granted :=
        List.mem_append_right _ (List.mem_singleton.mpr rfl)
      simp only [grantAlong, free, held, if_true]
      exact mem_granted_grantAlong rest here
    · rw [List.find?_cons_of_neg held] at first
      simp only [grantAlong, free, held, if_true]
      exact ih first

/-- Whoever is the first in line to wait has been granted a slot. -/
def Serves (before after : Admission) : Prop :=
  ∀ entry, before.queue.find? before.isAwaited = some entry →
    (entry.ticket, entry.requester) ∈ after.granted

theorem Packed.serves (h : admission.Packed) (positive : 0 < admission.capacity) :
    admission.Serves admission.release.1 := by
  intro entry first
  have waits : admission.queue ≠ [] := List.ne_nil_of_mem (List.mem_of_find?_eq_some first)
  have full := h.full waits
  have free : admission.handBack.active < admission.handBack.capacity := by
    show admission.active - 1 < admission.capacity
    omega
  exact granted_grantAlong free first

end Admission

open Admission

namespace Standing

variable {chronicle : Chronicle} {admission : Admission} {ticket : TicketId}
  {requester : SubscriberId}

/-- A waiter finds an unclaimed grant of its own. -/
theorem settlement_of_granted (h : Standing chronicle admission ticket requester)
    (faithful : Faithful chronicle admission)
    (granted : ticket ∈ admission.granted.map (·.1)) :
    admission.settlement? ticket = some .granted :=
  h.settlement_of_left faithful (faithful.granted_of_mem granted)

end Standing

theorem Faithful.not_granted {chronicle : Chronicle} {admission : Admission}
    (faithful : Faithful chronicle admission) {ticket : TicketId}
    (waits : ticket ∈ admission.line) : ticket ∉ admission.granted.map (·.1) := fun granted =>
  faithful.not_gone waits (faithful.gone_of_granted granted)

end CameraRelay
