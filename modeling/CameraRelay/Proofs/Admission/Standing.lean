import CameraRelay.Proofs.Admission.Outcomes
import CameraRelay.Proofs.Admission.Owners

/-!
# A ticket that others cannot take away

While the waiter of a ticket neither looks at it nor lets go of it, the ticket stays its own: nobody
else claims its grant or reads its settlement, and it leaves the line only by a grant or a
cancellation. It is cancelled, or its grant revoked, only together with everything or with its
requester.
-/

namespace CameraRelay

namespace Admission

/-- Whoever waits with a ticket or was granted a slot for it is its requester. -/
structure Belongs (admission : Admission) (ticket : TicketId) (requester : SubscriberId) :
    Prop where
  entries : ∀ entry ∈ admission.queue, entry.ticket = ticket → entry.requester = requester
  grants : ∀ grant ∈ admission.granted, grant.1 = ticket → grant.2 = requester

variable {admission : Admission} {ticket : TicketId} {requester : SubscriberId}

theorem Belongs.act (h : admission.Belongs ticket requester) (issued : ticket ≤ admission.issued)
    (operation : Operation) : (admission.act operation).1.Belongs ticket requester := by
  have owners : admission.Owners (fun t owner => t = ticket → owner = requester)
      (fun t owner => t = ticket → owner = requester) := ⟨h.entries, h.grants⟩
  have latest : ∀ owner, admission.issued + 1 = ticket → owner = requester := by
    intro owner same
    have larger : admission.issued < ticket := Nat.lt_of_lt_of_eq (Nat.lt_succ_self _) same
    exact absurd issued (Nat.not_le_of_lt larger)
  have after := owners.act (fun _ _ own => own) operation fun _ asker _ _ => latest asker
  exact ⟨after.entries, after.grants⟩

/-- Only the waiter of a ticket does this. -/
def Operation.OfWaiter (ticket : TicketId) (operation : Operation) : Prop :=
  operation = .claim ticket ∨ operation = .expire ticket ∨ operation = .poll ticket ∨
    operation = .abandon ticket

theorem held_act (held : ticket ∈ admission.waiters) {operation : Operation}
    (foreign : ¬ operation.OfWaiter ticket) : ticket ∈ (admission.act operation).1.waiters := by
  cases operation with
  | request device asker sessionExists =>
    simp only [act, request]
    split
    · exact held
    · split
      · exact held
      · exact List.mem_append_left _ held
  | release =>
    show ticket ∈ admission.release.1.waiters
    rwa [(frame_release admission).waiters]
  | expire other =>
    show ticket ∈ (admission.expire other).1.waiters
    rwa [(frame_expire admission other).waiters]
  | cancelRequester leaver =>
    show ticket ∈ (admission.cancelRequester leaver).1.waiters
    rwa [(frame_cancelRequester admission leaver).waiters]
  | cancelAll =>
    show ticket ∈ admission.cancelAll.1.waiters
    rwa [(frame_cancelAll admission).waiters]
  | claim other => exact held
  | position other => exact held
  | poll other => exact held
  | abandon other =>
    refine List.mem_filter.mpr ⟨held, ?_⟩
    have differs : ticket ≠ other := by
      intro same
      obtain rfl := same
      exact foreign (.inr (.inr (.inr rfl)))
    simpa using differs

end Admission

open Admission (Operation)

/-- A ticket whose waiter holds it and has not looked at what became of it. -/
structure Standing (chronicle : Chronicle) (admission : Admission) (ticket : TicketId)
    (requester : SubscriberId) : Prop where
  positive : 1 ≤ ticket
  held : ticket ∈ admission.waiters
  unread : ticket ∉ chronicle.read
  unclaimed : ticket ∉ chronicle.claimed
  belongs : admission.Belongs ticket requester
  fate : ∀ fate, (ticket, fate) ∈ chronicle.left → fate = .granted ∨ fate = .cancelled

namespace Standing

variable {chronicle : Chronicle} {admission : Admission} {ticket : TicketId}
  {requester : SubscriberId}

theorem act (h : Standing chronicle admission ticket requester)
    (faithful : Faithful chronicle admission) {operation : Operation}
    (foreign : ¬ operation.OfWaiter ticket) :
    Standing (chronicle ++ admission.events operation) (admission.act operation).1 ticket
      requester where
  positive := h.positive
  held := Admission.held_act h.held foreign
  unread := by
    rw [Chronicle.read_append, List.mem_append, Admission.read_events]
    intro either
    rcases either with old | ⟨rfl, _⟩
    · exact h.unread old
    · exact foreign (.inr (.inr (.inl rfl)))
  unclaimed := by
    rw [Chronicle.claimed_append, List.mem_append, Admission.claimed_events]
    intro either
    rcases either with old | ⟨rfl, _⟩
    · exact h.unclaimed old
    · exact foreign (.inl rfl)
  belongs := h.belongs.act (faithful.waiters ticket h.held) operation
  fate := by
    intro fate mem
    rcases List.mem_append.mp mem with old | new
    · exact h.fate fate old
    · have justified := Admission.justified_of_departures new
      cases fate with
      | granted => exact .inl rfl
      | cancelled => exact .inr rfl
      | expired => exact absurd (.inr (.inl justified)) foreign
      | removed => exact absurd h.held justified.1

theorem enqueue {device : Device} {before : Admission}
    (faithful : Faithful chronicle (before.enqueue device requester))
    (earlier : ∀ t ∈ before.line, t ≤ before.issued) :
    Standing chronicle (before.enqueue device requester) (before.issued + 1) requester := by
  have fresh : before.issued + 1 ∉ chronicle.gone :=
    faithful.not_gone (by simp [Admission.enqueue, Admission.line])
  constructor
  · exact Nat.le_add_left ..
  · exact List.mem_append_right _ (List.mem_singleton.mpr rfl)
  · exact fun read => fresh (faithful.read _ read)
  · exact fun claimed => fresh (faithful.claimed _ claimed)
  · refine ⟨fun entry mem same => ?_, fun grant mem same => ?_⟩
    · rcases List.mem_append.mp mem with old | new
      · have bound := earlier entry.ticket (List.mem_map_of_mem old)
        rw [same] at bound
        exact absurd bound (Nat.not_succ_le_self _)
      · rw [List.mem_singleton.mp new]
    · have left := faithful.gone_of_granted (List.mem_map_of_mem mem)
      rw [same] at left
      exact absurd left fresh
  · intro fate mem
    exact absurd (Chronicle.mem_gone.mpr ⟨fate, mem⟩) fresh

/-- Who asks when all slots are held stands in line with the latest ticket. -/
theorem queued (faithful : Faithful chronicle admission) {device : Device}
    (asked : admission.prune.enqueue device requester =
      (admission.act (.request device requester false)).1) :
    let next := chronicle ++ admission.events (.request device requester false)
    Faithful next (admission.prune.enqueue device requester) ∧
      Standing next (admission.prune.enqueue device requester) (admission.issued + 1)
        requester := by
  intro next
  have after : Faithful next (admission.prune.enqueue device requester) := by
    rw [asked]
    exact faithful.act _
  have earlier : ∀ t ∈ admission.prune.line, t ≤ admission.prune.issued := by
    intro t mem
    have kept : admission.prune.line.Sublist admission.line := List.filter_sublist.map _
    exact ((faithful.mem_iff t).mp (.inr (kept.subset mem))).2
  exact ⟨after, .enqueue after earlier⟩

/-- The waiter finds what became of its ticket, as far as it is told of it. -/
theorem settlement_of_left (h : Standing chronicle admission ticket requester)
    (faithful : Faithful chronicle admission) {fate : Fate}
    (left : (ticket, fate) ∈ chronicle.left) :
    admission.settlement? ticket = fate.settlement? := by
  have told (settlement : Settlement) (eq : fate.settlement? = some settlement) :
      admission.settlement? ticket = some settlement :=
    (faithful.poll_eq_some ticket settlement).mpr ⟨h.held, h.unread, fate, left, eq⟩
  rcases h.fate fate left with rfl | rfl
  · exact told .granted rfl
  · exact told .cancelled rfl

theorem cancelled_departures (h : Standing chronicle admission ticket requester)
    {operation : Operation} (mem : (ticket, .cancelled) ∈ admission.departures operation) :
    operation = .cancelAll ∨ operation = .cancelRequester requester := by
  rcases Admission.justified_of_departures mem with all | ⟨entry, waits, same, own⟩
  · exact .inl all
  · rw [h.belongs.entries entry waits same] at own
    exact .inr own

theorem revoked_events (h : Standing chronicle admission ticket requester) {operation : Operation}
    (mem : ticket ∈ (admission.events operation).revoked) :
    operation = .cancelAll ∨ operation = .cancelRequester requester := by
  obtain ⟨owner, granted, own | all⟩ := (Admission.revoked_events ..).mp mem
  · have same : owner = requester := h.belongs.grants _ granted rfl
    rw [same] at own
    exact .inr own
  · exact .inl all

end Standing

/-- An operation that takes nothing away from the waiter of a ticket. -/
structure Admission.Operation.Spares (operation : Operation) (ticket : TicketId)
    (requester : SubscriberId) : Prop where
  foreign : ¬ operation.OfWaiter ticket
  notAll : operation ≠ .cancelAll
  notOwn : operation ≠ .cancelRequester requester

/-- Over operations that take nothing away, a ticket is at most granted. -/
theorem Standing.spared {chronicle : Chronicle} {admission : Admission} {ticket : TicketId}
    {requester : SubscriberId} (h : Standing chronicle admission ticket requester)
    (faithful : Faithful chronicle admission) {operations : List Operation}
    (spares : ∀ operation ∈ operations, operation.Spares ticket requester) :
    Standing (chronicle ++ admission.chronicle operations) (admission.run operations) ticket
        requester ∧
      ((ticket, .cancelled) ∈ (chronicle ++ admission.chronicle operations).left ↔
        (ticket, .cancelled) ∈ chronicle.left) ∧
      (ticket ∈ (chronicle ++ admission.chronicle operations).revoked ↔
        ticket ∈ chronicle.revoked) := by
  induction operations generalizing chronicle admission with
  | nil =>
    rw [Admission.chronicle, Chronicle.append_empty]
    exact ⟨h, .rfl, .rfl⟩
  | cons operation rest ih =>
    have now := spares operation (by simp)
    have kept : (ticket, .cancelled) ∉ admission.departures operation := fun mem =>
      (h.cancelled_departures mem).elim now.notAll now.notOwn
    have unrevoked : ticket ∉ (admission.events operation).revoked := fun mem =>
      (h.revoked_events mem).elim now.notAll now.notOwn
    obtain ⟨standing, cancelled, revoked⟩ := ih (h.act faithful now.foreign)
      (faithful.act operation) fun operation mem => spares operation (List.mem_cons_of_mem _ mem)
    rw [Admission.chronicle, ← Chronicle.append_assoc]
    refine ⟨standing, cancelled.trans ?_, revoked.trans ?_⟩
    · rw [Chronicle.left_append, List.mem_append]
      exact or_iff_left kept
    · rw [Chronicle.revoked_append, List.mem_append]
      exact or_iff_left unrevoked

end CameraRelay
