import CameraRelay.Proofs.Admission.Faithful

/-!
# Grants revoked in any order

The grants of a requester that leaves are come upon in no particular order, and each of them gives
its slot to the head of the line before the next one is looked at. The order makes no difference: a
free slot goes along the line without a look at the grants. Main statement: `revokeAll_perm`.
-/

namespace CameraRelay

namespace Admission

variable {admission : Admission} {ticket other : TicketId}

/-- So many slots are given back, one after the other. -/
def released (admission : Admission) : Nat → Admission
  | 0 => admission
  | count + 1 => admission.release.1.released count

theorem released_add (admission : Admission) (first second : Nat) :
    (admission.released first).released second = admission.released (first + second) := by
  induction first generalizing admission with
  | zero => rw [Nat.zero_add, released]
  | succ first ih => rw [Nat.add_right_comm, released, released, ih]

/-! ### A slot is given back and a grant revoked -/

theorem settle_revoke (entry : Entry) (settlement : Settlement) :
    (admission.revoke ticket).settle entry settlement =
      (admission.settle entry settlement).revoke ticket := by
  unfold settle
  by_cases held : admission.isAwaited entry = true
  · rw [if_pos held, if_pos (show (admission.revoke ticket).isAwaited entry = true from held)]
    rfl
  · rw [if_neg held, if_neg (show ¬ (admission.revoke ticket).isAwaited entry = true from held)]

theorem grant_revoke {entry : Entry} (apart : entry.ticket ≠ ticket) :
    (admission.revoke ticket).grant entry = (admission.grant entry).revoke ticket := by
  have kept : (entry.ticket != ticket) = true := by simpa using apart
  unfold grant
  rw [settle_revoke]
  simp [revoke, List.filter_append, kept]

theorem grantAlong_revoke (line : List Entry) (apart : ∀ entry ∈ line, entry.ticket ≠ ticket) :
    (admission.revoke ticket).grantAlong line =
      ((admission.grantAlong line).1.revoke ticket, (admission.grantAlong line).2) := by
  induction line generalizing admission with
  | nil => rfl
  | cons entry rest ih =>
    have first : entry.ticket ≠ ticket := apart entry List.mem_cons_self
    have others := fun e mem => apart e (List.mem_cons_of_mem entry mem)
    have active : (admission.revoke ticket).active = admission.active := rfl
    have capacity : (admission.revoke ticket).capacity = admission.capacity := rfl
    have awaited : (admission.revoke ticket).isAwaited entry = admission.isAwaited entry := rfl
    simp only [grantAlong, active, capacity, awaited, grant_revoke first, ih others]
    split
    · split <;> rfl
    · rfl

theorem release_revoke (away : ticket ∉ admission.line) :
    (admission.revoke ticket).release.1 = admission.release.1.revoke ticket := by
  have apart : ∀ entry ∈ admission.queue, entry.ticket ≠ ticket := fun entry mem same =>
    away (same ▸ List.mem_map_of_mem mem)
  have along : (admission.handBack.revoke ticket).grantAlong admission.queue = _ :=
    grantAlong_revoke _ apart
  exact congrArg Prod.fst along

theorem revoke_revoke :
    (admission.revoke ticket).revoke other = (admission.revoke other).revoke ticket := by
  simp only [revoke, List.filter_filter, Bool.and_comm]

theorem not_mem_line_release (away : ticket ∉ admission.line) :
    ticket ∉ admission.release.1.line := by
  have along := along_line (P := fun _ a => ticket ∉ a.line) [] admission.handBack ?granted ?removed
    admission.queue away
  case granted =>
    intro _ a entry rest queue _ _ away mem
    apply away
    rw [line, queue, List.map_cons]
    exact List.mem_cons_of_mem _ mem
  case removed =>
    intro _ a entry rest queue _ _ away mem
    apply away
    rw [line, queue, List.map_cons]
    exact List.mem_cons_of_mem _ mem
  exact along

/-! ### Several of them -/

theorem revokeAll_perm {tickets others : List TicketId} (same : tickets.Perm others)
    (away : ∀ ticket ∈ tickets, ticket ∉ admission.line) :
    admission.revokeAll tickets = admission.revokeAll others := by
  induction same generalizing admission with
  | nil => rfl
  | cons ticket _ ih =>
    rw [revokeAll_cons, revokeAll_cons]
    apply ih
    intro other mem
    exact not_mem_line_release (away other (List.mem_cons_of_mem ticket mem))
  | swap first second rest =>
    have one : first ∉ (admission.revoke second).line := away first (by simp)
    have two : second ∉ (admission.revoke first).line := away second (by simp)
    rw [revokeAll_cons, revokeAll_cons, revokeAll_cons, revokeAll_cons, ← release_revoke one,
      ← release_revoke two, revoke_revoke]
  | trans same _ ih ih' =>
    rw [ih away]
    apply ih'
    intro ticket mem
    exact away ticket (same.mem_iff.mpr mem)

/-! ### A requester leaves -/

/-- An order in which the unclaimed grants of a requester are come upon. -/
structure Revoking (admission : Admission) (requester : SubscriberId) where
  tickets : List TicketId
  grants : tickets.Perm (admission.grantsOf requester)

def Revoking.listed (admission : Admission) (requester : SubscriberId) :
    admission.Revoking requester :=
  ⟨admission.grantsOf requester, .refl _⟩

variable {requester : SubscriberId}

/-- `cancelRequester` with the grants in some order. -/
def cancelRequesterIn (admission : Admission) (requester : SubscriberId)
    (order : admission.Revoking requester) : Admission × Nat :=
  let (own, others) := admission.queue.partition fun e => e.requester == requester
  let admission := own.foldl (fun a e => a.settle e .cancelled) { admission with queue := others }
  let admission := admission.revokeAll order.tickets
  let count := own.length + order.tickets.length
  ({ admission with counters.cancelled := admission.counters.cancelled + count }, count)

theorem cancelRequesterIn_listed (admission : Admission) (requester : SubscriberId) :
    admission.cancelRequesterIn requester (.listed admission requester) =
      admission.cancelRequester requester := by
  simp only [cancelRequesterIn, cancelRequester, List.partition_eq_filter_filter, foldl_settle]
  simp only [Revoking.listed, grantsOf, List.length_map]

theorem cancelRequesterIn_eq (admission : Admission) (order : admission.Revoking requester) :
    admission.cancelRequesterIn requester order =
      let left := (admission.withoutEntriesOf requester).revokeAll order.tickets
      let count := (admission.queue.filter fun e => e.requester == requester).length +
        order.tickets.length
      ({ left with counters.cancelled := left.counters.cancelled + count }, count) := by
  simp only [cancelRequesterIn, List.partition_eq_filter_filter, foldl_settle]
  rfl

theorem cancelRequesterIn_congr {chronicle : Chronicle} (faithful : Faithful chronicle admission)
    {next : Admission} (eq : admission = next) (first : admission.Revoking requester)
    (second : next.Revoking requester) :
    admission.cancelRequesterIn requester first = next.cancelRequesterIn requester second := by
  obtain rfl := eq
  have same : first.tickets.Perm second.tickets := first.grants.trans second.grants.symm
  have withdrawn := faithful.withoutEntriesOf requester
  have away : ∀ ticket ∈ first.tickets, ticket ∉ (admission.withoutEntriesOf requester).line := by
    intro ticket mem waits
    have granted := first.grants.mem_iff.mp mem
    apply withdrawn.not_gone waits
    apply withdrawn.gone_of_granted
    exact (List.filter_sublist.map _).subset granted
  rw [cancelRequesterIn_eq, cancelRequesterIn_eq, revokeAll_perm same away, same.length_eq]

end Admission

end CameraRelay
