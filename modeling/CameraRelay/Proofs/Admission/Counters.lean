import Mathlib.Data.List.Nodup
import CameraRelay.Proofs.Admission.Outcomes

/-!
# Departures and the counters of admission

A ticket that leaves the line is counted as granted, timed out or cancelled, except where a free slot
comes upon an entry whose waiter is gone: it is passed over and no counter tells of it. Main
statement: `departures_counted`.
-/

namespace CameraRelay

/-- How many departures end this way. -/
def Fate.among (fate : Fate) (left : List (TicketId × Fate)) : Nat :=
  left.countP fun d => d.2 = fate

namespace Fate

@[simp] theorem among_nil (fate : Fate) : fate.among [] = 0 := rfl

@[simp] theorem among_append (fate : Fate) (first second : List (TicketId × Fate)) :
    fate.among (first ++ second) = fate.among first + fate.among second :=
  List.countP_append

@[simp] theorem among_singleton (fate other : Fate) (ticket : TicketId) :
    fate.among [(ticket, other)] = if other = fate then 1 else 0 := by
  simp [among, List.countP_cons]

/-- Entries that leave the line together meet one fate. -/
@[simp] theorem among_map (fate other : Fate) (entries : List Entry) :
    fate.among (entries.map fun e => (e.ticket, other)) =
      if other = fate then entries.length else 0 := by
  by_cases same : other = fate <;> simp [among, List.countP_map, Function.comp_def, same]

theorem length_eq_among (left : List (TicketId × Fate)) :
    left.length = granted.among left + expired.among left + cancelled.among left +
      removed.among left := by
  induction left with
  | nil => rfl
  | cons departure rest ih =>
    obtain ⟨ticket, fate⟩ := departure
    rw [List.length_cons, ih, ← List.singleton_append]
    simp only [among_append, among_singleton]
    cases fate <;> simp <;> omega

end Fate

/-- What the counters gain while tickets leave the line and grants are revoked, of which departures
some, as many as `missed`, are not counted. -/
structure AdmissionCounters.Gain (before after : AdmissionCounters)
    (left : List (TicketId × Fate)) (missed revoked : Nat) : Prop where
  granted : after.granted = before.granted + Fate.granted.among left
  timedOut : after.timedOut = before.timedOut + Fate.expired.among left
  cancelled : after.cancelled + missed =
    before.cancelled + Fate.cancelled.among left + Fate.removed.among left + revoked

namespace AdmissionCounters

theorem Gain.trans {first second third : AdmissionCounters}
    {left left' : List (TicketId × Fate)} {missed missed' revoked revoked' : Nat}
    (h : first.Gain second left missed revoked) (h' : second.Gain third left' missed' revoked') :
    first.Gain third (left ++ left') (missed + missed') (revoked + revoked') where
  granted := by
    rw [h'.granted, h.granted, Fate.among_append, Nat.add_assoc]
  timedOut := by
    rw [h'.timedOut, h.timedOut, Fate.among_append, Nat.add_assoc]
  cancelled := by
    have now := h.cancelled
    have later := h'.cancelled
    simp only [Fate.among_append]
    omega

/-- Nobody leaves, and a fault may be counted. -/
theorem Gain.of_eq {before after : AdmissionCounters} (granted : after.granted = before.granted)
    (timedOut : after.timedOut = before.timedOut)
    (cancelled : after.cancelled = before.cancelled) : before.Gain after [] 0 0 where
  granted := granted
  timedOut := timedOut
  cancelled := cancelled

theorem Gain.refl (counters : AdmissionCounters) : counters.Gain counters [] 0 0 :=
  .of_eq rfl rfl rfl

end AdmissionCounters

namespace Admission

open AdmissionCounters

/-! ### Free slots along the line -/

/-- Who is granted a slot is counted, who is passed over is not. -/
theorem gain_grantAlong (admission : Admission) (line : List Entry) :
    admission.counters.Gain (admission.grantAlong line).1.counters (admission.passing line)
      (Fate.removed.among (admission.passing line)) 0 := by
  have along := along_line
    (P := fun log a => admission.counters.Gain a.counters log (Fate.removed.among log) 0)
    [] admission ?granted ?removed line (.refl _)
  case granted =>
    intro log a entry rest _ _ held gain
    have one : a.counters.Gain (a.grant entry).counters [(entry.ticket, .granted)] 0 0 := by
      rw [grant_of_awaited held]
      exact ⟨rfl, rfl, rfl⟩
    simpa using gain.trans one
  case removed =>
    intro log a entry rest _ _ _ gain
    have one : a.counters.Gain a.counters [(entry.ticket, .removed)] 1 0 := ⟨rfl, rfl, rfl⟩
    simpa using gain.trans one
  simpa using along

theorem gain_release (admission : Admission) :
    admission.counters.Gain admission.release.1.counters admission.releasing
      (Fate.removed.among admission.releasing) 0 := by
  have back : admission.counters.Gain admission.handBack.counters [] 0 0 := .of_eq rfl rfl rfl
  have along := back.trans (admission.handBack.gain_grantAlong admission.queue)
  rwa [List.nil_append, Nat.zero_add] at along

theorem gain_revokeAll (admission : Admission) (tickets : List TicketId) :
    admission.counters.Gain (admission.revokeAll tickets).counters (admission.revoking tickets)
      (Fate.removed.among (admission.revoking tickets)) 0 := by
  induction tickets generalizing admission with
  | nil => exact .refl _
  | cons ticket rest ih =>
    have now : admission.counters.Gain (admission.revoke ticket).release.1.counters _ _ _ :=
      (admission.revoke ticket).gain_release
    have both := now.trans (ih (admission.revoke ticket).release.1)
    rw [revokeAll_cons, revoking]
    simpa using both

/-! ### Operations -/

/-- The departures in an operation that no counter tells of: free slots passed over these entries. A
request for a slot counts those that it clears away. -/
def overlooks (admission : Admission) : Operation → List (TicketId × Fate)
  | .request _ _ _ => []
  | operation => (admission.departures operation).filter fun d => d.2 = .removed

def overlooked (admission : Admission) : List Operation → List (TicketId × Fate)
  | [] => []
  | operation :: rest => admission.overlooks operation ++ (admission.act operation).1.overlooked rest

theorem overlooks_eq {admission : Admission} {operation : Operation}
    (other : ∀ device requester sessionExists,
      operation ≠ .request device requester sessionExists) :
    admission.overlooks operation =
      (admission.departures operation).filter fun d => d.2 = .removed := by
  cases operation with
  | request device requester sessionExists => exact absurd rfl (other _ _ _)
  | _ => rfl

theorem length_overlooks {admission : Admission} {operation : Operation}
    (other : ∀ device requester sessionExists,
      operation ≠ .request device requester sessionExists) :
    (admission.overlooks operation).length =
      Fate.removed.among (admission.departures operation) := by
  rw [overlooks_eq other, Fate.among, List.countP_eq_length_filter]

theorem overlooks_sublist (admission : Admission) (operation : Operation) :
    (admission.overlooks operation).Sublist (admission.departures operation) := by
  cases operation with
  | request device requester sessionExists => exact List.nil_sublist _
  | _ => exact List.filter_sublist

/-- Only what gives slots back overlooks anything, and only whose waiter is gone. -/
theorem of_overlooks {admission : Admission} {operation : Operation} {departure : TicketId × Fate}
    (mem : departure ∈ admission.overlooks operation) :
    departure.2 = .removed ∧ departure.1 ∉ admission.waiters ∧
      (operation = .release ∨ ∃ requester, operation = .cancelRequester requester) := by
  obtain ⟨ticket, fate⟩ := departure
  have other : ∀ device requester sessionExists,
      operation ≠ .request device requester sessionExists := by
    intro device requester sessionExists same
    rw [same] at mem
    cases mem
  rw [overlooks_eq other, List.mem_filter, decide_eq_true_eq] at mem
  obtain ⟨left, rfl⟩ := mem
  obtain ⟨unheld, released | cancelled | ⟨device, requester, requested⟩⟩ :=
    justified_of_departures left
  · exact ⟨rfl, unheld, .inl released⟩
  · exact ⟨rfl, unheld, .inr cancelled⟩
  · exact absurd requested (other _ _ _)

theorem gain_request (admission : Admission) (device : Device) (requester : SubscriberId)
    (sessionExists : Bool) :
    admission.counters.Gain (admission.request device requester sessionExists).1.counters
      (admission.departures (.request device requester sessionExists)) 0 0 := by
  by_cases joins : sessionExists = true
  · simpa [request, departures, joins] using Gain.refl admission.counters
  by_cases free : admission.active < admission.capacity
  · simpa [request, departures, joins, free] using Gain.refl admission.counters
  · have halves := List.length_eq_length_filter_add (l := admission.queue) admission.isAwaited
    simp only [request, departures, joins, free, decide_false, Bool.or_self]
    constructor
    · simp [enqueue, prune]
    · simp [enqueue, prune]
    · simp [enqueue, prune, halves]

theorem gain_expire {admission : Admission} (once : admission.line.Nodup) (ticket : TicketId) :
    admission.counters.Gain (admission.expire ticket).1.counters
      (admission.departures (.expire ticket)) 0 0 := by
  by_cases there : (admission.queue.any fun e => e.ticket == ticket) = true
  · have one : (admission.queue.filter fun e => e.ticket == ticket).length = 1 := by
      have mem : ticket ∈ admission.line := by simpa [line] using there
      have count : admission.line.count ticket = 1 := List.count_eq_one_of_mem once mem
      rwa [line, List.count, List.countP_map, List.countP_eq_length_filter] at count
    simp only [expire, there, if_true, departures]
    constructor <;> simp [one]
  · have nobody : admission.departures (.expire ticket) = [] := by
      simpa [departures] using there
    rw [nobody]
    simpa [expire, there] using Gain.refl admission.counters

theorem gain_cancelRequester (admission : Admission) (requester : SubscriberId) :
    admission.counters.Gain (admission.cancelRequester requester).1.counters
      (admission.departures (.cancelRequester requester))
      (Fate.removed.among (admission.departures (.cancelRequester requester)))
      (admission.grantsOf requester).length := by
  have revoked := (admission.withoutEntriesOf requester).gain_revokeAll
    (admission.grantsOf requester)
  have granted := revoked.granted
  have timedOut := revoked.timedOut
  have cancelled := revoked.cancelled
  have before : (admission.withoutEntriesOf requester).counters = admission.counters := rfl
  rw [before] at granted timedOut cancelled
  rw [cancelRequester_eq, withoutRequester]
  constructor
  · simpa [departures] using granted
  · simpa [departures] using timedOut
  · simp only [departures, Fate.among_append, Fate.among_map, if_true, reduceCtorEq, if_false]
    omega

theorem gain_cancelAll (admission : Admission) :
    admission.counters.Gain admission.cancelAll.1.counters (admission.departures .cancelAll) 0
      admission.granted.length := by
  rw [cancelAll_eq]
  constructor
  · simp [departures, withdraw]
  · simp [departures, withdraw]
  · simp [departures, Nat.add_assoc]

theorem gain_act {admission : Admission} (once : admission.line.Nodup) (operation : Operation) :
    admission.counters.Gain (admission.act operation).1.counters
      (admission.events operation).left (admission.overlooks operation).length
      (admission.events operation).revoked.length := by
  cases operation with
  | request device requester sessionExists =>
    exact admission.gain_request device requester sessionExists
  | release =>
    rw [length_overlooks (by simp)]
    exact admission.gain_release
  | expire ticket =>
    rw [length_overlooks (by simp)]
    have none : Fate.removed.among (admission.departures (.expire ticket)) = 0 := by
      simp [departures]
    rw [none]
    exact gain_expire once ticket
  | cancelRequester requester =>
    rw [length_overlooks (by simp)]
    exact admission.gain_cancelRequester requester
  | cancelAll =>
    rw [length_overlooks (by simp)]
    have none : Fate.removed.among (admission.departures .cancelAll) = 0 := by
      simp [departures]
    have tickets : (admission.events .cancelAll).revoked.length = admission.granted.length := by
      simp [events]
    rw [none, tickets]
    exact admission.gain_cancelAll
  | claim ticket => exact .of_eq rfl rfl rfl
  | position ticket => exact .of_eq rfl rfl rfl
  | poll ticket => exact .of_eq rfl rfl rfl
  | abandon ticket => exact .of_eq rfl rfl rfl

/-! ### Histories -/

theorem gain_run {chronicle : Chronicle} {admission : Admission}
    (faithful : Faithful chronicle admission) (operations : List Operation) :
    admission.counters.Gain (admission.run operations).counters
      (admission.chronicle operations).left (admission.overlooked operations).length
      (admission.chronicle operations).revoked.length := by
  induction operations generalizing chronicle admission with
  | nil => exact .refl _
  | cons operation rest ih =>
    have once : admission.line.Nodup := (List.nodup_append.mp faithful.nodup).2.1
    have both := (gain_act once operation).trans (ih (faithful.act operation))
    rw [Admission.chronicle, overlooked, Chronicle.left_append, Chronicle.revoked_append,
      List.length_append, List.length_append]
    exact both

theorem overlooked_sublist (admission : Admission) (operations : List Operation) :
    (admission.overlooked operations).Sublist (admission.chronicle operations).left := by
  induction operations generalizing admission with
  | nil => exact .refl _
  | cons operation rest ih => exact (admission.overlooks_sublist operation).append (ih _)

theorem mem_overlooked {admission : Admission} {operations : List Operation}
    {departure : TicketId × Fate} (mem : departure ∈ admission.overlooked operations) :
    ∃ earlier operation later, operations = earlier ++ operation :: later ∧
      departure ∈ (admission.run earlier).overlooks operation := by
  induction operations generalizing admission with
  | nil => cases mem
  | cons first rest ih =>
    rcases List.mem_append.mp mem with now | behind
    · exact ⟨[], first, rest, rfl, now⟩
    · obtain ⟨earlier, operation, later, rfl, found⟩ := ih behind
      exact ⟨first :: earlier, operation, later, rfl, found⟩

/-- Every ticket that was issued waits in line or is counted once, by the way in which it left the
line; a revoked grant is counted once more, as cancelled. Not counted are the entries that free
slots passed over because their waiters were gone. -/
theorem departures_counted (capacity : Nat) (operations : List Operation) :
    let admission := (new capacity).run operations
    let chronicle := (new capacity).chronicle operations
    let overlooked := (new capacity).overlooked operations
    admission.counters.granted = Fate.granted.among chronicle.left ∧
    admission.counters.timedOut = Fate.expired.among chronicle.left ∧
    admission.counters.cancelled + overlooked.length =
      Fate.cancelled.among chronicle.left + Fate.removed.among chronicle.left +
        chronicle.revoked.length ∧
    admission.issued + chronicle.revoked.length =
      admission.queue.length + admission.counters.granted + admission.counters.timedOut +
        admission.counters.cancelled + overlooked.length ∧
    overlooked.Sublist chronicle.left ∧
    ∀ departure ∈ overlooked, departure.2 = .removed ∧
      ∃ earlier operation later, operations = earlier ++ operation :: later ∧
        (operation = .release ∨ ∃ requester, operation = .cancelRequester requester) ∧
        departure ∈ ((new capacity).run earlier).departures operation ∧
        departure.1 ∉ ((new capacity).run earlier).waiters := by
  intro admission chronicle overlooked
  have faithful : Faithful chronicle admission := faithful_run capacity operations
  have gain : AdmissionCounters.Gain {} admission.counters chronicle.left overlooked.length
      chronicle.revoked.length := gain_run (Faithful.new capacity) operations
  have granted := gain.granted
  have timedOut := gain.timedOut
  have cancelled := gain.cancelled
  have issued : chronicle.left.length + admission.queue.length = admission.issued := by
    simpa [Chronicle.gone, line] using faithful.tickets.length_eq
  have fates := Fate.length_eq_among chronicle.left
  simp only [Nat.zero_add] at granted timedOut cancelled
  refine ⟨granted, timedOut, cancelled, by omega, overlooked_sublist _ _, fun departure mem => ?_⟩
  obtain ⟨earlier, operation, later, split, missed⟩ := mem_overlooked mem
  obtain ⟨removed, unheld, opens⟩ := of_overlooks missed
  exact ⟨removed, earlier, operation, later, split, opens,
    (overlooks_sublist _ _).subset missed, unheld⟩

/-- One slot, taken; the waiter for it goes away and the slot is given back. The line is empty then
and no counter tells of the ticket. -/
theorem departures_uncounted :
    let operations : List Operation := [.request ⟨"d1"⟩ 1 false, .request ⟨"d2"⟩ 2 false,
      .abandon 1, .release]
    let admission := (new 1).run operations
    ¬admission.issued + ((new 1).chronicle operations).revoked.length =
      admission.queue.length + admission.counters.granted + admission.counters.timedOut +
        admission.counters.cancelled := by
  decide

end Admission

end CameraRelay
