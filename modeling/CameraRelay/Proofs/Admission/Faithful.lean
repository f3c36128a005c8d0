import CameraRelay.Proofs.Admission.Chronicle

/-!
# The chronicle and the state of admission

After any history the chronicle accounts for every ticket that was issued: those that left the line
and those that still wait are all of them, each once. Unclaimed grants and unread settlements are
what the chronicle says they are. Main statement: `faithful_run`.
-/

namespace CameraRelay

namespace Chronicle

/-- Whoever is granted a slot finds that every ticket issued before its own has left the line. -/
def InOrder (left : List (TicketId × Fate)) : Prop :=
  ∀ earlier ticket later, left = earlier ++ (ticket, .granted) :: later →
    ∀ other, 1 ≤ other → other < ticket → other ∈ earlier.map (·.1)

theorem InOrder.snoc {left : List (TicketId × Fate)} {departure : TicketId × Fate}
    (h : InOrder left)
    (last : departure.2 = .granted → ∀ other, 1 ≤ other → other < departure.1 →
      other ∈ left.map (·.1)) :
    InOrder (left ++ [departure]) := by
  intro earlier ticket later split
  rcases later.eq_nil_or_concat with rfl | ⟨middle, final, rfl⟩
  · obtain ⟨rfl, same⟩ := List.append_inj' split rfl
    obtain rfl := List.singleton_inj.mp same
    exact last rfl
  · rw [List.concat_eq_append, ← List.cons_append, ← List.append_assoc] at split
    exact h earlier ticket middle (List.append_inj' split rfl).1

theorem InOrder.append {left : List (TicketId × Fate)} (h : InOrder left)
    (departures : List (TicketId × Fate)) (other : ∀ d ∈ departures, d.2 ≠ .granted) :
    InOrder (left ++ departures) := by
  induction departures generalizing left with
  | nil => simpa using h
  | cons departure rest ih =>
    have first : InOrder (left ++ [departure]) :=
      h.snoc fun granted => absurd granted (other departure (by simp))
    have both := ih first fun d mem => other d (List.mem_cons_of_mem _ mem)
    rwa [List.append_assoc] at both

def leave (chronicle : Chronicle) (departures : List (TicketId × Fate)) : Chronicle :=
  { chronicle with left := chronicle.left ++ departures }

theorem leave_leave (chronicle : Chronicle) (first second : List (TicketId × Fate)) :
    (chronicle.leave first).leave second = chronicle.leave (first ++ second) := by
  simp [leave]

theorem leave_nil (chronicle : Chronicle) : chronicle.leave [] = chronicle := by
  simp [leave]

theorem append_eq_leave {chronicle more : Chronicle} (claimed : more.claimed = [])
    (revoked : more.revoked = []) (read : more.read = []) :
    chronicle ++ more = chronicle.leave more.left := by
  show append chronicle more = _
  simp [append, leave, claimed, revoked, read]

theorem mem_gone {chronicle : Chronicle} {ticket : TicketId} :
    ticket ∈ chronicle.gone ↔ ∃ fate, (ticket, fate) ∈ chronicle.left := by
  simp [gone]

theorem mem_granted {chronicle : Chronicle} {ticket : TicketId} :
    ticket ∈ chronicle.granted ↔ (ticket, .granted) ∈ chronicle.left := by
  simp [granted]

@[simp] theorem gone_leave (chronicle : Chronicle) (departures : List (TicketId × Fate)) :
    (chronicle.leave departures).gone = chronicle.gone ++ departures.map (·.1) := by
  simp [gone, leave]

theorem granted_leave (chronicle : Chronicle) (departures : List (TicketId × Fate)) :
    (chronicle.leave departures).granted =
      chronicle.granted ++ (departures.filter fun d => d.2 = .granted).map (·.1) := by
  simp [granted, leave]

theorem settlements_leave (chronicle : Chronicle) (departures : List (TicketId × Fate)) :
    (chronicle.leave departures).settlements =
      chronicle.settlements ++ departures.filterMap fun d => d.2.settlement?.map (d.1, ·) := by
  simp [settlements, leave]

@[simp] theorem claimed_leave (chronicle : Chronicle) (departures : List (TicketId × Fate)) :
    (chronicle.leave departures).claimed = chronicle.claimed := rfl

@[simp] theorem revoked_leave (chronicle : Chronicle) (departures : List (TicketId × Fate)) :
    (chronicle.leave departures).revoked = chronicle.revoked := rfl

@[simp] theorem read_leave (chronicle : Chronicle) (departures : List (TicketId × Fate)) :
    (chronicle.leave departures).read = chronicle.read := rfl

end Chronicle

/-- A state of admission and what happened to tickets on the way to it. -/
structure Faithful (chronicle : Chronicle) (admission : Admission) : Prop where
  tickets : (chronicle.gone ++ admission.line).Perm (List.range' 1 admission.issued)
  sorted : admission.line.Pairwise (· < ·)
  inOrder : Chronicle.InOrder chronicle.left
  grants : admission.granted.map (·.1) =
    chronicle.granted.filter fun t => t ∉ chronicle.claimed ∧ t ∉ chronicle.revoked
  settlements : admission.settlements =
    chronicle.settlements.filter fun s => s.1 ∈ admission.waiters ∧ s.1 ∉ chronicle.read
  waiters : ∀ t ∈ admission.waiters, t ≤ admission.issued
  claimed : ∀ t ∈ chronicle.claimed, t ∈ chronicle.gone
  revoked : ∀ t ∈ chronicle.revoked, t ∈ chronicle.gone
  read : ∀ t ∈ chronicle.read, t ∈ chronicle.gone

namespace Faithful

variable {chronicle : Chronicle} {admission : Admission}

theorem nodup (h : Faithful chronicle admission) :
    (chronicle.gone ++ admission.line).Nodup :=
  h.tickets.nodup_iff.mpr List.nodup_range'

theorem not_gone (h : Faithful chronicle admission) {ticket : TicketId}
    (waits : ticket ∈ admission.line) : ticket ∉ chronicle.gone := by
  intro left
  exact (List.nodup_append.mp h.nodup).2.2 ticket left ticket waits rfl

theorem mem_iff (h : Faithful chronicle admission) (ticket : TicketId) :
    ticket ∈ chronicle.gone ∨ ticket ∈ admission.line ↔
      1 ≤ ticket ∧ ticket ≤ admission.issued := by
  rw [← List.mem_append, h.tickets.mem_iff, List.mem_range'_1, Nat.lt_one_add_iff]

theorem new (capacity : Nat) : Faithful {} (Admission.new capacity) where
  tickets := .refl _
  sorted := .nil
  inOrder := by
    intro earlier ticket later split
    simp at split
  grants := rfl
  settlements := rfl
  waiters := by simp [Admission.new]
  claimed := by simp
  revoked := by simp
  read := by simp

/-! ### Departures from the line -/

/-- Entries leave the line other than by a grant; those who wait are told what there is to tell. -/
theorem leave (h : Faithful chronicle admission) (fate : Fate) (out kept : List Entry)
    (next : Admission) (other : fate ≠ .granted) (perm : (out ++ kept).Perm admission.queue)
    (order : kept.Sublist admission.queue) (queue : next.queue = kept)
    (granted : next.granted = admission.granted) (waiters : next.waiters = admission.waiters)
    (issued : next.issued = admission.issued)
    (settlements : next.settlements = admission.settlements ++
      (out.filter admission.isAwaited).filterMap fun e => fate.settlement?.map (e.ticket, ·)) :
    Faithful (chronicle.leave (out.map fun e => (e.ticket, fate))) next := by
  have waits (entry : Entry) (mem : entry ∈ out) : entry.ticket ∈ admission.line :=
    List.mem_map_of_mem (perm.mem_iff.mp (List.mem_append_left _ mem))
  constructor
  · rw [Chronicle.gone_leave, Admission.line, queue, issued, List.append_assoc, List.map_map]
    have lines : (out.map (·.ticket) ++ kept.map (·.ticket)).Perm admission.line := by
      rw [← List.map_append]
      exact perm.map _
    exact (lines.append_left chronicle.gone).trans h.tickets
  · rw [Admission.line, queue]
    exact h.sorted.sublist (order.map _)
  · apply h.inOrder.append
    intro d mem
    obtain ⟨entry, _, rfl⟩ := List.mem_map.mp mem
    exact other
  · rw [granted, h.grants]
    have none : (out.map fun e => (e.ticket, fate)).filter (fun d => d.2 = .granted) = [] := by
      simp [List.filter_map, other]
    simp only [Chronicle.granted_leave, none, List.map_nil, List.append_nil]
    rfl
  · rw [settlements, h.settlements, waiters]
    rw [Chronicle.settlements_leave, List.filter_append]
    congr 1
    cases told : fate.settlement? with
    | none =>
      have nothing (entries : List Entry) :
          entries.filterMap (fun _ => (none : Option (TicketId × Settlement))) = [] :=
        List.filterMap_eq_nil_iff.mpr fun _ _ => rfl
      simp [told, List.filterMap_map, nothing]
    | some settlement =>
      simp only [List.filterMap_map, Function.comp_def, told, Option.map_some,
        List.filterMap_eq_map', List.filter_map]
      congr 1
      apply List.filter_congr
      intro entry mem
      have unread : entry.ticket ∉ chronicle.read := fun told =>
        h.not_gone (waits entry mem) (h.read _ told)
      simp [Admission.isAwaited, unread]
  · rw [waiters, issued]
    exact h.waiters
  · intro t mem
    simpa using .inl (h.claimed t mem)
  · intro t mem
    simpa using .inl (h.revoked t mem)
  · intro t mem
    simpa using .inl (h.read t mem)

theorem grant (h : Faithful chronicle admission) {entry : Entry} {rest : List Entry}
    (queue : admission.queue = entry :: rest) (held : admission.isAwaited entry = true) :
    Faithful (chronicle.leave [(entry.ticket, .granted)])
      { admission.grant entry with queue := rest } := by
  have line : admission.line = entry.ticket :: rest.map (·.ticket) := by
    simp [Admission.line, queue]
  have fresh : entry.ticket ∉ chronicle.gone := h.not_gone (by simp [line])
  have sorted := h.sorted
  rw [line, List.pairwise_cons] at sorted
  rw [Admission.grant_of_awaited held]
  constructor
  · have same := h.tickets
    rw [line] at same
    simpa [Admission.line] using same
  · exact sorted.2
  · apply h.inOrder.snoc
    intro _ other positive smaller
    have issued : other ≤ admission.issued := by
      have bound := ((h.mem_iff entry.ticket).mp (.inr (by simp [line]))).2
      exact Nat.le_trans (Nat.le_of_lt smaller) bound
    rcases (h.mem_iff other).mpr ⟨positive, issued⟩ with left | waits
    · exact left
    · -- Whoever still waits was issued after the head of the line.
      rw [line, List.mem_cons] at waits
      rcases waits with rfl | behind
      · exact absurd smaller (Nat.lt_irrefl _)
      · exact absurd (sorted.1 other behind) (Nat.lt_asymm smaller)
  · have unclaimed : entry.ticket ∉ chronicle.claimed := fun c => fresh (h.claimed _ c)
    have unrevoked : entry.ticket ∉ chronicle.revoked := fun r => fresh (h.revoked _ r)
    rw [Chronicle.granted_leave, List.filter_append, List.map_append]
    refine congr (congrArg (· ++ ·) h.grants) ?_
    simp [unclaimed, unrevoked]
  · have unread : entry.ticket ∉ chronicle.read := fun r => fresh (h.read _ r)
    have held' : entry.ticket ∈ admission.waiters := by
      simpa [Admission.isAwaited] using held
    show admission.settlements ++ [(entry.ticket, Settlement.granted)] = _
    rw [Chronicle.settlements_leave, List.filter_append]
    refine congr (congrArg (· ++ ·) h.settlements) ?_
    simp [unread, held', Fate.settlement?]
  · exact h.waiters
  · intro t mem
    simpa using .inl (h.claimed t mem)
  · intro t mem
    simpa using .inl (h.revoked t mem)
  · intro t mem
    simpa using .inl (h.read t mem)

theorem grantAlong (h : Faithful chronicle admission) :
    Faithful (chronicle.leave (admission.passing admission.queue))
      (admission.grantAlong admission.queue).1 := by
  have along := Admission.along_line (P := fun log a => Faithful (chronicle.leave log) a)
    [] admission ?granted ?removed admission.queue
    (by rw [Chronicle.leave_nil]; exact h)
  case granted =>
    intro log a entry rest queue _ held faithful
    have next := faithful.grant queue held
    rwa [Chronicle.leave_leave] at next
  case removed =>
    intro log a entry rest queue _ unheld faithful
    have next := faithful.leave .removed [entry] rest { a with queue := rest } (by decide)
      (by simp [queue]) (by simp [queue]) rfl rfl rfl rfl (by simp [unheld])
    rwa [Chronicle.leave_leave] at next
  simpa using along

theorem of_eq (h : Faithful chronicle admission) {next : Admission}
    (queue : next.queue = admission.queue) (granted : next.granted = admission.granted)
    (waiters : next.waiters = admission.waiters) (issued : next.issued = admission.issued)
    (settlements : next.settlements = admission.settlements) : Faithful chronicle next := by
  have same := h.leave .removed [] admission.queue next (by decide) (.refl _) (.refl _) queue
    granted waiters issued (by simpa using settlements)
  rwa [List.map_nil, Chronicle.leave_nil] at same

theorem release (h : Faithful chronicle admission) :
    Faithful (chronicle.leave admission.releasing) admission.release.1 := by
  have start : Faithful chronicle admission.handBack := h.of_eq rfl rfl rfl rfl rfl
  exact start.grantAlong

/-! ### Grants that are claimed or revoked -/

theorem withhold (h : Faithful chronicle admission) (claimed revoked : List TicketId)
    (next : Admission) (queue : next.queue = admission.queue)
    (waiters : next.waiters = admission.waiters) (issued : next.issued = admission.issued)
    (settlements : next.settlements = admission.settlements)
    (knownClaimed : ∀ t ∈ claimed, t ∈ chronicle.gone)
    (knownRevoked : ∀ t ∈ revoked, t ∈ chronicle.gone)
    (granted : next.granted.map (·.1) =
      (admission.granted.map (·.1)).filter fun t => t ∉ claimed ∧ t ∉ revoked) :
    Faithful
      { chronicle with
        claimed := chronicle.claimed ++ claimed
        revoked := chronicle.revoked ++ revoked } next := by
  constructor
  · rw [Admission.line, queue, issued]
    exact h.tickets
  · rw [Admission.line, queue]
    exact h.sorted
  · exact h.inOrder
  · rw [granted, h.grants, List.filter_filter]
    apply List.filter_congr
    intro t _
    simp only [List.mem_append, decide_eq_decide, ← Bool.decide_and]
    constructor
    · intro holds
      obtain ⟨⟨c, r⟩, c', r'⟩ := holds
      exact ⟨fun m => m.elim c' c, fun m => m.elim r' r⟩
    · intro holds
      obtain ⟨c, r⟩ := holds
      exact ⟨⟨fun m => c (.inr m), fun m => r (.inr m)⟩, fun m => c (.inl m), fun m => r (.inl m)⟩
  · rw [settlements, waiters]
    exact h.settlements
  · rw [waiters, issued]
    exact h.waiters
  · intro t mem
    exact (List.mem_append.mp mem).elim (h.claimed t) (knownClaimed t)
  · intro t mem
    exact (List.mem_append.mp mem).elim (h.revoked t) (knownRevoked t)
  · exact h.read

theorem granted_of_mem (h : Faithful chronicle admission) {ticket : TicketId}
    (mem : ticket ∈ admission.granted.map (·.1)) : (ticket, .granted) ∈ chronicle.left := by
  rw [h.grants] at mem
  exact Chronicle.mem_granted.mp (List.mem_filter.mp mem).1

theorem gone_of_granted (h : Faithful chronicle admission) {ticket : TicketId}
    (mem : ticket ∈ admission.granted.map (·.1)) : ticket ∈ chronicle.gone :=
  Chronicle.mem_gone.mpr ⟨_, h.granted_of_mem mem⟩

theorem map_revoke (admission : Admission) (ticket : TicketId) :
    (admission.revoke ticket).granted.map (·.1) =
      (admission.granted.map (·.1)).filter (· != ticket) := by
  simp [Admission.revoke, List.filter_map, Function.comp_def]

theorem revoke (h : Faithful chronicle admission) {ticket : TicketId}
    (known : ticket ∈ chronicle.gone) :
    Faithful { chronicle with revoked := chronicle.revoked ++ [ticket] }
      (admission.revoke ticket) := by
  have next := h.withhold [] [ticket] (admission.revoke ticket) rfl rfl rfl rfl (by simp)
    (by simpa using known)
    (by
      rw [map_revoke]
      apply List.filter_congr
      intro t _
      by_cases same : t = ticket <;> simp [same])
  simpa using next

theorem revokeAll (h : Faithful chronicle admission) (tickets : List TicketId)
    (known : ∀ t ∈ tickets, t ∈ chronicle.gone) :
    Faithful
      { chronicle with
        left := chronicle.left ++ admission.revoking tickets
        revoked := chronicle.revoked ++ tickets }
      (admission.revokeAll tickets) := by
  induction tickets generalizing chronicle admission with
  | nil => simpa [Admission.revoking, Admission.revokeAll] using h
  | cons ticket rest ih =>
    have revoked := (h.revoke (known ticket (by simp))).release
    have rest := ih revoked fun t mem => by
      rw [Chronicle.gone_leave]
      exact List.mem_append_left _ (known t (List.mem_cons_of_mem _ mem))
    simpa [Admission.revoking, Admission.revokeAll_cons, Chronicle.leave] using rest

/-! ### Tickets -/

theorem enqueue (h : Faithful chronicle admission) (device : Device) (requester : SubscriberId) :
    Faithful chronicle (admission.enqueue device requester) := by
  have line : (admission.enqueue device requester).line =
      admission.line ++ [admission.issued + 1] := by
    simp [Admission.enqueue, Admission.line]
  constructor
  · rw [line, ← List.append_assoc]
    show (_ : List TicketId).Perm (List.range' 1 (admission.issued + 1))
    rw [List.range'_1_concat, Nat.add_comm 1]
    exact h.tickets.append_right _
  · rw [line, List.pairwise_append]
    refine ⟨h.sorted, by simp, ?_⟩
    intro t waits other new
    rw [List.mem_singleton.mp new]
    exact Nat.lt_succ_of_le ((h.mem_iff t).mp (.inr waits)).2
  · exact h.inOrder
  · exact h.grants
  · show admission.settlements = _
    rw [h.settlements]
    apply List.filter_congr
    intro s mem
    have issued : s.1 ≤ admission.issued := by
      obtain ⟨d, left, told⟩ := List.mem_filterMap.mp mem
      obtain ⟨_, _, rfl⟩ := Option.map_eq_some_iff.mp told
      exact ((h.mem_iff d.1).mp (.inl (List.mem_map_of_mem left))).2
    have old : s.1 ≠ admission.issued + 1 := fun eq => by
      rw [eq] at issued
      exact Nat.not_succ_le_self _ issued
    simp [Admission.enqueue, old]
  · intro t mem
    rcases List.mem_append.mp mem with old | new
    · exact Nat.le_succ_of_le (h.waiters t old)
    · rw [List.mem_singleton.mp new]
      exact Nat.le_refl _
  · exact h.claimed
  · exact h.revoked
  · exact h.read

theorem gone_of_settled (h : Faithful chronicle admission) {ticket : TicketId}
    {settlement : Settlement} (mem : (ticket, settlement) ∈ admission.settlements) :
    ticket ∈ chronicle.gone := by
  rw [h.settlements] at mem
  obtain ⟨d, left, told⟩ := List.mem_filterMap.mp (List.mem_filter.mp mem).1
  obtain ⟨_, _, eq⟩ := Option.map_eq_some_iff.mp told
  have same : d.1 = ticket := congrArg Prod.fst eq
  rw [← same]
  exact List.mem_map_of_mem left

theorem mem_of_settlement? {admission : Admission} {ticket : TicketId} {settlement : Settlement}
    (told : admission.settlement? ticket = some settlement) :
    (ticket, settlement) ∈ admission.settlements := by
  obtain ⟨before, after, split, _⟩ := List.lookup_eq_some_iff.mp told
  simp [split]

theorem poll (h : Faithful chronicle admission) (ticket : TicketId) :
    Faithful (chronicle ++ admission.events (.poll ticket)) (admission.poll ticket).1 := by
  cases told : admission.settlement? ticket with
  | none =>
    have nothing : chronicle ++ admission.events (.poll ticket) = chronicle.leave [] := by
      refine Chronicle.append_eq_leave rfl rfl ?_
      simp [Admission.events, Admission.act, Admission.poll, told]
    rw [nothing, Chronicle.leave_nil]
    have unread : ∀ s ∈ admission.settlements, s.1 ≠ ticket := by
      intro s mem same
      have differs := List.lookup_eq_none_iff.mp told s mem
      simp [same] at differs
    have same : (admission.poll ticket).1.settlements = admission.settlements :=
      List.filter_eq_self.mpr fun s mem => by simpa using unread s mem
    exact h.of_eq rfl rfl rfl rfl same
  | some settlement =>
    have looked : chronicle ++ admission.events (.poll ticket) =
        { chronicle with read := chronicle.read ++ [ticket] } := by
      show Chronicle.append _ _ = _
      simp [Chronicle.append, Admission.events, Admission.departures, Admission.act,
        Admission.poll, told]
    rw [looked]
    constructor
    · exact h.tickets
    · exact h.sorted
    · exact h.inOrder
    · exact h.grants
    · show admission.settlements.filter (fun s => s.1 != ticket) = _
      rw [h.settlements, List.filter_filter]
      apply List.filter_congr
      intro s _
      by_cases same : s.1 = ticket <;> simp [same, Admission.poll]
    · exact h.waiters
    · exact h.claimed
    · exact h.revoked
    · intro t mem
      rcases List.mem_append.mp mem with old | new
      · exact h.read t old
      · have same : t = ticket := by simpa using new
        rw [same]
        exact h.gone_of_settled (mem_of_settlement? told)

theorem abandon (h : Faithful chronicle admission) (ticket : TicketId) :
    Faithful chronicle (admission.abandon ticket) := by
  constructor
  · exact h.tickets
  · exact h.sorted
  · exact h.inOrder
  · exact h.grants
  · show admission.settlements.filter (fun s => s.1 != ticket) = _
    rw [h.settlements, List.filter_filter]
    apply List.filter_congr
    intro s _
    by_cases same : s.1 = ticket <;> simp [same, Admission.abandon]
  · intro t mem
    exact h.waiters t (List.mem_filter.mp mem).1
  · exact h.claimed
  · exact h.revoked
  · exact h.read

/-! ### Operations and histories -/

theorem prune (h : Faithful chronicle admission) :
    Faithful
      (chronicle.leave
        ((admission.queue.filter fun e => !admission.isAwaited e).map fun e =>
          (e.ticket, .removed)))
      admission.prune := by
  refine h.leave .removed _ (admission.queue.filter admission.isAwaited) _ (by decide) ?_
    List.filter_sublist rfl rfl rfl rfl ?_
  · exact List.perm_append_comm.trans (List.filter_append_perm ..)
  · simp [Admission.prune, Fate.settlement?]

theorem withoutEntriesOf (h : Faithful chronicle admission) (requester : SubscriberId) :
    Faithful
      (chronicle.leave
        ((admission.queue.filter fun e => e.requester == requester).map fun e =>
          (e.ticket, .cancelled)))
      (admission.withoutEntriesOf requester) := by
  refine h.leave .cancelled _ (admission.queue.filter fun e => !(e.requester == requester)) _
    (by decide) (List.filter_append_perm ..) List.filter_sublist rfl rfl rfl rfl ?_
  simp [Admission.withoutEntriesOf, Admission.withdraw, Fate.settlement?]

theorem cancelRequester (h : Faithful chronicle admission) (requester : SubscriberId) :
    Faithful (chronicle ++ admission.events (.cancelRequester requester))
      (admission.cancelRequester requester).1 := by
  obtain ⟨count, eq⟩ := admission.cancelRequester_fst requester
  have withdrawn := h.withoutEntriesOf requester
  have revoked := withdrawn.revokeAll (admission.grantsOf requester) fun t mem => by
    obtain ⟨g, own, rfl⟩ := List.mem_map.mp mem
    exact withdrawn.gone_of_granted (List.mem_map_of_mem (List.mem_filter.mp own).1)
  have same : chronicle ++ admission.events (.cancelRequester requester) =
      { chronicle with
        left := chronicle.left ++ admission.departures (.cancelRequester requester)
        revoked := chronicle.revoked ++ admission.grantsOf requester } := by
    show Chronicle.append _ _ = _
    simp [Chronicle.append, Admission.events]
  rw [eq, same]
  simp only [Chronicle.leave, List.append_assoc] at revoked
  exact revoked.of_eq rfl rfl rfl rfl rfl

theorem cancelAll (h : Faithful chronicle admission) :
    Faithful (chronicle ++ admission.events .cancelAll) admission.cancelAll.1 := by
  obtain ⟨count, eq⟩ := admission.cancelAll_fst
  have withdrawn : Faithful
      (chronicle.leave (admission.queue.map fun e => (e.ticket, .cancelled)))
      (admission.withdraw admission.queue []) := by
    refine h.leave .cancelled _ [] _ (by decide) (by simp) (List.nil_sublist _) rfl rfl rfl rfl ?_
    simp [Admission.withdraw, Fate.settlement?]
  have revoked := withdrawn.withhold [] (admission.granted.map (·.1)) admission.cancelAll.1
    (by rw [eq]) (by rw [eq]) (by rw [eq]) (by rw [eq]) (by simp)
    (fun t mem => withdrawn.gone_of_granted mem) (by rw [eq]; simp [Admission.withdraw])
  have same : chronicle ++ admission.events .cancelAll =
      { chronicle with
        left := chronicle.left ++ admission.departures .cancelAll
        revoked := chronicle.revoked ++ admission.granted.map (·.1) } := by
    show Chronicle.append _ _ = _
    simp [Chronicle.append, Admission.events]
  rw [same]
  simpa [Chronicle.leave, Admission.departures] using revoked

theorem claim (h : Faithful chronicle admission) (ticket : TicketId) :
    Faithful (chronicle ++ admission.events (.claim ticket)) (admission.claim ticket).1 := by
  cases found : (admission.claim ticket).2 with
  | true =>
    have mem : ticket ∈ admission.granted.map (·.1) := by
      simpa [Admission.claim] using found
    have next := h.withhold [ticket] [] (admission.claim ticket).1 rfl rfl rfl rfl
      (by simpa using h.gone_of_granted mem) (by simp)
      (by
        rw [Admission.claim_fst, map_revoke]
        apply List.filter_congr
        intro t _
        by_cases same : t = ticket <;> simp [same])
    have same : chronicle ++ admission.events (.claim ticket) =
        { chronicle with
          claimed := chronicle.claimed ++ [ticket]
          revoked := chronicle.revoked ++ [] } := by
      show Chronicle.append _ _ = _
      simp [Chronicle.append, Admission.events, Admission.departures, Admission.act, found]
    rwa [same]
  | false =>
    have unheld : ∀ g ∈ admission.granted, g.1 ≠ ticket := by
      simpa [Admission.claim] using found
    have same : chronicle ++ admission.events (.claim ticket) = chronicle := by
      show Chronicle.append _ _ = _
      simp [Chronicle.append, Admission.events, Admission.departures, Admission.act, found]
    rw [same]
    refine h.of_eq rfl ?_ rfl rfl rfl
    exact List.filter_eq_self.mpr fun g mem => by simpa using unheld g mem

theorem expire (h : Faithful chronicle admission) (ticket : TicketId) :
    Faithful (chronicle ++ admission.events (.expire ticket)) (admission.expire ticket).1 := by
  have same : chronicle ++ admission.events (.expire ticket) =
      chronicle.leave (admission.departures (.expire ticket)) :=
    Chronicle.append_eq_leave rfl rfl rfl
  rw [same]
  by_cases there : (admission.queue.any fun e => e.ticket == ticket) = true
  · have next : (admission.expire ticket).1 =
        { admission with
          queue := admission.queue.filter fun e => e.ticket != ticket
          counters.timedOut := admission.counters.timedOut + 1 } := by
      simp only [Admission.expire, there, if_true]
    rw [next]
    refine h.leave .expired _ (admission.queue.filter fun e => e.ticket != ticket) _ (by decide)
      (List.filter_append_perm ..) List.filter_sublist rfl rfl rfl rfl ?_
    simp [Fate.settlement?]
  · have next : (admission.expire ticket).1 = admission := by
      simp only [Admission.expire, there]
      rfl
    have nobody : admission.departures (.expire ticket) = [] := by
      simpa [Admission.departures] using there
    rwa [next, nobody, Chronicle.leave_nil]

theorem request (h : Faithful chronicle admission) (device : Device) (requester : SubscriberId)
    (sessionExists : Bool) :
    Faithful (chronicle ++ admission.events (.request device requester sessionExists))
      (admission.request device requester sessionExists).1 := by
  have same : chronicle ++ admission.events (.request device requester sessionExists) =
      chronicle.leave (admission.departures (.request device requester sessionExists)) :=
    Chronicle.append_eq_leave rfl rfl rfl
  rw [same]
  by_cases joins : sessionExists = true
  · simpa [Admission.request, Admission.departures, joins, Chronicle.leave_nil] using h
  by_cases free : admission.active < admission.capacity
  · simp only [Admission.request, Admission.departures, joins, free, decide_true, Bool.or_true,
      if_true, Chronicle.leave_nil]
    exact h.of_eq rfl rfl rfl rfl rfl
  · simp only [Admission.request, Admission.departures, joins, free, decide_false, Bool.or_self]
    exact h.prune.enqueue device requester

theorem act (h : Faithful chronicle admission) (operation : Admission.Operation) :
    Faithful (chronicle ++ admission.events operation) (admission.act operation).1 := by
  cases operation with
  | request device requester sessionExists => exact h.request device requester sessionExists
  | release =>
    have same : chronicle ++ admission.events .release = chronicle.leave admission.releasing :=
      Chronicle.append_eq_leave rfl rfl rfl
    rw [same]
    exact h.release
  | claim ticket => exact h.claim ticket
  | expire ticket => exact h.expire ticket
  | cancelRequester requester => exact h.cancelRequester requester
  | cancelAll => exact h.cancelAll
  | position ticket =>
    have same : chronicle ++ admission.events (.position ticket) = chronicle.leave [] :=
      Chronicle.append_eq_leave rfl rfl rfl
    rwa [same, Chronicle.leave_nil]
  | poll ticket => exact h.poll ticket
  | abandon ticket =>
    have same : chronicle ++ admission.events (.abandon ticket) = chronicle.leave [] :=
      Chronicle.append_eq_leave rfl rfl rfl
    rw [same, Chronicle.leave_nil]
    exact h.abandon ticket

theorem run (h : Faithful chronicle admission) (operations : List Admission.Operation) :
    Faithful (chronicle ++ admission.chronicle operations) (admission.run operations) := by
  induction operations generalizing chronicle admission with
  | nil => rwa [Admission.chronicle, Chronicle.append_empty]
  | cons operation rest ih =>
    rw [Admission.chronicle, ← Chronicle.append_assoc]
    exact ih (h.act operation)

end Faithful

/-- After any history the chronicle accounts for every ticket. -/
theorem faithful_run (capacity : Nat) (operations : List Admission.Operation) :
    Faithful ((Admission.new capacity).chronicle operations)
      ((Admission.new capacity).run operations) :=
  (Faithful.new capacity).run operations

end CameraRelay
