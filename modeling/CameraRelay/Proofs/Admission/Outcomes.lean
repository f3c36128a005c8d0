import CameraRelay.Proofs.Admission.Arrival

/-!
# One outcome for each ticket

A ticket that was issued waits in line or has left it with one fate, which never changes. Its waiter
reads of a grant or a cancellation once, and of nothing else; a grant can be claimed once, and not
after it was revoked. Main statement: `one_outcome`.
-/

namespace CameraRelay

namespace Chronicle

theorem fate_unique {left : List (TicketId × Fate)} (once : (left.map (·.1)).Nodup)
    {ticket : TicketId} {fate other : Fate} (mem : (ticket, fate) ∈ left)
    (mem' : (ticket, other) ∈ left) : other = fate := by
  induction left with
  | nil => simp at mem
  | cons departure rest ih =>
    rw [List.map_cons, List.nodup_cons] at once
    have apart {first second : Fate} (here : (ticket, first) = departure) :
        (ticket, second) ∉ rest := by
      intro behind
      have left := List.mem_map_of_mem (f := Prod.fst) behind
      exact once.1 (by rw [← here]; exact left)
    rcases List.mem_cons.mp mem with here | behind
    · rcases List.mem_cons.mp mem' with here' | behind'
      · exact congrArg Prod.snd (here'.trans here.symm)
      · exact absurd behind' (apart here)
    · rcases List.mem_cons.mp mem' with here' | behind'
      · exact absurd behind (apart here')
      · exact ih once.2 behind behind'

end Chronicle

namespace Faithful

variable {chronicle : Chronicle} {admission : Admission}

theorem fate_unique (h : Faithful chronicle admission) {ticket : TicketId} {fate other : Fate}
    (mem : (ticket, fate) ∈ chronicle.left) (mem' : (ticket, other) ∈ chronicle.left) :
    other = fate :=
  Chronicle.fate_unique h.nodup_gone mem mem'

theorem waits_or_left (h : Faithful chronicle admission) {ticket : TicketId} (positive : 1 ≤ ticket)
    (issued : ticket ≤ admission.issued) :
    (ticket ∈ admission.line ∧ ∀ fate, (ticket, fate) ∉ chronicle.left) ∨
      (ticket ∉ admission.line ∧ ∃ fate, (ticket, fate) ∈ chronicle.left ∧
        ∀ other, (ticket, other) ∈ chronicle.left → other = fate) := by
  rcases (h.mem_iff ticket).mpr ⟨positive, issued⟩ with left | waits
  · right
    refine ⟨fun waits => h.not_gone waits left, ?_⟩
    obtain ⟨fate, mem⟩ := Chronicle.mem_gone.mp left
    exact ⟨fate, mem, fun other mem' => h.fate_unique mem mem'⟩
  · left
    exact ⟨waits, fun fate mem => h.not_gone waits (Chronicle.mem_gone.mpr ⟨fate, mem⟩)⟩

/-- A settlement can be read of a ticket that is held, left the line in a way that its waiter is
told of, and was not read before. -/
theorem mem_settlements (h : Faithful chronicle admission) (ticket : TicketId)
    (settlement : Settlement) :
    (ticket, settlement) ∈ admission.settlements ↔
      ticket ∈ admission.waiters ∧ ticket ∉ chronicle.read ∧
        ∃ fate, (ticket, fate) ∈ chronicle.left ∧ fate.settlement? = some settlement := by
  rw [h.settlements, List.mem_filter]
  simp only [Chronicle.settlements, List.mem_filterMap, Option.map_eq_some_iff, Prod.mk.injEq,
    decide_eq_true_eq]
  constructor
  · intro holds
    obtain ⟨⟨departure, mem, told, eq, rfl, rfl⟩, held, unread⟩ := holds
    exact ⟨held, unread, departure.2, mem, eq⟩
  · intro holds
    obtain ⟨held, unread, fate, mem, eq⟩ := holds
    exact ⟨⟨(ticket, fate), mem, settlement, eq, rfl, rfl⟩, held, unread⟩

theorem poll_eq_some (h : Faithful chronicle admission) (ticket : TicketId)
    (settlement : Settlement) :
    (admission.poll ticket).2 = some settlement ↔
      ticket ∈ admission.waiters ∧ ticket ∉ chronicle.read ∧
        ∃ fate, (ticket, fate) ∈ chronicle.left ∧ fate.settlement? = some settlement := by
  rw [← h.mem_settlements]
  constructor
  · exact mem_of_settlement?
  · intro mem
    cases told : admission.settlement? ticket with
    | none =>
      have differs := List.lookup_eq_none_iff.mp told _ mem
      simp at differs
    | some other =>
      -- Both settlements come from a fate of the ticket, and it has one.
      obtain ⟨_, _, fate, left, eq⟩ := (h.mem_settlements ..).mp mem
      obtain ⟨_, _, fate', left', eq'⟩ := (h.mem_settlements ..).mp (mem_of_settlement? told)
      rw [h.fate_unique left left', eq] at eq'
      exact told.trans eq'.symm

theorem claim_eq_true (h : Faithful chronicle admission) (ticket : TicketId) :
    (admission.claim ticket).2 = true ↔
      (ticket, .granted) ∈ chronicle.left ∧ ticket ∉ chronicle.claimed ∧
        ticket ∉ chronicle.revoked := by
  have found : (admission.claim ticket).2 = true ↔ ticket ∈ admission.granted.map (·.1) := by
    simp [Admission.claim]
  rw [found, h.grants, List.mem_filter, Chronicle.mem_granted, decide_eq_true_eq]

end Faithful

namespace Admission

/-! ### Why a ticket leaves the line -/

/-- What an operation must have been for a ticket to meet a fate. -/
def Justified (admission : Admission) (operation : Operation) (ticket : TicketId) : Fate → Prop
  | .granted =>
    ticket ∈ admission.waiters ∧
      (operation = .release ∨ ∃ requester, operation = .cancelRequester requester)
  | .cancelled =>
    operation = .cancelAll ∨
      ∃ entry ∈ admission.queue, entry.ticket = ticket ∧
        operation = .cancelRequester entry.requester
  | .expired => operation = .expire ticket
  | .removed =>
    ticket ∉ admission.waiters ∧
      (operation = .release ∨ (∃ requester, operation = .cancelRequester requester) ∨
        ∃ device requester, operation = .request device requester false)

theorem fate_of_passing (admission : Admission) (line : List Entry) {ticket : TicketId}
    {fate : Fate} (mem : (ticket, fate) ∈ admission.passing line) :
    (fate = .granted ∧ ticket ∈ admission.waiters) ∨
      (fate = .removed ∧ ticket ∉ admission.waiters) := by
  have along := along_line
    (P := fun log a => a.waiters = admission.waiters ∧ ∀ d ∈ log,
      (d.2 = .granted ∧ d.1 ∈ admission.waiters) ∨ (d.2 = .removed ∧ d.1 ∉ admission.waiters))
    [] admission ?granted ?removed line ⟨rfl, by simp⟩
  case granted =>
    intro log a entry rest _ _ held holds
    obtain ⟨same, known⟩ := holds
    rw [grant_of_awaited held]
    refine ⟨same, fun d mem => ?_⟩
    rcases List.mem_append.mp mem with old | new
    · exact known d old
    · rw [List.mem_singleton.mp new, ← same]
      exact .inl ⟨rfl, by simpa [isAwaited] using held⟩
  case removed =>
    intro log a entry rest _ _ unheld holds
    obtain ⟨same, known⟩ := holds
    refine ⟨same, fun d mem => ?_⟩
    rcases List.mem_append.mp mem with old | new
    · exact known d old
    · rw [List.mem_singleton.mp new, ← same]
      exact .inr ⟨rfl, by simpa [isAwaited] using unheld⟩
  exact along.2 _ mem

theorem fate_of_revoking {admission : Admission} {tickets : List TicketId} {ticket : TicketId}
    {fate : Fate} (mem : (ticket, fate) ∈ admission.revoking tickets) :
    (fate = .granted ∧ ticket ∈ admission.waiters) ∨
      (fate = .removed ∧ ticket ∉ admission.waiters) := by
  induction tickets generalizing admission with
  | nil => simp [revoking] at mem
  | cons first rest ih =>
    rcases List.mem_append.mp mem with now | later
    · exact fate_of_passing (admission.revoke first).handBack _ now
    · have known := ih later
      rwa [(frame_release _).waiters] at known

/-- Nobody leaves the line for no reason; whose waiter still holds the ticket leaves it by a grant,
a cancellation or at the deadline. -/
theorem justified_of_departures {admission : Admission} {operation : Operation} {ticket : TicketId}
    {fate : Fate} (mem : (ticket, fate) ∈ admission.departures operation) :
    admission.Justified operation ticket fate := by
  cases operation with
  | request device requester sessionExists =>
    simp only [departures] at mem
    split at mem
    · simp at mem
    · next waits =>
      obtain ⟨entry, unheld, eq⟩ := List.mem_map.mp mem
      obtain ⟨rfl, rfl⟩ := Prod.mk.inj eq
      have gone := (List.mem_filter.mp unheld).2
      have alone : sessionExists = false := by
        cases sessionExists with
        | true => exact absurd rfl waits
        | false => rfl
      refine ⟨by simpa [isAwaited] using gone, .inr (.inr ⟨device, requester, ?_⟩)⟩
      rw [alone]
  | release =>
    rcases fate_of_passing admission.handBack _ mem with ⟨rfl, held⟩ | ⟨rfl, unheld⟩
    · exact ⟨held, .inl rfl⟩
    · exact ⟨unheld, .inl rfl⟩
  | expire other =>
    obtain ⟨entry, own, eq⟩ := List.mem_map.mp mem
    obtain ⟨rfl, rfl⟩ := Prod.mk.inj eq
    have same : entry.ticket = other := by simpa using (List.mem_filter.mp own).2
    exact congrArg Operation.expire same.symm
  | cancelRequester requester =>
    rcases List.mem_append.mp mem with cancelled | served
    · obtain ⟨entry, own, eq⟩ := List.mem_map.mp cancelled
      obtain ⟨rfl, rfl⟩ := Prod.mk.inj eq
      obtain ⟨waits, same⟩ := List.mem_filter.mp own
      have same : entry.requester = requester := by simpa using same
      exact .inr ⟨entry, waits, rfl, by rw [same]⟩
    · rcases fate_of_revoking served with ⟨rfl, held⟩ | ⟨rfl, unheld⟩
      · exact ⟨held, .inr ⟨requester, rfl⟩⟩
      · exact ⟨unheld, .inr (.inl ⟨requester, rfl⟩)⟩
  | cancelAll =>
    obtain ⟨entry, _, eq⟩ := List.mem_map.mp mem
    obtain ⟨rfl, rfl⟩ := Prod.mk.inj eq
    exact .inl rfl
  | claim other => simp [departures] at mem
  | position other => simp [departures] at mem
  | poll other => simp [departures] at mem
  | abandon other => simp [departures] at mem

/-! ### What happens in a history -/

theorem claimed_events (admission : Admission) (operation : Operation) (ticket : TicketId) :
    ticket ∈ (admission.events operation).claimed ↔
      operation = .claim ticket ∧ (admission.claim ticket).2 = true := by
  cases operation with
  | claim other =>
    cases found : (admission.claim other).2 with
    | true =>
      simp only [events, act, found, List.mem_singleton, Operation.claim.injEq]
      constructor
      · intro same
        obtain rfl := same
        exact ⟨rfl, found⟩
      · intro holds
        obtain ⟨rfl, _⟩ := holds
        rfl
    | false =>
      simp only [events, act, found, Operation.claim.injEq]
      constructor
      · intro mem
        cases mem
      · intro holds
        obtain ⟨rfl, claimed⟩ := holds
        rw [found] at claimed
        cases claimed
  | _ => simp [events]

theorem read_events (admission : Admission) (operation : Operation) (ticket : TicketId) :
    ticket ∈ (admission.events operation).read ↔
      operation = .poll ticket ∧ (admission.poll ticket).2 ≠ none := by
  cases operation with
  | poll other =>
    cases told : (admission.poll other).2 with
    | some settlement =>
      simp only [events, act, told, List.mem_singleton, Operation.poll.injEq]
      constructor
      · intro same
        obtain rfl := same
        refine ⟨rfl, ?_⟩
        rw [told]
        simp
      · intro holds
        obtain ⟨rfl, _⟩ := holds
        rfl
    | none =>
      simp only [events, act, told, Operation.poll.injEq]
      constructor
      · intro mem
        cases mem
      · intro holds
        obtain ⟨rfl, read⟩ := holds
        exact absurd told read
  | _ => simp [events]

theorem revoked_events (admission : Admission) (operation : Operation) (ticket : TicketId) :
    ticket ∈ (admission.events operation).revoked ↔
      ∃ requester, (ticket, requester) ∈ admission.granted ∧
        (operation = .cancelRequester requester ∨ operation = .cancelAll) := by
  cases operation with
  | cancelRequester requester => simp [events, grantsOf]
  | cancelAll => simp [events]
  | _ => simp [events]

theorem mem_chronicle (field : Chronicle → List TicketId)
    (append : ∀ before after, field (before ++ after) = field before ++ field after)
    (empty : field {} = []) (admission : Admission) (operations : List Operation)
    (ticket : TicketId) :
    ticket ∈ field (admission.chronicle operations) ↔
      ∃ earlier operation later, operations = earlier ++ operation :: later ∧
        ticket ∈ field ((admission.run earlier).events operation) := by
  induction operations generalizing admission with
  | nil => simp [chronicle, empty]
  | cons first rest ih =>
    rw [chronicle, append, List.mem_append, ih]
    constructor
    · intro either
      rcases either with now | ⟨earlier, operation, later, rfl, mem⟩
      · exact ⟨[], first, rest, rfl, now⟩
      · exact ⟨first :: earlier, operation, later, rfl, mem⟩
    · intro holds
      obtain ⟨earlier, operation, later, split, mem⟩ := holds
      cases earlier with
      | nil =>
        obtain ⟨rfl, rfl⟩ := List.cons.inj split
        exact .inl mem
      | cons _ earlier =>
        obtain ⟨rfl, rfl⟩ := List.cons.inj split
        exact .inr ⟨earlier, operation, later, rfl, mem⟩

theorem mem_claimed (admission : Admission) (operations : List Operation) (ticket : TicketId) :
    ticket ∈ (admission.chronicle operations).claimed ↔
      ∃ earlier later, operations = earlier ++ .claim ticket :: later ∧
        ((admission.run earlier).claim ticket).2 = true := by
  rw [mem_chronicle (·.claimed) Chronicle.claimed_append rfl]
  simp only [claimed_events]
  constructor
  · intro holds
    obtain ⟨earlier, _, later, split, rfl, found⟩ := holds
    exact ⟨earlier, later, split, found⟩
  · intro holds
    obtain ⟨earlier, later, split, found⟩ := holds
    exact ⟨earlier, _, later, split, rfl, found⟩

theorem mem_read (admission : Admission) (operations : List Operation) (ticket : TicketId) :
    ticket ∈ (admission.chronicle operations).read ↔
      ∃ earlier later, operations = earlier ++ .poll ticket :: later ∧
        ((admission.run earlier).poll ticket).2 ≠ none := by
  rw [mem_chronicle (·.read) Chronicle.read_append rfl]
  simp only [read_events]
  constructor
  · intro holds
    obtain ⟨earlier, _, later, split, rfl, found⟩ := holds
    exact ⟨earlier, later, split, found⟩
  · intro holds
    obtain ⟨earlier, later, split, found⟩ := holds
    exact ⟨earlier, _, later, split, rfl, found⟩

theorem mem_revoked (admission : Admission) (operations : List Operation) (ticket : TicketId) :
    ticket ∈ (admission.chronicle operations).revoked ↔
      ∃ earlier operation later requester, operations = earlier ++ operation :: later ∧
        (ticket, requester) ∈ (admission.run earlier).granted ∧
          (operation = .cancelRequester requester ∨ operation = .cancelAll) := by
  rw [mem_chronicle (·.revoked) Chronicle.revoked_append rfl]
  simp only [revoked_events]
  constructor
  · intro holds
    obtain ⟨earlier, operation, later, split, requester, mem, cancels⟩ := holds
    exact ⟨earlier, operation, later, requester, split, mem, cancels⟩
  · intro holds
    obtain ⟨earlier, operation, later, requester, split, mem, cancels⟩ := holds
    exact ⟨earlier, operation, later, split, requester, mem, cancels⟩

theorem left_chronicle_append (admission : Admission) (first second : List Operation)
    {departure : TicketId × Fate} (mem : departure ∈ (admission.chronicle first).left) :
    departure ∈ (admission.chronicle (first ++ second)).left := by
  rw [chronicle_append]
  exact List.mem_append_left _ mem

theorem departs {chronicle : Chronicle} {admission : Admission} (h : Faithful chronicle admission)
    (operation : Operation) {ticket : TicketId} (waits : ticket ∈ admission.line)
    (left : ticket ∉ (admission.act operation).1.line) :
    ∃ fate, (ticket, fate) ∈ admission.departures operation := by
  have issued := (h.mem_iff ticket).mp (.inr waits)
  have after := h.act operation
  have still : ticket ≤ (admission.act operation).1.issued :=
    Nat.le_trans issued.2 (issued_act admission operation)
  rcases (after.mem_iff ticket).mpr ⟨issued.1, still⟩ with gone | waits'
  · rw [Chronicle.gone_append, List.mem_append] at gone
    exact Chronicle.mem_gone.mp (gone.resolve_left (h.not_gone waits))
  · exact absurd waits' left

/-- Every ticket has one outcome, its waiter is told of it once, and a grant is taken over at most
once. -/
theorem one_outcome (capacity : Nat) (operations : List Operation) :
    let admission := (new capacity).run operations
    let chronicle := (new capacity).chronicle operations
    -- A ticket that was issued waits, or has left the line with one fate.
    (∀ ticket, 1 ≤ ticket → ticket ≤ admission.issued →
      (ticket ∈ admission.line ∧ ∀ fate, (ticket, fate) ∉ chronicle.left) ∨
        (ticket ∉ admission.line ∧ ∃ fate, (ticket, fate) ∈ chronicle.left ∧
          ∀ other, (ticket, other) ∈ chronicle.left → other = fate)) ∧
    -- Whatever happens later, it does not come back, and its fate does not change.
    (∀ ticket fate more, (ticket, fate) ∈ chronicle.left →
      ticket ∉ (admission.run more).line ∧
        ∀ other, (ticket, other) ∈ ((new capacity).chronicle (operations ++ more)).left ↔
          other = fate) ∧
    -- Who leaves the line has a reason; the waiter of who is just removed was gone.
    (∀ operation ticket, ticket ∈ admission.line → ticket ∉ (admission.act operation).1.line →
      ∃ fate, (ticket, fate) ∈ admission.departures operation) ∧
    (∀ operation ticket fate, (ticket, fate) ∈ admission.departures operation →
      admission.Justified operation ticket fate) ∧
    -- A waiter reads what became of its ticket, once.
    (∀ ticket settlement, (admission.poll ticket).2 = some settlement ↔
      ticket ∈ admission.waiters ∧ ticket ∉ chronicle.read ∧
        ∃ fate, (ticket, fate) ∈ chronicle.left ∧ fate.settlement? = some settlement) ∧
    (∀ ticket, ticket ∈ chronicle.read ↔
      ∃ earlier later, operations = earlier ++ .poll ticket :: later ∧
        (((new capacity).run earlier).poll ticket).2 ≠ none) ∧
    -- What was granted can be claimed, once, unless it was revoked before.
    (∀ ticket, (admission.claim ticket).2 = true ↔
      (ticket, .granted) ∈ chronicle.left ∧ ticket ∉ chronicle.claimed ∧
        ticket ∉ chronicle.revoked) ∧
    (∀ ticket, ticket ∈ chronicle.claimed ↔
      ∃ earlier later, operations = earlier ++ .claim ticket :: later ∧
        (((new capacity).run earlier).claim ticket).2 = true) ∧
    (∀ ticket, ticket ∈ chronicle.revoked ↔
      ∃ earlier operation later requester, operations = earlier ++ operation :: later ∧
        (ticket, requester) ∈ ((new capacity).run earlier).granted ∧
          (operation = .cancelRequester requester ∨ operation = .cancelAll)) := by
  intro admission chronicle
  have faithful : Faithful chronicle admission := faithful_run capacity operations
  refine ⟨fun ticket => faithful.waits_or_left, ?_, ?_, ?_, faithful.poll_eq_some,
    mem_read _ operations, faithful.claim_eq_true, mem_claimed _ operations,
    mem_revoked _ operations⟩
  · intro ticket fate more mem
    have later := faithful_run capacity (operations ++ more)
    have still := left_chronicle_append (new capacity) operations more mem
    refine ⟨fun waits => ?_, fun other => ⟨fun mem' => later.fate_unique still mem', ?_⟩⟩
    · rw [run_append] at later
      exact later.not_gone waits (Chronicle.mem_gone.mpr ⟨fate, still⟩)
    · intro same
      obtain rfl := same
      exact still
  · intro operation ticket waits left
    exact departs faithful operation waits left
  · intro operation ticket fate mem
    exact justified_of_departures mem

end Admission

end CameraRelay
