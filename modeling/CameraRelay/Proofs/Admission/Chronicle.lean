import CameraRelay.Admission.Operation

/-!
# The chronicle of a line

What happens to tickets over a history of admission: in which order they leave the line and what
becomes of each, which grants are claimed, which are revoked, and which settlements are read. The
chronicle is read off the states and operations of a history; admission itself keeps none of it.
Main statement: `along_line`, the rule by which a property is carried along the line while slots
are granted.
-/

namespace CameraRelay

/-- What becomes of a ticket that leaves the line. -/
inductive Fate where
  | granted
  | cancelled
  | expired
  /-- Its waiter had let go of it before. -/
  | removed
deriving DecidableEq

def Fate.settlement? : Fate → Option Settlement
  | granted => some .granted
  | cancelled => some .cancelled
  | expired => none
  | removed => none

/-- What happened to tickets, each list in the order of the events. -/
structure Chronicle where
  left : List (TicketId × Fate) := []
  claimed : List TicketId := []
  revoked : List TicketId := []
  read : List TicketId := []

namespace Chronicle

def append (before after : Chronicle) : Chronicle where
  left := before.left ++ after.left
  claimed := before.claimed ++ after.claimed
  revoked := before.revoked ++ after.revoked
  read := before.read ++ after.read

instance : Append Chronicle := ⟨append⟩

@[simp] theorem left_append (before after : Chronicle) :
    (before ++ after).left = before.left ++ after.left := rfl

@[simp] theorem claimed_append (before after : Chronicle) :
    (before ++ after).claimed = before.claimed ++ after.claimed := rfl

@[simp] theorem revoked_append (before after : Chronicle) :
    (before ++ after).revoked = before.revoked ++ after.revoked := rfl

@[simp] theorem read_append (before after : Chronicle) :
    (before ++ after).read = before.read ++ after.read := rfl

theorem append_empty (chronicle : Chronicle) : chronicle ++ ({} : Chronicle) = chronicle := by
  change append chronicle {} = chronicle
  simp [append]

theorem append_assoc (a b c : Chronicle) : a ++ b ++ c = a ++ (b ++ c) := by
  change append (append a b) c = append a (append b c)
  simp [append]

def gone (chronicle : Chronicle) : List TicketId := chronicle.left.map (·.1)

def granted (chronicle : Chronicle) : List TicketId :=
  (chronicle.left.filter fun d => d.2 = .granted).map (·.1)

def settlements (chronicle : Chronicle) : List (TicketId × Settlement) :=
  chronicle.left.filterMap fun d => d.2.settlement?.map (d.1, ·)

@[simp] theorem gone_append (before after : Chronicle) :
    (before ++ after).gone = before.gone ++ after.gone := by
  simp [gone]

end Chronicle

namespace Admission

def line (admission : Admission) : List TicketId := admission.queue.map (·.ticket)

/-! ### Operations in parts -/

/-- A slot is given back and nothing is granted yet. -/
def handBack (admission : Admission) : Admission :=
  { admission with
    active := admission.active - 1
    counters.unheldReleases :=
      admission.counters.unheldReleases + (if admission.active = 0 then 1 else 0) }

def revoke (admission : Admission) (ticket : TicketId) : Admission :=
  { admission with granted := admission.granted.filter fun g => g.1 != ticket }

theorem revokeAll_cons (admission : Admission) (ticket : TicketId) (rest : List TicketId) :
    admission.revokeAll (ticket :: rest) = (admission.revoke ticket).release.1.revokeAll rest := rfl

theorem claim_fst (admission : Admission) (ticket : TicketId) :
    (admission.claim ticket).1 = admission.revoke ticket := rfl

theorem foldl_settle (admission : Admission) (entries : List Entry) (settlement : Settlement) :
    entries.foldl (fun a e => a.settle e settlement) admission =
      { admission with
        settlements := admission.settlements ++
          (entries.filter admission.isAwaited).map fun e => (e.ticket, settlement) } := by
  induction entries generalizing admission with
  | nil => simp
  | cons entry rest ih =>
    rw [List.foldl_cons, ih]
    by_cases held : admission.isAwaited entry = true
    · have settled : admission.settle entry settlement =
          { admission with
            settlements := admission.settlements ++ [(entry.ticket, settlement)] } := by
        simp only [settle, held, if_true]
      have same : ({ admission with
          settlements := admission.settlements ++ [(entry.ticket, settlement)] } :
            Admission).isAwaited = admission.isAwaited := rfl
      rw [settled, same, List.filter_cons_of_pos held, List.map_cons, List.append_assoc]
      rfl
    · have settled : admission.settle entry settlement = admission := by
        simp only [settle, held]
        rfl
      rw [settled, List.filter_cons_of_neg held]

/-- Some entries are out of the line, and those who wait for them are told that they are
cancelled. -/
def withdraw (admission : Admission) (entries others : List Entry) : Admission :=
  { admission with
    queue := others
    settlements := admission.settlements ++
      (entries.filter admission.isAwaited).map fun e => (e.ticket, Settlement.cancelled) }

def grantsOf (admission : Admission) (requester : SubscriberId) : List TicketId :=
  (admission.granted.filter fun g => g.2 == requester).map (·.1)

def withoutEntriesOf (admission : Admission) (requester : SubscriberId) : Admission :=
  admission.withdraw (admission.queue.filter fun e => e.requester == requester)
    (admission.queue.filter fun e => !(e.requester == requester))

/-- The state behind a cancelled requester, but for the count of cancelled requests. -/
def withoutRequester (admission : Admission) (requester : SubscriberId) : Admission :=
  (admission.withoutEntriesOf requester).revokeAll (admission.grantsOf requester)

theorem cancelRequester_eq (admission : Admission) (requester : SubscriberId) :
    (admission.cancelRequester requester).1 =
      { admission.withoutRequester requester with
        counters.cancelled :=
          (admission.withoutRequester requester).counters.cancelled +
            ((admission.queue.filter fun e => e.requester == requester).length +
              (admission.grantsOf requester).length) } := by
  simp only [cancelRequester, List.partition_eq_filter_filter, foldl_settle]
  rfl

theorem cancelRequester_fst (admission : Admission) (requester : SubscriberId) :
    ∃ count, (admission.cancelRequester requester).1 =
      { admission.withoutRequester requester with
        counters.cancelled :=
          (admission.withoutRequester requester).counters.cancelled + count } :=
  ⟨_, admission.cancelRequester_eq requester⟩

theorem cancelAll_eq (admission : Admission) :
    admission.cancelAll.1 =
      { admission.withdraw admission.queue [] with
        granted := []
        active := admission.active - admission.granted.length
        counters.cancelled := admission.counters.cancelled +
          (admission.queue.length + admission.granted.length) } := by
  simp only [cancelAll, foldl_settle]
  rfl

theorem cancelAll_fst (admission : Admission) :
    ∃ count, admission.cancelAll.1 =
      { admission.withdraw admission.queue [] with
        granted := []
        active := admission.active - admission.granted.length
        counters.cancelled := admission.counters.cancelled + count } :=
  ⟨_, admission.cancelAll_eq⟩

/-! ### What an operation does to tickets -/

/-- The entries of a line that free slots reach, with what becomes of each. -/
def passing (admission : Admission) : List Entry → List (TicketId × Fate)
  | [] => []
  | entry :: rest =>
    if admission.active < admission.capacity then
      if admission.isAwaited entry then
        (entry.ticket, .granted) :: (admission.grant entry).passing rest
      else (entry.ticket, .removed) :: admission.passing rest
    else []

def releasing (admission : Admission) : List (TicketId × Fate) :=
  admission.handBack.passing admission.queue

def revoking (admission : Admission) : List TicketId → List (TicketId × Fate)
  | [] => []
  | ticket :: rest =>
    (admission.revoke ticket).releasing ++ (admission.revoke ticket).release.1.revoking rest

/-- Who leaves the line in an operation, in this order, and what becomes of each. -/
def departures (admission : Admission) : Operation → List (TicketId × Fate)
  | .request _ _ sessionExists =>
    if sessionExists || decide (admission.active < admission.capacity) then []
    else (admission.queue.filter fun e => !admission.isAwaited e).map fun e => (e.ticket, .removed)
  | .release => admission.releasing
  | .expire ticket =>
    (admission.queue.filter fun e => e.ticket == ticket).map fun e => (e.ticket, .expired)
  | .cancelRequester requester =>
    ((admission.queue.filter fun e => e.requester == requester).map fun e =>
      (e.ticket, .cancelled)) ++
    (admission.withoutEntriesOf requester).revoking (admission.grantsOf requester)
  | .cancelAll => admission.queue.map fun e => (e.ticket, .cancelled)
  | _ => []

/-- What an operation does to tickets. A claim takes a grant over, and a look reads a settlement,
if the answer says so. -/
def events (admission : Admission) (operation : Operation) : Chronicle where
  left := admission.departures operation
  claimed :=
    match operation, (admission.act operation).2 with
    | .claim ticket, .found true => [ticket]
    | _, _ => []
  revoked :=
    match operation with
    | .cancelRequester requester => admission.grantsOf requester
    | .cancelAll => admission.granted.map (·.1)
    | _ => []
  read :=
    match operation, (admission.act operation).2 with
    | .poll ticket, .settlement (some _) => [ticket]
    | _, _ => []

def chronicle (admission : Admission) : List Operation → Chronicle
  | [] => {}
  | operation :: rest =>
    admission.events operation ++ (admission.act operation).1.chronicle rest

@[simp] theorem run_append (admission : Admission) (first second : List Operation) :
    admission.run (first ++ second) = (admission.run first).run second := by
  simp [run]

theorem chronicle_append (admission : Admission) (first second : List Operation) :
    admission.chronicle (first ++ second) =
      admission.chronicle first ++ (admission.run first).chronicle second := by
  induction first generalizing admission with
  | nil => rfl
  | cons operation rest ih =>
    simp only [List.cons_append, chronicle, ih, Chronicle.append_assoc]
    rfl

/-! ### Along the line -/

theorem grant_of_awaited {admission : Admission} {entry : Entry}
    (held : admission.isAwaited entry = true) :
    admission.grant entry =
      { admission with
        active := admission.active + 1
        granted := admission.granted ++ [(entry.ticket, entry.requester)]
        settlements := admission.settlements ++ [(entry.ticket, .granted)]
        counters.granted := admission.counters.granted + 1 } := by
  simp only [grant, settle, held, if_true]

section

-- `P` speaks of who left the line so far and of the state that this led to.
variable {P : List (TicketId × Fate) → Admission → Prop}

/-- What holds with the line as it is, and is kept when the head of the line is granted a slot or
passed over, holds when free slots were granted along the line. -/
theorem along_line (log : List (TicketId × Fate)) (admission : Admission)
    (granted : ∀ log admission entry rest, admission.queue = entry :: rest →
      admission.active < admission.capacity → admission.isAwaited entry = true →
      P log admission →
      P (log ++ [(entry.ticket, .granted)]) { admission.grant entry with queue := rest })
    (removed : ∀ log admission entry rest, admission.queue = entry :: rest →
      admission.active < admission.capacity → admission.isAwaited entry = false →
      P log admission →
      P (log ++ [(entry.ticket, .removed)]) { admission with queue := rest })
    (line : List Entry) (start : P log { admission with queue := line }) :
    P (log ++ admission.passing line) (admission.grantAlong line).1 := by
  induction line generalizing log admission with
  | nil => simpa [passing, grantAlong] using start
  | cons entry rest ih =>
    by_cases free : admission.active < admission.capacity
    · by_cases held : admission.isAwaited entry = true
      · have next := granted log { admission with queue := entry :: rest } entry rest rfl free held
          start
        rw [grant_of_awaited (by exact held)] at next
        have after := ih (log ++ [(entry.ticket, .granted)]) (admission.grant entry)
          (by rw [grant_of_awaited held]; exact next)
        simpa [passing, grantAlong, free, held] using after
      · have unheld : admission.isAwaited entry = false := by simpa using held
        have next := removed log { admission with queue := entry :: rest } entry rest rfl free
          unheld start
        have after := ih (log ++ [(entry.ticket, .removed)]) admission next
        simpa [passing, grantAlong, free, unheld] using after
    · simpa [passing, grantAlong, free] using start

end

end Admission

end CameraRelay
