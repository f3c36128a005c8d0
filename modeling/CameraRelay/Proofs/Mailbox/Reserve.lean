import CameraRelay.Proofs.Mailboxes

/-!
# The order of a mailbox and its reserve

A mailbox gives out what it took in, in order and once, and holds no more than its buffer and the
reserve. Frames are only ever put on the places of the buffer, and what is received moves the rest
forward, so the reserve holds control events alone: a control event finds no room only if as many
control events are in its way. Main statement: `in_order_with_reserve`.
-/

namespace CameraRelay

namespace Mailbox

/-- What is done with a mailbox: events are delivered to it, and its client receives, closes it or
drops it. -/
inductive Operation where
  | deliver (event : Event)
  | receive
  | close
  | drop
deriving DecidableEq

/-- A mailbox, with what became of the events that were delivered to it. -/
structure Ledger where
  box : Mailbox
  accepted : List Event := []
  received : List Event := []
  /-- What was still queued when the client dropped the mailbox. -/
  discarded : List Event := []

namespace Ledger

def act (ledger : Ledger) : Operation → Ledger
  | .deliver event =>
    { ledger with
      box := (ledger.box.deliver event).1
      accepted :=
        ledger.accepted ++ if (ledger.box.deliver event).2 = .sent then [event] else [] }
  | .receive =>
    { ledger with
      box := ledger.box.receive.1
      received := ledger.received ++ ledger.box.receive.2.toList }
  | .close => { ledger with box := ledger.box.close }
  | .drop =>
    { ledger with
      box := ledger.box.drop
      discarded := ledger.discarded ++ ledger.box.queue }

def run (ledger : Ledger) (operations : List Operation) : Ledger :=
  operations.foldl act ledger

end Ledger

variable (box : Mailbox) (event : Event)

/-! ### What is received -/

theorem receive_of_nil (empty : box.queue = []) : box.receive = (box, none) := by
  obtain ⟨buffer, queue, reception⟩ := box
  obtain rfl : queue = [] := empty
  rfl

theorem receive_of_cons {rest : List Event} (queue : box.queue = event :: rest) :
    box.receive = ({ box with queue := rest }, some event) := by
  simp [receive, receiveMany, queue]

theorem reception_receive : box.receive.1.reception = box.reception := rfl

/-- To receive many events is to receive one and then the others. -/
theorem receiveMany_succ (count : Nat) :
    box.receiveMany (count + 1) =
      ((box.receive.1.receiveMany count).1,
        box.receive.2.toList ++ (box.receive.1.receiveMany count).2) := by
  cases queue : box.queue with
  | nil =>
    rw [box.receive_of_nil queue]
    simp [receiveMany, queue]
  | cons event rest =>
    rw [box.receive_of_cons event queue]
    simp [receiveMany, queue]

/-! ### One delivery -/

theorem answer_eq : (box.deliver event).2 = box.verdict event := by
  rw [deliver_eq]
  split <;> simp [*]

/-- Nothing of a mailbox changes but that an event is put in behind the others, if it is. -/
theorem deliver_fst : (box.deliver event).1 =
    { box with
      queue := box.queue ++ if (box.deliver event).2 = .sent then [event] else [] } := by
  rw [answer_eq, deliver_eq]
  split
  · next sent => rw [sent, if_pos rfl]
  · next refused => rw [if_neg refused, List.append_nil]

theorem answer_eq_closed : (box.deliver event).2 = .closed ↔ box.isClosed = true := by
  rw [answer_eq, verdict]
  by_cases closed : box.isClosed = true
  · simp [closed]
  · rw [if_neg closed]
    by_cases room : (if event.isFrame then controlReserve else 0) < box.free <;>
      simp [closed, room]

theorem answer_eq_sent : (box.deliver event).2 = .sent ↔
    box.isClosed = false ∧
      box.queue.length < box.buffer + if event.isFrame then 0 else controlReserve := by
  rw [answer_eq, verdict]
  have room : (if event.isFrame then controlReserve else 0) < box.free ↔
      box.queue.length < box.buffer + if event.isFrame then 0 else controlReserve := by
    unfold free capacity
    split <;> omega
  rw [← room]
  by_cases closed : box.isClosed = true
  · simp [closed]
  · rw [if_neg closed]
    by_cases free : (if event.isFrame then controlReserve else 0) < box.free <;>
      simp [closed, free]

end Mailbox

/-! ### Whatever is done with it -/

namespace Mailbox.Ledger

/-- A client that takes many events at once receives them one by one. -/
theorem run_receive (ledger : Ledger) (count : Nat) :
    ledger.run (List.replicate count .receive) =
      { ledger with
        box := (ledger.box.receiveMany count).1
        received := ledger.received ++ (ledger.box.receiveMany count).2 } := by
  induction count generalizing ledger with
  | zero => simp [run, receiveMany]
  | succ count ih =>
    have later : (ledger.act .receive).run (List.replicate count .receive) = _ := ih _
    rw [receiveMany_succ, ← List.append_assoc]
    exact later

/-- How things stand with a mailbox of some buffer, whatever was done with it. -/
structure Ordered (buffer : Nat) (ledger : Ledger) : Prop where
  size : ledger.box.buffer = buffer
  account : ledger.received ++ ledger.discarded ++ ledger.box.queue = ledger.accepted
  bound : ledger.box.queue.length ≤ buffer + controlReserve
  /-- Frames stand on the places of the buffer, counted from the head of the queue. -/
  reserve : ∀ event ∈ ledger.box.queue.drop buffer, event.isFrame = false
  dropped : ledger.box.reception = .gone → ledger.box.queue = []
  kept : ledger.box.reception ≠ .gone → ledger.discarded = []

variable {buffer : Nat} {ledger : Ledger}

theorem ordered_new (buffer : Nat) : Ordered (max buffer 1) { box := .new buffer } where
  size := rfl
  account := rfl
  bound := Nat.zero_le _
  reserve := by simp [Mailbox.new]
  dropped := fun _ => rfl
  kept := fun _ => rfl

namespace Ordered

theorem deliver (h : ledger.Ordered buffer) (event : Event) :
    (ledger.act (.deliver event)).Ordered buffer := by
  have box := ledger.box.deliver_fst event
  by_cases sent : (ledger.box.deliver event).2 = .sent
  · obtain ⟨opened, room⟩ := (ledger.box.answer_eq_sent event).mp sent
    have stays : ledger.box.reception ≠ .gone := by
      intro gone
      simp [isClosed, gone] at opened
    have put : ledger.act (.deliver event) =
        { ledger with
          box := { ledger.box with queue := ledger.box.queue ++ [event] }
          accepted := ledger.accepted ++ [event] } := by
      rw [if_pos sent] at box
      simp only [act, box, if_pos sent]
    rw [h.size] at room
    rw [put]
    constructor
    · exact h.size
    · show ledger.received ++ ledger.discarded ++ (ledger.box.queue ++ [event]) = _
      rw [← List.append_assoc, h.account]
    · show (ledger.box.queue ++ [event]).length ≤ _
      rw [List.length_append, List.length_singleton]
      split at room <;> omega
    · intro e mem
      rw [List.drop_append] at mem
      rcases List.mem_append.mp mem with before | last
      · exact h.reserve e before
      · -- Behind the buffer there is room for control events only.
        obtain rfl := List.mem_singleton.mp (List.mem_of_mem_drop last)
        cases frame : e.isFrame with
        | false => rfl
        | true =>
          rw [frame, if_pos rfl, Nat.add_zero] at room
          have early : 1 ≤ buffer - ledger.box.queue.length := by omega
          rw [List.drop_eq_nil_of_le early] at last
          cases last
    · exact fun gone => absurd gone stays
    · exact h.kept
  · have idle : ledger.act (.deliver event) = ledger := by
      rw [if_neg sent, List.append_nil] at box
      simp only [act, box, if_neg sent, List.append_nil]
    rwa [idle]

theorem receive (h : ledger.Ordered buffer) : (ledger.act .receive).Ordered buffer := by
  cases queue : ledger.box.queue with
  | nil =>
    have idle : ledger.act .receive = ledger := by simp [act, receive_of_nil _ queue]
    rwa [idle]
  | cons event rest =>
    have stays : ledger.box.reception ≠ .gone := by
      intro gone
      rw [h.dropped gone] at queue
      cases queue
    have taken : ledger.act .receive =
        { ledger with
          box := { ledger.box with queue := rest }
          received := ledger.received ++ [event] } := by
      simp [act, receive_of_cons _ _ queue]
    have account := h.account
    have bound := h.bound
    have reserve := h.reserve
    rw [queue] at account bound reserve
    rw [h.kept stays, List.append_nil] at account
    rw [taken]
    constructor
    · exact h.size
    · show ledger.received ++ [event] ++ ledger.discarded ++ rest = ledger.accepted
      rw [h.kept stays, List.append_nil, List.append_assoc]
      exact account
    · rw [List.length_cons] at bound
      exact Nat.le_of_succ_le bound
    · -- Everything behind the head moves one place forward.
      intro e mem
      refine reserve e ?_
      have later : rest.drop buffer = (event :: rest).drop (buffer + 1) := rfl
      rw [later, ← List.drop_drop] at mem
      exact List.mem_of_mem_drop mem
    · exact fun gone => absurd gone stays
    · exact h.kept

theorem close (h : ledger.Ordered buffer) : (ledger.act .close).Ordered buffer := by
  cases reception : ledger.box.reception with
  | receiving =>
    have closed : ledger.act .close =
        { ledger with box := { ledger.box with reception := .closed } } := by
      simp [act, Mailbox.close, reception]
    rw [closed]
    have kept := h.kept (by simp [reception])
    exact ⟨h.size, h.account, h.bound, h.reserve, fun gone => (by cases gone), fun _ => kept⟩
  | closed =>
    have idle : ledger.act .close = ledger := by simp [act, Mailbox.close, reception]
    rwa [idle]
  | gone =>
    have idle : ledger.act .close = ledger := by simp [act, Mailbox.close, reception]
    rwa [idle]

theorem drop (h : ledger.Ordered buffer) : (ledger.act .drop).Ordered buffer where
  size := h.size
  account := by
    show ledger.received ++ (ledger.discarded ++ ledger.box.queue) ++ [] = ledger.accepted
    rw [List.append_nil, ← List.append_assoc, h.account]
  bound := Nat.zero_le _
  reserve := by simp [act, Mailbox.drop]
  dropped := fun _ => rfl
  kept := fun stays => absurd rfl stays

theorem act (h : ledger.Ordered buffer) (operation : Operation) :
    (ledger.act operation).Ordered buffer := by
  cases operation with
  | deliver event => exact h.deliver event
  | receive => exact h.receive
  | close => exact h.close
  | drop => exact h.drop

theorem run (h : ledger.Ordered buffer) (operations : List Operation) :
    (ledger.run operations).Ordered buffer := by
  induction operations generalizing ledger with
  | nil => exact h
  | cons operation rest ih => exact ih (h.act operation)

end Ordered

theorem isClosed_act (ledger : Ledger) (operation : Operation) :
    (ledger.act operation).box.isClosed = true ↔
      ledger.box.isClosed = true ∨ operation = .close ∨ operation = .drop := by
  cases operation with
  | deliver event => simp [Ledger.act, isClosed_deliver]
  | receive => simp [Ledger.act, isClosed, reception_receive]
  | close =>
    have closed : ledger.box.close.isClosed = true := by
      cases reception : ledger.box.reception <;> simp [Mailbox.close, isClosed, reception]
    simp [Ledger.act, closed]
  | drop => simp [Ledger.act, Mailbox.drop, isClosed]

theorem isClosed_run (ledger : Ledger) (operations : List Operation) :
    (ledger.run operations).box.isClosed = true ↔
      ledger.box.isClosed = true ∨ .close ∈ operations ∨ .drop ∈ operations := by
  induction operations generalizing ledger with
  | nil => simp [run]
  | cons operation rest ih =>
    show ((ledger.act operation).run rest).box.isClosed = true ↔ _
    rw [ih, isClosed_act, List.mem_cons, List.mem_cons, @eq_comm _ operation, @eq_comm _ operation]
    simp only [or_assoc, or_left_comm]

theorem gone_of_run {operations : List Operation} (there : ledger.box.reception ≠ .gone)
    (gone : (ledger.run operations).box.reception = .gone) : .drop ∈ operations := by
  induction operations generalizing ledger with
  | nil => exact absurd gone there
  | cons operation rest ih =>
    by_cases dropped : operation = .drop
    · simp [dropped]
    · refine List.mem_cons_of_mem _ (ih ?_ gone)
      cases operation with
      | deliver event =>
        show (ledger.box.deliver event).1.reception ≠ .gone
        rw [deliver_fst]
        exact there
      | receive =>
        show ledger.box.receive.1.reception ≠ .gone
        rw [reception_receive]
        exact there
      | close =>
        cases reception : ledger.box.reception with
        | gone => exact absurd reception there
        | _ => simp [Ledger.act, Mailbox.close, reception]
      | drop => exact absurd rfl dropped

/-- Whatever was done with a new mailbox, in any order. What was received, what was thrown away with
the mailbox if its client dropped it, and what is still queued are, one after the other, what was
accepted. Of the next event it is decided by the room there is whether it is accepted, unless the
client closed or dropped the mailbox; and if a control event finds no room, the last four events in
the queue are control events. -/
theorem in_order_with_reserve (buffer : Nat) (operations : List Operation) (event : Event) :
    let slots := max buffer 1
    let ledger := Ledger.run { box := .new buffer } operations
    let box := ledger.box
    let answer := (box.deliver event).2
    let listens := .close ∉ operations ∧ .drop ∉ operations
    ledger.received ++ ledger.discarded ++ box.queue = ledger.accepted ∧
    (.drop ∉ operations → ledger.discarded = []) ∧
    box.queue.length ≤ slots + 4 ∧
    (event.isFrame = true → (answer = .sent ↔ listens ∧ box.queue.length < slots)) ∧
    (event.isFrame = false → (answer = .sent ↔ listens ∧ box.queue.length < slots + 4)) ∧
    (answer = .closed ↔ ¬ listens) ∧
    (box.deliver event).1.queue = box.queue ++ (if answer = .sent then [event] else []) ∧
    (event.isFrame = false → answer = .dropped →
      (box.queue.drop (box.queue.length - 4)).length = 4 ∧
        ∀ last ∈ box.queue.drop (box.queue.length - 4), last.isFrame = false) := by
  intro slots ledger box answer listens
  have ordered : ledger.Ordered slots := (ordered_new buffer).run operations
  have closed : box.isClosed = true ↔ ¬ listens := by
    have history := isClosed_run { box := .new buffer } operations
    have fresh : (Mailbox.new buffer).isClosed = false := rfl
    rw [history, fresh]
    by_cases shut : .close ∈ operations <;> by_cases gone : .drop ∈ operations <;>
      simp [listens, shut, gone]
  have opened : box.isClosed = false ↔ listens := by
    rw [← Bool.not_eq_true, closed, Decidable.not_not]
  have sent : answer = .sent ↔
      listens ∧ box.queue.length < slots + if event.isFrame then 0 else 4 := by
    have room := box.answer_eq_sent event
    rwa [opened, ordered.size] at room
  refine ⟨ordered.account, fun stays => ordered.kept fun gone => stays (gone_of_run ?_ gone),
    ordered.bound, fun frame => ?_, fun control => ?_, (box.answer_eq_closed event).trans closed,
    congrArg Mailbox.queue (box.deliver_fst event), fun control dropped => ?_⟩
  · simp [Mailbox.new]
  · simpa [frame] using sent
  · simpa [control] using sent
  · -- The queue is full, so its last four places are those of the reserve.
    have hears : listens := by
      refine Decidable.byContradiction fun deaf => ?_
      have refused : answer = .closed := (box.answer_eq_closed event).mpr (closed.mpr deaf)
      rw [dropped] at refused
      cases refused
    have full : ¬ box.queue.length < slots + 4 := by
      intro room
      have taken : answer = .sent := sent.mpr ⟨hears, by simpa [control] using room⟩
      rw [dropped] at taken
      cases taken
    have bound : box.queue.length ≤ slots + 4 := ordered.bound
    have last : box.queue.length - 4 = slots := by omega
    rw [last, List.length_drop]
    exact ⟨by omega, ordered.reserve⟩

end Mailbox.Ledger

end CameraRelay
