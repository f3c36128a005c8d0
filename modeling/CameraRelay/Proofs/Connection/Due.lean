import CameraRelay.Proofs.Connection.Reading

/-!
# What a reader owes

The bytes that have arrived say what a reader has to do, in whatever pieces they came: to handle
every line that is all there, and to refuse one as soon as it is too long, whether more will arrive
or not. Its next turn is always the first that it owes. Main statements: `Follows.owes`,
`Follows.ready_iff`.
-/

namespace CameraRelay

namespace ReaderTurn

open Lines

/-- The turns that are due on the lines of a stream, as far as it was sent. A line is handled once it
is all there; one that is too long is refused as soon as it is too long. -/
def due (maxLength : Nat) (ended : Bool) : List Bytes → List ReaderTurn
  | [] => if ended then [.finish] else []
  | line :: later =>
    if fits maxLength line then
      if isWhole ended line then .handle line :: due maxLength ended later else []
    else [.refuse]

variable {maxLength : Nat} {ended : Bool} {line : Bytes}

theorem due_of_whole (fit : fits maxLength line = true) (whole : isWhole ended line = true)
    (later : List Bytes) :
    due maxLength ended (line :: later) = .handle line :: due maxLength ended later := by
  rw [due, if_pos fit, if_pos whole]

theorem due_of_open (fit : fits maxLength line = true) (part : isWhole ended line = false)
    (later : List Bytes) : due maxLength ended (line :: later) = [] := by
  rw [due, if_pos fit, part]
  rfl

theorem due_of_unfit (unfit : fits maxLength line = false) (ended : Bool) (later : List Bytes) :
    due maxLength ended (line :: later) = [.refuse] := by
  rw [due, unfit]
  rfl

theorem due_append {handled : List Bytes} (fit : ∀ line ∈ handled, fits maxLength line = true)
    (whole : ∀ line ∈ handled, isWhole ended line = true) (lines : List Bytes) :
    due maxLength ended (handled ++ lines) =
      handled.map .handle ++ due maxLength ended lines := by
  induction handled with
  | nil => rfl
  | cons line rest ih =>
    obtain ⟨first, fit⟩ := List.forall_mem_cons.mp fit
    obtain ⟨all, whole⟩ := List.forall_mem_cons.mp whole
    rw [List.cons_append, due_of_whole first all, ih fit whole, List.map_cons, List.cons_append]

/-- On a finished input the reader's end is due at last. -/
theorem due_ended (maxLength : Nat) (lines : List Bytes) :
    .finish ∈ due maxLength true lines ∨ .refuse ∈ due maxLength true lines := by
  induction lines with
  | nil => exact .inl (List.mem_singleton.mpr rfl)
  | cons line later ih =>
    cases fit : fits maxLength line with
    | true =>
      have whole : isWhole true line = true := rfl
      simpa [due_of_whole fit whole] using ih
    | false => simp [due_of_unfit fit]

theorem refused_grows {long longer : Bytes} (unfit : fits maxLength long = false)
    (unfit' : fits maxLength longer = false) {ended ended' : Bool} {later later' : List Bytes} :
    due maxLength ended (long :: later) <+: due maxLength ended' (longer :: later') :=
  ⟨[], by rw [List.append_nil, due_of_unfit unfit, due_of_unfit unfit']⟩

/-- What is due stays due, whatever arrives after it. -/
theorem due_grows (maxLength : Nat) (ended : Bool) (stream more : Bytes) :
    due maxLength false (linesOf stream) <+: due maxLength ended (linesOf (stream ++ more)) := by
  by_cases cut : newline ∈ stream
  · obtain ⟨text, rest, split, plain⟩ := List.eq_append_cons_of_mem cut
    have shorter : rest.length < stream.length := by
      rw [split, List.length_append, List.length_cons]
      omega
    rw [split, List.append_assoc, List.cons_append, linesOf_terminated plain, linesOf_terminated plain]
    cases fit : fits maxLength (text ++ [newline]) with
    | true =>
      rw [due_of_whole fit (isWhole_terminated _ _), due_of_whole fit (isWhole_terminated _ _)]
      exact (List.prefix_cons_inj _).mpr (due_grows maxLength ended rest more)
    | false => exact refused_grows fit fit
  · by_cases none : stream = []
    · rw [none]
      exact List.nil_prefix
    · rw [linesOf_tail cut none]
      by_cases short : stream.length ≤ maxLength
      · rw [due_of_open (fits_tail cut short) (isWhole_open cut)]
        exact List.nil_prefix
      · -- A line that is too long already stays too long, so it is refused at once.
        have long : maxLength < stream.length := Nat.lt_of_not_le short
        obtain ⟨now, _, here, unfit⟩ := exists_unfit cut long []
        obtain ⟨line, later, there, unfit'⟩ := exists_unfit cut long more
        rw [List.append_nil, linesOf_tail cut none] at here
        rw [here, there]
        exact refused_grows unfit unfit'
termination_by stream.length

/-- Nothing arrives any more once the client has hung up. -/
theorem due_mono (maxLength : Nat) (ended hung : Bool) (stream more : Bytes) :
    due maxLength ended (linesOf stream) <+:
      due maxLength (ended || hung) (linesOf (stream ++ if ended then [] else more)) := by
  cases ended with
  | true =>
    rw [if_pos rfl, List.append_nil]
    exact List.prefix_rfl
  | false => exact due_grows maxLength hung stream more

end ReaderTurn

namespace Connection

variable {maxLength : Nat} {connection : Connection} {stream : Bytes} {turns : List ReaderTurn}

theorem canRead_iff (maxLength : Nat) (reading : connection.stage = .reading) :
    connection.canRead maxLength = true ↔
      connection.inputEnded = true ∨ Lines.newline ∈ connection.input.flatten ∨
        maxLength < connection.input.flatten.length := by
  simp only [canRead, reading, Bool.or_eq_true, Lines.isReady_iff]

theorem reading_of_result (result : connection.result? = none) : connection.stage = .reading := by
  cases stage : connection.stage with
  | reading => rfl
  | _ => simp [result?, stage] at result

theorem turn?_of_result {outcome : Outcome} (result : connection.result? = some outcome) :
    connection.turn? maxLength = none := by
  refine if_neg fun ready => ?_
  simp [result?, connection.reading_of_canRead ready] at result

theorem turn?_ne_none :
    connection.turn? maxLength ≠ none ↔ connection.canRead maxLength = true := by
  by_cases ready : connection.canRead maxLength = true
  · cases next : Lines.next maxLength connection.input <;> simp [turn?, ready, next]
  · simp [turn?, ready]

/-- The next turn of a reader is the first that is due on what it has not read yet. -/
theorem turn?_eq (reading : connection.stage = .reading) :
    connection.turn? maxLength =
      (ReaderTurn.due maxLength connection.inputEnded
        (Lines.linesOf connection.input.flatten)).head? := by
  have found := Lines.finds_next maxLength connection.input
  have ready := canRead_iff maxLength reading
  simp only [turn?]
  generalize Lines.next maxLength connection.input = next at found ⊢
  cases found with
  | done nothing =>
    rw [nothing] at ready
    cases ended : connection.inputEnded <;>
      simp [ready, nothing, ended, Lines.linesOf, ReaderTurn.due]
  | tooLong text rest plain long split =>
    obtain ⟨line, later, first, unfit⟩ := Lines.exists_unfit plain long rest
    have goes : connection.canRead maxLength = true := by
      refine ready.mpr (.inr (.inr ?_))
      rw [split, List.length_append]
      omega
    rw [if_pos goes, split, first, ReaderTurn.due_of_unfit unfit]
    rfl
  | line text rest plain short split =>
    have goes : connection.canRead maxLength = true :=
      ready.mpr (.inr (.inl (by simp [split])))
    rw [if_pos goes, split, Lines.linesOf_terminated plain,
      ReaderTurn.due_of_whole (Lines.fits_terminated plain short) (Lines.isWhole_terminated _ _)]
    rfl
  | tail rest plain short nonempty nothing =>
    have fit := Lines.fits_tail plain short
    rw [Lines.linesOf_tail plain nonempty]
    cases ended : connection.inputEnded with
    | true =>
      rw [if_pos (ready.mpr (.inl ended)), ReaderTurn.due_of_whole fit rfl]
      rfl
    | false =>
      have waits : ¬ connection.canRead maxLength = true := by
        simp only [ready, ended, Bool.false_eq_true, false_or, not_or, Nat.not_lt]
        exact ⟨plain, short⟩
      rw [if_neg waits, ReaderTurn.due_of_open fit (Lines.isWhole_open plain)]
      rfl

/-- Of the turns that are due on what was sent a reader has taken the first, and takes the next when
it has its turn. -/
theorem Follows.owes (h : connection.Follows maxLength stream turns) :
    ∃ owed, ReaderTurn.due maxLength connection.inputEnded (Lines.linesOf stream) = turns ++ owed ∧
      connection.turn? maxLength = owed.head? := by
  cases h with
  | reading handled result fit whole lines =>
    have all := lines [] fun _ => rfl
    rw [List.append_nil, List.append_nil] at all
    rw [all, ReaderTurn.due_append fit whole]
    exact ⟨_, rfl, turn?_eq (reading_of_result result)⟩
  | finished result ended fit =>
    have whole : ∀ line ∈ Lines.linesOf stream, Lines.isWhole true line = true := fun _ _ => rfl
    have all := ReaderTurn.due_append fit whole []
    rw [List.append_nil] at all
    exact ⟨[], by rw [ended, all, List.append_nil]; rfl, turn?_of_result result⟩
  | refused handled result fit whole cut =>
    obtain ⟨long, later, all, unfit⟩ := cut [] fun _ => rfl
    rw [List.append_nil] at all
    rw [all, ReaderTurn.due_append fit whole, ReaderTurn.due_of_unfit unfit]
    exact ⟨[], (List.append_nil _).symm, turn?_of_result result⟩

/-- A reader that has nothing to do on its turn has done all that is due. -/
theorem Follows.due_of_idle (h : connection.Follows maxLength stream turns)
    (idle : connection.turn? maxLength = none) :
    ReaderTurn.due maxLength connection.inputEnded (Lines.linesOf stream) = turns := by
  obtain ⟨owed, due, next⟩ := h.owes
  rw [idle] at next
  rw [due, List.head?_eq_none_iff.mp next.symm, List.append_nil]

/-- A reader that has not ended goes on just when there is something to do: a line has arrived, or
one byte too many, or its client has hung up. -/
theorem Follows.ready_iff (h : connection.Follows maxLength stream turns)
    (unfinished : connection.result? = none) :
    ∃ (handled : List Bytes) (rest : Bytes),
      turns = handled.map .handle ∧ stream = handled.flatten ++ rest ∧
      (connection.turn? maxLength ≠ none ↔
        connection.inputEnded = true ∨ Lines.newline ∈ rest ∨ maxLength < rest.length) := by
  cases h with
  | reading handled result fit whole lines =>
    have all := lines [] fun _ => rfl
    rw [List.append_nil, List.append_nil] at all
    refine ⟨handled, connection.input.flatten, rfl, ?_, ?_⟩
    · rw [← Lines.flatten_linesOf stream, all, List.flatten_append, Lines.flatten_linesOf]
    · rw [turn?_ne_none, canRead_iff maxLength (reading_of_result result)]
  | finished result => simp [unfinished] at result
  | refused _ result => simp [unfinished] at result

end Connection

end CameraRelay
