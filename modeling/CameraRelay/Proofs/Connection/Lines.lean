import CameraRelay.Connection.Lines

/-!
# The lines of a stream

A stream is cut behind each newline; what stands behind the last one is a line as well, unless it is
nothing. The reader takes no more of a line than its longest text and one byte, piece by piece, and
finds these lines wherever the pieces were cut. Main statements: `finds_next`, `isReady_iff`.
-/

namespace CameraRelay.Lines

/-- The lines of a stream, each with its newline if it has one. -/
def linesOf : Bytes → List Bytes
  | [] => []
  | byte :: rest =>
    if byte = newline then [newline] :: linesOf rest
    else
      match linesOf rest with
      | [] => [[byte]]
      | line :: later => (byte :: line) :: later

/-- What stands before the first newline. -/
def content (stream : Bytes) : Bytes := stream.takeWhile (· != newline)

/-- Whether a line is no longer than it may be; its newline does not count. -/
def fits (maxLength : Nat) (line : Bytes) : Bool := decide ((content line).length ≤ maxLength)

/-- Whether a line is all there: it has its newline, or nothing more will arrive. -/
def isWhole (ended : Bool) (line : Bytes) : Bool := ended || line.getLast? == some newline

theorem isWhole_terminated (ended : Bool) (text : Bytes) :
    isWhole ended (text ++ [newline]) = true := by
  simp [isWhole]

theorem isWhole_open {text : Bytes} (plain : newline ∉ text) : isWhole false text = false := by
  have last : text.getLast? ≠ some newline := fun eq => plain (List.mem_of_getLast? eq)
  simpa [isWhole] using last

theorem flatten_linesOf (stream : Bytes) : (linesOf stream).flatten = stream := by
  induction stream with
  | nil => rfl
  | cons byte rest ih =>
    simp only [linesOf]
    split
    · next ends => rw [List.flatten_cons, ih, ends, List.singleton_append]
    · split
      · next none =>
        rw [none, List.flatten_nil] at ih
        rw [← ih]
        rfl
      · next line later lines =>
        rw [lines, List.flatten_cons] at ih
        rw [List.flatten_cons, List.cons_append, ih]

theorem linesOf_terminated {text : Bytes} (plain : newline ∉ text) (rest : Bytes) :
    linesOf (text ++ newline :: rest) = (text ++ [newline]) :: linesOf rest := by
  induction text with
  | nil => simp [linesOf]
  | cons byte text ih =>
    obtain ⟨other, plain⟩ := not_or.mp (mt List.mem_cons.mpr plain)
    have ne : byte ≠ newline := Ne.symm other
    simp only [List.cons_append, linesOf, if_neg ne, ih plain]

theorem linesOf_tail {text : Bytes} (plain : newline ∉ text) (nonempty : text ≠ []) :
    linesOf text = [text] := by
  induction text with
  | nil => exact absurd rfl nonempty
  | cons byte text ih =>
    obtain ⟨other, plain⟩ := not_or.mp (mt List.mem_cons.mpr plain)
    have ne : byte ≠ newline := Ne.symm other
    cases text with
    | nil => simp only [linesOf, if_neg ne]
    | cons next text =>
      have later := ih plain (List.cons_ne_nil next text)
      rw [linesOf, if_neg ne, later]

theorem exists_first {stream : Bytes} (nonempty : stream ≠ []) :
    ∃ line later, linesOf stream = line :: later ∧ content line = content stream := by
  induction stream with
  | nil => exact absurd rfl nonempty
  | cons byte rest ih =>
    by_cases ends : byte = newline
    · exact ⟨[newline], linesOf rest, by simp [linesOf, ends], by simp [content, ends]⟩
    · have goesOn : (byte != newline) = true := by simpa using ends
      cases rest with
      | nil => exact ⟨[byte], [], by simp [linesOf, ends], rfl⟩
      | cons next rest =>
        obtain ⟨line, later, lines, same⟩ := ih (List.cons_ne_nil next rest)
        refine ⟨byte :: line, later, ?_, ?_⟩
        · rw [linesOf, if_neg ends, lines]
        · simp only [content, List.takeWhile_cons, goesOn] at same ⊢
          rw [same]

theorem content_append {text : Bytes} (plain : newline ∉ text) (rest : Bytes) :
    content (text ++ rest) = text ++ content rest := by
  refine List.takeWhile_append_of_pos fun byte mem => ?_
  have ne : byte ≠ newline := fun eq => plain (eq ▸ mem)
  simpa using ne

theorem fits_terminated {maxLength : Nat} {text : Bytes} (plain : newline ∉ text)
    (short : text.length ≤ maxLength) : fits maxLength (text ++ [newline]) = true := by
  have same : content (text ++ [newline]) = text := by
    rw [content_append plain]
    simp [content]
  simpa [fits, same] using short

theorem fits_tail {maxLength : Nat} {text : Bytes} (plain : newline ∉ text)
    (short : text.length ≤ maxLength) : fits maxLength text = true := by
  have same : content text = text := by
    simpa [content] using content_append plain []
  simpa [fits, same] using short

/-- Whatever follows, a line that is too long already is too long. -/
theorem exists_unfit {maxLength : Nat} {text : Bytes} (plain : newline ∉ text)
    (long : maxLength < text.length) (rest : Bytes) :
    ∃ line later, linesOf (text ++ rest) = line :: later ∧ fits maxLength line = false := by
  have nonempty : text ++ rest ≠ [] := by
    intro nothing
    simp [(List.append_eq_nil_iff.mp nothing).1] at long
  obtain ⟨line, later, lines, same⟩ := exists_first nonempty
  refine ⟨line, later, lines, ?_⟩
  rw [content_append plain] at same
  have longer : maxLength < (content line).length := by
    rw [same, List.length_append]
    omega
  simpa [fits] using longer

/-! ### What is taken of a stream -/

/-- What is taken of a stream up to a limit, what is left of it, and whether more of the line may
follow behind the stream. -/
inductive Takes (limit : Nat) (stream : Bytes) : Bytes → Bytes → Bool → Prop
  | terminated (text rest : Bytes) (plain : newline ∉ text) (short : text.length < limit)
    (split : stream = text ++ newline :: rest) : Takes limit stream (text ++ [newline]) rest false
  | full (text rest : Bytes) (plain : newline ∉ text) (full : text.length = limit)
    (split : stream = text ++ rest) : Takes limit stream text rest false
  | all (plain : newline ∉ stream) (short : stream.length < limit) :
    Takes limit stream stream [] true

theorem Takes.append {limit : Nat} {stream taken left : Bytes}
    (h : Takes limit stream taken left false) (more : Bytes) :
    Takes limit (stream ++ more) taken (left ++ more) false := by
  cases h with
  | terminated text _ plain short split =>
    refine .terminated text _ plain short ?_
    rw [split, List.append_assoc, List.cons_append]
  | full _ _ plain full split =>
    refine .full _ _ plain full ?_
    rw [split, List.append_assoc]

theorem Takes.behind {limit : Nat} {stream taken left text : Bytes} {goesOn : Bool}
    (h : Takes (limit - text.length) stream taken left goesOn) (plain : newline ∉ text)
    (short : text.length ≤ limit) : Takes limit (text ++ stream) (text ++ taken) left goesOn := by
  cases h with
  | terminated more _ plain' short' split =>
    rw [← List.append_assoc]
    refine .terminated _ _ (List.not_mem_append plain plain') ?_ ?_
    · rw [List.length_append]
      omega
    · rw [split, List.append_assoc]
  | full _ _ plain' full split =>
    refine .full _ _ (List.not_mem_append plain plain') ?_ ?_
    · rw [List.length_append]
      omega
    · rw [split, List.append_assoc]
  | all plain' short' =>
    refine .all (List.not_mem_append plain plain') ?_
    rw [List.length_append]
    omega

theorem takes_takeFrom (limit : Nat) (piece : Bytes) :
    Takes limit piece (takeFrom limit piece).1 (takeFrom limit piece).2.1
      (takeFrom limit piece).2.2 := by
  induction piece generalizing limit with
  | nil =>
    cases limit with
    | zero => exact .full [] [] List.not_mem_nil rfl rfl
    | succ limit => exact .all List.not_mem_nil (Nat.succ_pos limit)
  | cons byte rest ih =>
    cases limit with
    | zero => exact .full [] _ List.not_mem_nil rfl rfl
    | succ limit =>
      simp only [takeFrom]
      split
      · next ends =>
        subst ends
        exact .terminated [] rest List.not_mem_nil (Nat.succ_pos limit) rfl
      · next other =>
        have plain : newline ∉ [byte] := fun mem => other (List.mem_singleton.mp mem).symm
        have later : Takes (limit + 1 - [byte].length) rest _ _ _ := ih limit
        exact later.behind plain (Nat.succ_le_succ (Nat.zero_le limit))

/-- Where the pieces were cut makes no difference to what is taken. -/
theorem takes_takeLine (limit : Nat) (pieces : List Bytes) :
    ∃ goesOn, Takes limit pieces.flatten (takeLine limit pieces).1
      (takeLine limit pieces).2.flatten goesOn := by
  induction pieces generalizing limit with
  | nil =>
    cases limit with
    | zero => exact ⟨false, .full [] [] List.not_mem_nil rfl rfl⟩
    | succ limit => exact ⟨true, .all List.not_mem_nil (Nat.succ_pos limit)⟩
  | cons piece rest ih =>
    have first := takes_takeFrom limit piece
    rw [takeLine, List.flatten_cons]
    generalize takeFrom limit piece = result at first
    obtain ⟨taken, left, goesOn⟩ := result
    cases goesOn with
    | false => exact ⟨false, first.append rest.flatten⟩
    | true =>
      -- The piece is used up, and the line goes on in the pieces behind it.
      cases first with
      | all plain short =>
        obtain ⟨goesOn, later⟩ := ih (limit - taken.length)
        exact ⟨goesOn, later.behind plain (Nat.le_of_lt short)⟩

/-! ### The next line -/

/-- What the reader finds at the beginning of a stream. -/
inductive Finds (maxLength : Nat) (stream : Bytes) : Next → Prop
  | done (nothing : stream = []) : Finds maxLength stream .done
  | tooLong (text rest : Bytes) (plain : newline ∉ text) (long : maxLength < text.length)
    (split : stream = text ++ rest) : Finds maxLength stream .tooLong
  | line (text : Bytes) (rest : List Bytes) (plain : newline ∉ text)
    (short : text.length ≤ maxLength) (split : stream = text ++ newline :: rest.flatten) :
    Finds maxLength stream (.line (text ++ [newline]) rest)
  | tail (rest : List Bytes) (plain : newline ∉ stream) (short : stream.length ≤ maxLength)
    (nonempty : stream ≠ []) (nothing : rest.flatten = []) :
    Finds maxLength stream (.line stream rest)

theorem finds_next (maxLength : Nat) (pieces : List Bytes) :
    Finds maxLength pieces.flatten (next maxLength pieces) := by
  obtain ⟨goesOn, takes⟩ := takes_takeLine (maxLength + 1) pieces
  unfold next
  generalize takeLine (maxLength + 1) pieces = result at takes ⊢
  generalize pieces.flatten = stream at takes ⊢
  obtain ⟨line, rest⟩ := result
  dsimp only at takes ⊢
  generalize left : rest.flatten = behind at takes
  cases takes with
  | terminated text _ plain short split =>
    subst left
    simpa using Finds.line text rest plain (Nat.lt_succ_iff.mp short) split
  | full _ _ plain full split =>
    -- One byte more than a line may have, and no newline among them.
    have nonempty : line ≠ [] := by
      rintro rfl
      simp at full
    have last : line.getLast? ≠ some newline := fun eq => plain (List.mem_of_getLast? eq)
    have long : maxLength < line.length := by omega
    have cut : Finds maxLength stream .tooLong := .tooLong line _ plain long split
    simpa [nonempty, last, long] using cut
  | all plain short =>
    by_cases nothing : stream = []
    · have done : Finds maxLength stream .done := .done nothing
      simpa [nothing] using done
    · have fit : ¬ maxLength < stream.length := by omega
      simpa [nothing, fit] using Finds.tail rest plain (Nat.lt_succ_iff.mp short) nothing left

/-- While more may follow the reader waits for a newline, or for one byte too many. -/
theorem isReady_iff (maxLength : Nat) (pieces : List Bytes) :
    isReady maxLength pieces = true ↔
      newline ∈ pieces.flatten ∨ maxLength < pieces.flatten.length := by
  obtain ⟨goesOn, takes⟩ := takes_takeLine (maxLength + 1) pieces
  unfold isReady
  generalize takeLine (maxLength + 1) pieces = result at takes ⊢
  generalize pieces.flatten = stream at takes ⊢
  obtain ⟨line, rest⟩ := result
  dsimp only at takes ⊢
  generalize rest.flatten = behind at takes
  cases takes with
  | terminated text _ _ _ split => simp [split]
  | full _ _ _ full split =>
    have long : maxLength < line.length := by omega
    have longer : maxLength < stream.length := by
      rw [split, List.length_append]
      omega
    simp [long, longer]
  | all plain short =>
    have last : stream.getLast? ≠ some newline := fun eq => plain (List.mem_of_getLast? eq)
    simp [last, plain]

end CameraRelay.Lines
