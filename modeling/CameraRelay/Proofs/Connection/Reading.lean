import CameraRelay.Proofs.Connection.Lines
import CameraRelay.Proofs.Lobby.Moves

/-!
# The reader of a connection

On a turn a reader handles a line, finds the end of the input, or refuses a line that is too long.
What it did is said by the stream as far as it was sent (`Follows`), and what that comes to for the
relay by the line alone (`Relay.Answers`).
-/

namespace CameraRelay

/-- What a reader does on a turn on which it can go on. -/
inductive ReaderTurn where
  | handle (line : Bytes)
  | finish
  | refuse
deriving DecidableEq

/-- How far a reader is with the lines of a stream: the turns it took, and what it ended with. -/
inductive ReaderProgress (maxLength : Nat) (hungUp : Prop) (lines : List Bytes) :
    List ReaderTurn → Option Outcome → Prop
  | reading (handled : List Bytes) (fit : ∀ line ∈ handled, Lines.fits maxLength line = true)
    (first : handled <+: lines) : ReaderProgress maxLength hungUp lines (handled.map .handle) none
  | finished (hung : hungUp) (fit : ∀ line ∈ lines, Lines.fits maxLength line = true) :
    ReaderProgress maxLength hungUp lines (lines.map .handle ++ [.finish]) (some (.ok ()))
  | refused (handled : List Bytes) (long : Bytes) (later : List Bytes)
    (cut : lines = handled ++ long :: later)
    (fit : ∀ line ∈ handled, Lines.fits maxLength line = true)
    (unfit : Lines.fits maxLength long = false) :
    ReaderProgress maxLength hungUp lines (handled.map .handle ++ [.refuse])
      (some (.error (.protocol ("command exceeds " ++ toString maxLength ++ " bytes"))))

theorem ReaderProgress.length_le {maxLength : Nat} {hungUp : Prop} {lines : List Bytes}
    {turns : List ReaderTurn} {result : Option Outcome}
    (h : ReaderProgress maxLength hungUp lines turns result) (unfinished : result = none) :
    turns.length ≤ lines.length := by
  cases h with
  | reading handled _ first =>
    rw [List.length_map]
    exact first.length_le
  | finished => cases unfinished
  | refused => cases unfinished

/-! ### What a turn does to the relay -/

namespace Relay

/-- The relay after one error was offered to a client that is about no device. -/
def tell (relay : Relay) (subscriber : SubscriberId) (message : String) : Relay :=
  relay.updateMailbox subscriber fun box => (box.deliver (.error none message)).1

theorem step_complain (relay : Relay) (subscriber : SubscriberId) (message : String) :
    relay.step (.complain subscriber message) = relay.tell subscriber message := by
  simp only [step, tell, updateMailbox, Broker.deliver, Mailboxes.deliver, Mailboxes.update]
  split <;> rfl

/-- What a reader's turn comes to for the relay that it finds. -/
inductive Answers (relay : Relay) (subscriber : SubscriberId) : Option ReaderTurn → Relay → Prop
  | idle : relay.Answers subscriber none relay
  | finish : relay.Answers subscriber (some .finish) relay
  | refuse : relay.Answers subscriber (some .refuse) (relay.tell subscriber "command too long")
  | blank {line : Bytes} (blank : Text.allBlank (Text.decodeLossy line) = true) :
    relay.Answers subscriber (some (.handle line)) relay
  | malformed {line : Bytes} {fault : Command.Fault} (reason : String)
    (said : Text.allBlank (Text.decodeLossy line) = false)
    (decoded : Command.decode (Text.decodeLossy line) = .error fault) :
    relay.Answers subscriber (some (.handle line))
      (relay.tell subscriber (Failure.protocol reason).text)
  | unnamed {line : Bytes} {command : Command}
    (said : Text.allBlank (Text.decodeLossy line) = false)
    (decoded : Command.decode (Text.decodeLossy line) = .ok command)
    (device : ∀ name, command.sent? = some name → Text.allBlank name = true) :
    relay.Answers subscriber (some (.handle line)) (relay.tell subscriber "deviceId is required")
  | start {line : Bytes} {name : List Char}
    (said : Text.allBlank (Text.decodeLossy line) = false)
    (decoded : Command.decode (Text.decodeLossy line) = .ok (.start (some name)))
    (device : Text.allBlank name = false) :
    relay.Answers subscriber (some (.handle line))
      { relay with requests := relay.requests ++
        [{ subscriber := handle subscriber, device := ⟨String.ofList name⟩ }] }
  | stop {line : Bytes} {name : List Char}
    (said : Text.allBlank (Text.decodeLossy line) = false)
    (decoded : Command.decode (Text.decodeLossy line) = .ok (.stop (some name)))
    (device : Text.allBlank name = false) :
    relay.Answers subscriber (some (.handle line))
      { relay with broker := relay.broker.detach subscriber ⟨String.ofList name⟩ }

theorem answers_line (relay : Relay) (subscriber : SubscriberId) (line : Bytes) :
    relay.Answers subscriber (some (.handle line))
      (relay.run ((LineEffect.ofLine line).action? subscriber).toList) := by
  unfold LineEffect.ofLine
  dsimp only
  split
  · next blank => exact .blank blank
  · next said =>
    have said : Text.allBlank (Text.decodeLossy line) = false := by simpa using said
    split
    · next fault decoded =>
      change relay.Answers subscriber _ (relay.step (.complain subscriber _))
      rw [step_complain]
      exact .malformed (String.ofList fault.text) said decoded
    · next command decoded =>
      have silent (device : ∀ name, command.sent? = some name → Text.allBlank name = true) :
          relay.Answers subscriber (some (.handle line))
            (relay.step (.complain subscriber deviceRequired)) := by
        rw [step_complain]
        exact .unnamed said decoded device
      -- A command names a device, names a blank one, or names none.
      cases sent : command.sent? with
      | none =>
        simp only [Command.device?, sent]
        exact silent (by simp [sent])
      | some name =>
        by_cases blank : Text.allBlank name = true
        · simp only [Command.device?, sent, blank, if_true]
          exact silent (by simp [sent, blank])
        · have named : Text.allBlank name = false := by simpa using blank
          simp only [Command.device?, sent, named, Bool.false_eq_true, if_false]
          cases command with
          | start device =>
            cases sent
            exact .start said decoded named
          | stop device =>
            cases sent
            exact .stop said decoded named

end Relay

namespace Connection

/-- The turn that a reader takes, if it can go on. -/
def turn? (connection : Connection) (maxLength : Nat) : Option ReaderTurn :=
  if connection.canRead maxLength then
    match Lines.next maxLength connection.input with
    | .done => some .finish
    | .tooLong => some .refuse
    | .line line _ => some (.handle line)
  else none

/-- What the reader ended with, once it has. -/
def result? (connection : Connection) : Option Outcome :=
  match connection.stage with
  | .reading => none
  | .closing outcome => some outcome
  | .leaving outcome => some outcome
  | .over outcome => some outcome

theorem answers_read (connection : Connection) (relay : Relay) (maxLength : Nat) :
    relay.Answers connection.subscriber (connection.turn? maxLength)
      (relay.run (connection.read maxLength).2.toList) := by
  by_cases ready : connection.canRead maxLength = true
  · simp only [Connection.read, turn?, ready, Bool.not_true, Bool.false_eq_true, if_false, if_true]
    cases Lines.next maxLength connection.input with
    | done => exact .finish
    | tooLong =>
      change relay.Answers _ _ (relay.step (.complain _ _))
      rw [Relay.step_complain]
      exact .refuse
    | line line rest => exact relay.answers_line connection.subscriber line
  · simp only [Connection.read, turn?, ready, Bool.not_false, if_true, Bool.false_eq_true, if_false]
    exact .idle

/-- What may still arrive: nothing once the client has hung up. -/
def Expects (connection : Connection) (later : Bytes) : Prop :=
  connection.inputEnded = true → later = []

/-- The lines of a stream are those that were handled and those of the input that is left, whatever
may still arrive. -/
def Divides (connection : Connection) (stream : Bytes) (handled : List Bytes) : Prop :=
  ∀ later, connection.Expects later →
    Lines.linesOf (stream ++ later) = handled ++ Lines.linesOf (connection.input.flatten ++ later)

/-- What the reader of a connection has done with the stream that was sent. -/
inductive Follows (maxLength : Nat) (connection : Connection) (stream : Bytes) :
    List ReaderTurn → Prop
  | reading (handled : List Bytes) (result : connection.result? = none)
    (fit : ∀ line ∈ handled, Lines.fits maxLength line = true)
    (whole : ∀ line ∈ handled, Lines.isWhole connection.inputEnded line = true)
    (lines : connection.Divides stream handled) :
    Follows maxLength connection stream (handled.map .handle)
  | finished (result : connection.result? = some (.ok ())) (ended : connection.inputEnded = true)
    (fit : ∀ line ∈ Lines.linesOf stream, Lines.fits maxLength line = true) :
    Follows maxLength connection stream ((Lines.linesOf stream).map .handle ++ [.finish])
  | refused (handled : List Bytes)
    (result : connection.result? = some (.error (tooLong maxLength)))
    (fit : ∀ line ∈ handled, Lines.fits maxLength line = true)
    (whole : ∀ line ∈ handled, Lines.isWhole connection.inputEnded line = true)
    (cut : ∀ later, connection.Expects later → ∃ long more,
      Lines.linesOf (stream ++ later) = handled ++ long :: more ∧
        Lines.fits maxLength long = false) :
    Follows maxLength connection stream (handled.map .handle ++ [.refuse])

variable {maxLength : Nat} {connection : Connection} {stream : Bytes} {turns : List ReaderTurn}

theorem Follows.start (maxLength : Nat) (subscriber : SubscriberId) :
    Connection.Follows maxLength { subscriber } [] [] :=
  .reading [] rfl (by simp) (by simp) fun _ _ => rfl

theorem Follows.of_same {next : Connection} (h : connection.Follows maxLength stream turns)
    (input : next.input = connection.input) (ended : next.inputEnded = connection.inputEnded)
    (result : next.result? = connection.result?) : next.Follows maxLength stream turns := by
  cases h with
  | reading handled running fit whole lines =>
    refine .reading handled (result.trans running) fit (by rwa [ended]) ?_
    unfold Divides Expects at lines ⊢
    rw [input, ended]
    exact lines
  | finished ok hung fit => exact .finished (result.trans ok) (ended.trans hung) fit
  | refused handled error fit whole cut =>
    refine .refused handled (result.trans error) fit (by rwa [ended]) ?_
    unfold Expects at cut ⊢
    rw [ended]
    exact cut

theorem Follows.arrive (h : connection.Follows maxLength stream turns)
    (more : connection.inputEnded = false) (piece : Bytes) :
    (connection.arrive piece).Follows maxLength (stream ++ piece) turns := by
  by_cases nothing : piece = []
  · have same : connection.arrive piece = connection := by simp [Connection.arrive, nothing]
    rw [same, nothing, List.append_nil]
    exact h
  · have grown : connection.arrive piece =
        { connection with input := connection.input ++ [piece] } := by
      simp [Connection.arrive, nothing, more]
    rw [grown]
    have goesOn (later : Bytes) : connection.Expects later := fun hung => by simp [more] at hung
    cases h with
    | reading handled result fit whole lines =>
      refine .reading handled result fit whole fun later _ => ?_
      have all := lines (piece ++ later) (goesOn _)
      simpa [List.append_assoc] using all
    | finished ok hung fit => simp [more] at hung
    | refused handled error fit whole cut =>
      refine .refused handled error fit whole fun later _ => ?_
      rw [List.append_assoc]
      exact cut (piece ++ later) (goesOn _)

theorem Follows.hangUp (h : connection.Follows maxLength stream turns) :
    connection.hangUp.Follows maxLength stream turns := by
  cases h with
  | reading handled result fit whole lines =>
    refine .reading handled result fit (fun _ _ => rfl) fun later hung => ?_
    rw [hung rfl]
    exact lines [] fun _ => rfl
  | finished ok hung fit => exact .finished ok rfl fit
  | refused handled error fit whole cut =>
    refine .refused handled error fit (fun _ _ => rfl) fun later hung => ?_
    rw [hung rfl]
    exact cut [] fun _ => rfl

/-- The next line is handled: the rest of the lines is what is left to be read. -/
theorem follows_handled {line : Bytes} {rest handled : List Bytes}
    (result : connection.result? = none)
    (fit : ∀ line ∈ handled, Lines.fits maxLength line = true)
    (whole : ∀ line ∈ handled, Lines.isWhole connection.inputEnded line = true)
    (lines : connection.Divides stream handled)
    (fits : Lines.fits maxLength line = true)
    (isWhole : Lines.isWhole connection.inputEnded line = true)
    (next : ∀ later, connection.Expects later →
      Lines.linesOf (connection.input.flatten ++ later) =
        line :: Lines.linesOf (rest.flatten ++ later)) :
    Follows maxLength { connection with input := rest } stream
      (handled.map .handle ++ [.handle line]) := by
  have turns : handled.map ReaderTurn.handle ++ [.handle line] =
      (handled ++ [line]).map .handle := by simp
  rw [turns]
  refine .reading (handled ++ [line]) result ?_ ?_ fun later hung => ?_
  · exact List.forall_mem_append.mpr ⟨fit, List.forall_mem_singleton.mpr fits⟩
  · exact List.forall_mem_append.mpr ⟨whole, List.forall_mem_singleton.mpr isWhole⟩
  · rw [lines later hung, next later hung, List.append_assoc]
    rfl

theorem Follows.read (h : connection.Follows maxLength stream turns) :
    (connection.read maxLength).1.Follows maxLength stream
      (turns ++ (connection.turn? maxLength).toList) := by
  by_cases ready : connection.canRead maxLength = true
  · have reading := connection.reading_of_canRead ready
    -- Without a newline, and with no byte too many, nothing is read before the input has ended.
    have hung (plain : Lines.newline ∉ connection.input.flatten)
        (short : connection.input.flatten.length ≤ maxLength) :
        connection.inputEnded = true := by
      simp only [canRead, reading, Bool.or_eq_true, Lines.isReady_iff] at ready
      rcases ready with hung | mem | long
      · exact hung
      · exact absurd mem plain
      · omega
    cases h with
    | finished ok => simp [result?, reading] at ok
    | refused _ error => simp [result?, reading] at error
    | reading handled result fit whole lines =>
      have found := Lines.finds_next maxLength connection.input
      simp only [Connection.read, turn?, ready, Bool.not_true, Bool.false_eq_true, if_false, if_true]
      generalize Lines.next maxLength connection.input = next at found ⊢
      cases found with
      | done nothing =>
        have ended := hung (by simp [nothing]) (by simp [nothing])
        have all : handled = Lines.linesOf stream := by
          simpa [nothing, Lines.linesOf] using (lines [] fun _ => rfl).symm
        subst all
        exact .finished rfl ended fit
      | tooLong text rest plain long split =>
        refine .refused handled rfl fit whole fun later hung => ?_
        obtain ⟨line, more, first, unfit⟩ := Lines.exists_unfit plain long (rest ++ later)
        refine ⟨line, more, ?_, unfit⟩
        rw [lines later hung, split, List.append_assoc, first]
      | line text rest plain short split =>
        have fits := Lines.fits_terminated plain short
        have all := Lines.isWhole_terminated connection.inputEnded text
        refine follows_handled result fit whole lines fits all fun later _ => ?_
        rw [split, List.append_assoc]
        exact Lines.linesOf_terminated plain _
      | tail rest plain short nonempty nothing =>
        have ended := hung plain short
        have fits := Lines.fits_tail plain short
        have all : Lines.isWhole connection.inputEnded connection.input.flatten = true := by
          rw [ended]
          rfl
        refine follows_handled result fit whole lines fits all fun later hung => ?_
        rw [hung ended, nothing, List.append_nil, Lines.linesOf_tail plain nonempty]
        rfl
  · simp only [Connection.read, turn?, ready, Bool.not_false, if_true, Bool.false_eq_true, if_false]
    simpa using h

theorem Follows.progress (h : connection.Follows maxLength stream turns) :
    ReaderProgress maxLength (connection.inputEnded = true) (Lines.linesOf stream) turns
      connection.result? := by
  cases h with
  | reading handled result fit whole lines =>
    have all := lines [] fun _ => rfl
    rw [List.append_nil, List.append_nil] at all
    rw [result]
    exact .reading handled fit ⟨_, all.symm⟩
  | finished result hung fit =>
    rw [result]
    exact .finished hung fit
  | refused handled result fit whole cut =>
    obtain ⟨long, later, all, unfit⟩ := cut [] fun _ => rfl
    rw [List.append_nil] at all
    rw [result]
    exact .refused handled long later all fit unfit

end Connection

end CameraRelay
