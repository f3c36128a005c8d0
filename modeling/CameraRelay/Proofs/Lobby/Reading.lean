import CameraRelay.Proofs.Connection.Due

/-!
# The commands of a stream

What the reader of a client has done at any time is said by the bytes that the client sent, whatever
else goes on: it handles the lines of the stream in order, up to the first that is too long, and with
one effect each. A line that has arrived is handled in time, whether the client goes on sending or
not. Main statement: `commands_in_order`.
-/

namespace CameraRelay

namespace LobbyAction

/-- What a client sends with an action. -/
def piece (client : Nat) : LobbyAction → Bytes
  | .arrive sender piece => if sender = client then piece else []
  | _ => []

def hangsUp (client : Nat) : LobbyAction → Bool
  | .hangUp sender => sender == client
  | _ => false

def reads (client : Nat) : LobbyAction → Bool
  | .read reader => reader == client
  | _ => false

theorem hangsUp_iff {client : Nat} {action : LobbyAction} :
    action.hangsUp client = true ↔ action = .hangUp client := by
  cases action <;> simp [hangsUp]

theorem reads_iff {client : Nat} {action : LobbyAction} :
    action.reads client = true ↔ action = .read client := by
  cases action <;> simp [reads]

end LobbyAction

/-! ### One action, for the connection of a client -/

namespace Connection

/-- What an action makes of a client's connection, as far as its reader is concerned. -/
inductive Steps (client maxLength : Nat) (connection : Connection) :
    LobbyAction → Connection → Prop
  | arrive (piece : Bytes) :
    Steps client maxLength connection (.arrive client piece) (connection.arrive piece)
  | hangUp : Steps client maxLength connection (.hangUp client) connection.hangUp
  | read : Steps client maxLength connection (.read client) (connection.read maxLength).1
  | aside {action : LobbyAction} {next : Connection} (silent : action.piece client = [])
    (goesOn : action.hangsUp client = false) (unread : action.reads client = false)
    (subscriber : next.subscriber = connection.subscriber) (input : next.input = connection.input)
    (ended : next.inputEnded = connection.inputEnded)
    (result : next.result? = connection.result?) : Steps client maxLength connection action next

variable {client maxLength : Nat} {connection next : Connection} {action : LobbyAction}

theorem Steps.subscriber (h : connection.Steps client maxLength action next) :
    next.subscriber = connection.subscriber := by
  cases h with
  | arrive piece => exact (connection.turns_arrive [] piece).subscriber
  | hangUp => rfl
  | read => exact (connection.turns_read maxLength).subscriber
  | aside _ _ _ subscriber => exact subscriber

theorem inputEnded_arrive (piece : Bytes) :
    (connection.arrive piece).inputEnded = connection.inputEnded := by
  simp only [arrive]
  split <;> rfl

theorem inputEnded_read : (connection.read maxLength).1.inputEnded = connection.inputEnded := by
  simp only [read]
  split
  · rfl
  · split <;> rfl

theorem Steps.inputEnded (h : connection.Steps client maxLength action next) :
    next.inputEnded = (connection.inputEnded || action.hangsUp client) := by
  cases h with
  | arrive piece => simpa [LobbyAction.hangsUp] using inputEnded_arrive piece
  | hangUp => simp [LobbyAction.hangsUp, Connection.hangUp]
  | read => simpa [LobbyAction.hangsUp] using inputEnded_read
  | aside _ goesOn _ _ _ ended => simpa [goesOn] using ended

/-- The turn that the reader takes with an action. -/
def turnAt? (connection : Connection) (client maxLength : Nat) (action : LobbyAction) :
    Option ReaderTurn :=
  if action.reads client then connection.turn? maxLength else none

theorem Follows.step {stream : Bytes} {turns : List ReaderTurn}
    (h : connection.Follows maxLength stream turns)
    (steps : connection.Steps client maxLength action next) :
    next.Follows maxLength (stream ++ if connection.inputEnded then [] else action.piece client)
      (turns ++ (connection.turnAt? client maxLength action).toList) := by
  cases steps with
  | arrive piece =>
    cases more : connection.inputEnded with
    | false => simpa [turnAt?, LobbyAction.reads, LobbyAction.piece] using h.arrive more piece
    | true => simpa [turnAt?, LobbyAction.reads, Connection.arrive, more] using h
  | hangUp => simpa [turnAt?, LobbyAction.reads, LobbyAction.piece] using h.hangUp
  | read => simpa [turnAt?, LobbyAction.reads, LobbyAction.piece] using h.read
  | aside silent _ unread _ input ended result =>
    simpa [turnAt?, unread, silent] using h.of_same input ended result

end Connection

namespace Lobby

theorem connection?_update (lobby : Lobby) (client other : Nat)
    (change : Connection → Connection × Option Action) :
    (lobby.update other change).connection? client =
      if other = client then (lobby.connection? client).map fun c => (change c).1
      else lobby.connection? client := by
  cases found : lobby.connection? other with
  | none =>
    simp only [update, found]
    by_cases same : other = client
    · rw [if_pos same, ← same, found, Option.map_none]
    · rw [if_neg same]
  | some connection =>
    simp only [update, found]
    cases other with
    | zero => cases found
    | succ place =>
      cases client with
      | zero => rfl
      | succ seat =>
        obtain ⟨bound, here⟩ := List.getElem?_eq_some_iff.mp found
        by_cases same : place = seat
        · subst same
          simp [connection?, here, bound]
        · simp [connection?, same]

theorem listening_update (lobby : Lobby) (client : Nat)
    (change : Connection → Connection × Option Action) :
    (lobby.update client change).listening = lobby.listening := by
  simp only [update]
  split <;> rfl

theorem listening_step (lobby : Lobby) (action : LobbyAction) :
    (lobby.step action).listening = lobby.listening := by
  cases action with
  | relay action => rfl
  | connect =>
    simp only [step]
    split <;> rfl
  | _ => exact lobby.listening_update _ _

theorem listening_run (lobby : Lobby) (actions : List LobbyAction) :
    (lobby.run actions).listening = lobby.listening := by
  induction actions generalizing lobby with
  | nil => rfl
  | cons action rest ih => exact (ih _).trans (lobby.listening_step action)

variable {lobby : Lobby} {client maxLength : Nat} {subscriber : SubscriberId}
  {connection : Connection}

theorem steps_update (found : lobby.connection? client = some connection) {action : LobbyAction}
    {other : Nat} {change : Connection → Connection × Option Action}
    (own : other = client → connection.Steps client maxLength action (change connection).1)
    (apart : other ≠ client → action.piece client = [] ∧ action.hangsUp client = false ∧
      action.reads client = false) :
    ∃ next, (lobby.update other change).connection? client = some next ∧
      connection.Steps client maxLength action next := by
  by_cases same : other = client
  · refine ⟨(change connection).1, ?_, own same⟩
    rw [connection?_update, if_pos same, found, Option.map_some]
  · obtain ⟨silent, goesOn, unread⟩ := apart same
    refine ⟨connection, ?_, .aside silent goesOn unread rfl rfl rfl rfl⟩
    rw [connection?_update, if_neg same]
    exact found

theorem steps (found : lobby.connection? client = some connection) (action : LobbyAction) :
    ∃ next, (lobby.step action).connection? client = some next ∧
      connection.Steps client lobby.listening.maxLineLength action next := by
  cases action with
  | relay action => exact ⟨connection, found, .aside rfl rfl rfl rfl rfl rfl rfl⟩
  | connect =>
    refine ⟨connection, ?_, .aside rfl rfl rfl rfl rfl rfl rfl⟩
    simp only [step]
    split
    · cases client with
      | zero => cases found
      | succ place =>
        obtain ⟨bound, _⟩ := List.getElem?_eq_some_iff.mp found
        simp only [connection?, List.getElem?_append_left bound]
        exact found
    · exact found
  | arrive sender piece =>
    simp only [step]
    refine steps_update found (fun own => ?_) fun apart => ?_
    · subst own
      exact .arrive piece
    · exact ⟨if_neg apart, rfl, rfl⟩
  | hangUp sender =>
    simp only [step]
    refine steps_update found (fun own => ?_) fun apart => ?_
    · subst own
      exact .hangUp
    · exact ⟨rfl, by simpa [LobbyAction.hangsUp] using apart, rfl⟩
  | read reader =>
    simp only [step]
    refine steps_update found (fun own => ?_) fun apart => ?_
    · subst own
      exact .read
    · exact ⟨rfl, rfl, by simpa [LobbyAction.reads] using apart⟩
  | write writer =>
    simp only [step]
    refine steps_update found (fun _ => ?_) fun _ => ⟨rfl, rfl, rfl⟩
    simp only [Connection.write]
    split
    · split <;> exact .aside rfl rfl rfl rfl rfl rfl rfl
    · exact .aside rfl rfl rfl rfl rfl rfl rfl
  | stopWriter writer =>
    simp only [step]
    refine steps_update found (fun _ => ?_) fun _ => ⟨rfl, rfl, rfl⟩
    simp only [Connection.stopWriter]
    split
    · next outcome stage =>
      exact .aside rfl rfl rfl rfl rfl rfl (by simp [Connection.result?, stage])
    · exact .aside rfl rfl rfl rfl rfl rfl rfl
  | leave leaver =>
    simp only [step]
    refine steps_update found (fun _ => ?_) fun _ => ⟨rfl, rfl, rfl⟩
    simp only [Connection.leave]
    split
    · next outcome stage =>
      exact .aside rfl rfl rfl rfl rfl rfl (by simp [Connection.result?, stage])
    · exact .aside rfl rfl rfl rfl rfl rfl rfl

/-! ### Runs -/

/-- The bytes that a client sends before it hangs up. -/
def sent (client : Nat) (actions : List LobbyAction) : Bytes :=
  (actions.takeWhile fun action => !action.hangsUp client).flatMap (·.piece client)

theorem sent_cons (action : LobbyAction) (rest : List LobbyAction) :
    sent client (action :: rest) =
      if action.hangsUp client then [] else action.piece client ++ sent client rest := by
  by_cases hung : action.hangsUp client = true
  · simp [sent, hung]
  · simp [sent, hung]

/-- A turn of a reader, with the relay that it finds and the one that it leaves. -/
structure Reading where
  turn? : Option ReaderTurn
  found : Relay
  left : Relay

/-- The reading of a client's reader with an action, if it is the reader's. -/
def reading? (lobby : Lobby) (client : Nat) (action : LobbyAction) : Option Reading :=
  if action.reads client then
    (lobby.connection? client).map fun connection =>
      { turn? := connection.turn? lobby.listening.maxLineLength
        found := lobby.relay
        left := (lobby.step action).relay }
  else none

/-- The readings of a client's reader in a run, in order. -/
def readings (lobby : Lobby) (client : Nat) : List LobbyAction → List Reading
  | [] => []
  | action :: rest =>
    (lobby.reading? client action).toList ++ (lobby.step action).readings client rest

/-- The turns of a client's reader in a run on which it went on. -/
def readerTurns (lobby : Lobby) (client : Nat) (actions : List LobbyAction) : List ReaderTurn :=
  (lobby.readings client actions).filterMap (·.turn?)

theorem readerTurns_cons (found : lobby.connection? client = some connection)
    (action : LobbyAction) (rest : List LobbyAction) :
    lobby.readerTurns client (action :: rest) =
      (connection.turnAt? client lobby.listening.maxLineLength action).toList ++
        (lobby.step action).readerTurns client rest := by
  simp only [readerTurns, readings, List.filterMap_append]
  congr 1
  simp only [reading?, Connection.turnAt?, found]
  by_cases reads : action.reads client = true
  · cases turn : connection.turn? lobby.listening.maxLineLength <;> simp [reads, turn]
  · simp [reads]

theorem readerTurns_append (earlier later : List LobbyAction) :
    lobby.readerTurns client (earlier ++ later) =
      lobby.readerTurns client earlier ++ (lobby.run earlier).readerTurns client later := by
  induction earlier generalizing lobby with
  | nil => rfl
  | cons action rest ih =>
    have behind : (lobby.step action).readerTurns client (rest ++ later) = _ := ih
    unfold readerTurns at behind ⊢
    simp only [List.cons_append, readings, List.filterMap_append, behind, List.append_assoc]
    rfl

theorem follows_run {stream : Bytes} {turns : List ReaderTurn}
    (found : lobby.connection? client = some connection)
    (limit : lobby.listening.maxLineLength = maxLength)
    (h : connection.Follows maxLength stream turns) (actions : List LobbyAction) :
    ∃ last, (lobby.run actions).connection? client = some last ∧
      last.inputEnded = (connection.inputEnded || actions.any (·.hangsUp client)) ∧
      last.Follows maxLength
        (stream ++ if connection.inputEnded then [] else sent client actions)
        (turns ++ lobby.readerTurns client actions) := by
  induction actions generalizing lobby connection stream turns with
  | nil =>
    refine ⟨connection, found, by simp, ?_⟩
    simpa [sent, readerTurns, readings] using h
  | cons action rest ih =>
    obtain ⟨next, now, steps⟩ := steps found action
    rw [limit] at steps
    obtain ⟨last, there, ended, follows⟩ :=
      ih now (lobby.listening_step action ▸ limit) (h.step steps)
    refine ⟨last, there, ?_, ?_⟩
    · rw [ended, steps.inputEnded, List.any_cons, Bool.or_assoc]
    · rw [readerTurns_cons found, limit, ← List.append_assoc turns]
      -- What arrives before the hang-up is part of the stream, what comes after it is not.
      have streams : (stream ++ if connection.inputEnded then [] else action.piece client) ++
          (if next.inputEnded then [] else sent client rest) =
          stream ++ if connection.inputEnded then [] else sent client (action :: rest) := by
        rw [steps.inputEnded, sent_cons]
        cases connection.inputEnded with
        | true => simp
        | false =>
          by_cases hung : action.hangsUp client = true
          · have own := LobbyAction.hangsUp_iff.mp hung
            simp [own, LobbyAction.hangsUp, LobbyAction.piece]
          · simp [hung]
      rw [← streams]
      exact follows

theorem answers_reading (found : lobby.connection? client = some connection)
    {action : LobbyAction} {reading : Reading} (mem : lobby.reading? client action = some reading) :
    reading.found.Answers connection.subscriber reading.turn? reading.left := by
  simp only [reading?, found, Option.map_some] at mem
  split at mem
  · next reads =>
    obtain rfl := LobbyAction.reads_iff.mp reads
    cases mem
    have relay : (lobby.step (.read client)).relay =
        lobby.relay.run (connection.read lobby.listening.maxLineLength).2.toList := by
      simp only [step, update, found]
    dsimp only
    rw [relay]
    exact connection.answers_read _ _
  · cases mem

theorem answers_run (found : lobby.connection? client = some connection)
    (actions : List LobbyAction) :
    ∀ reading ∈ lobby.readings client actions,
      reading.found.Answers connection.subscriber reading.turn? reading.left := by
  induction actions generalizing lobby connection with
  | nil => simp [readings]
  | cons action rest ih =>
    obtain ⟨next, now, steps⟩ := steps found action
    intro reading mem
    rcases List.mem_append.mp mem with first | later
    · exact answers_reading found (Option.mem_toList.mp first)
    · rw [← steps.subscriber]
      exact ih now reading later

/-- With every turn that a reader has it does one more thing that was due, until all of it is
done. -/
theorem length_readerTurns {stream : Bytes} {turns : List ReaderTurn}
    (found : lobby.connection? client = some connection)
    (limit : lobby.listening.maxLineLength = maxLength)
    (h : connection.Follows maxLength stream turns) (actions : List LobbyAction) :
    min (ReaderTurn.due maxLength connection.inputEnded (Lines.linesOf stream)).length
        (turns.length + actions.countP (·.reads client)) ≤
      turns.length + (lobby.readerTurns client actions).length := by
  induction actions generalizing lobby connection stream turns with
  | nil => exact Nat.min_le_right _ _
  | cons action rest ih =>
    obtain ⟨next, now, steps⟩ := steps found action
    rw [limit] at steps
    have later := ih now (lobby.listening_step action ▸ limit) (h.step steps)
    have more := (ReaderTurn.due_mono maxLength connection.inputEnded (action.hangsUp client) stream
      (action.piece client)).length_le
    rw [← steps.inputEnded] at more
    rw [readerTurns_cons found, limit, List.length_append, List.countP_cons]
    rw [List.length_append] at later
    by_cases reads : action.reads client = true
    · cases turn : connection.turn? maxLength with
      | none =>
        rw [h.due_of_idle turn]
        omega
      | some taken =>
        have one : (connection.turnAt? client maxLength action).toList.length = 1 := by
          simp [Connection.turnAt?, reads, turn]
        rw [if_pos reads]
        omega
    · rw [if_neg reads]
      omega

theorem follows_of_connected (connected : lobby.connection? client = some { subscriber })
    (actions : List LobbyAction) :
    ∃ connection, (lobby.run actions).connection? client = some connection ∧
      connection.inputEnded = actions.any (·.hangsUp client) ∧
      connection.Follows lobby.listening.maxLineLength (sent client actions)
        (lobby.readerTurns client actions) := by
  simpa using follows_run connected rfl (.start _ subscriber) actions

/-- Whatever goes on, what was due at a time is done in as many turns. -/
theorem due_readerTurns (connected : lobby.connection? client = some { subscriber })
    (earlier later : List LobbyAction) :
    (ReaderTurn.due lobby.listening.maxLineLength (earlier.any (·.hangsUp client))
        (Lines.linesOf (sent client earlier))).take
          ((lobby.readerTurns client earlier).length + later.countP (·.reads client)) <+:
      lobby.readerTurns client (earlier ++ later) := by
  have limit : (lobby.run earlier).listening.maxLineLength = lobby.listening.maxLineLength := by
    rw [listening_run]
  obtain ⟨middle, now, ended, follows⟩ := follows_of_connected connected earlier
  obtain ⟨last, _, ended', follows'⟩ := follows_run now limit follows later
  have enough := length_readerTurns now limit follows later
  obtain ⟨owed, all, _⟩ := follows'.owes
  -- What was due then and what has been done since are both a beginning of what is due in the end.
  have due := ReaderTurn.due_mono lobby.listening.maxLineLength middle.inputEnded
    (later.any (·.hangsUp client)) (sent client earlier) (sent client later)
  rw [← ended', all] at due
  rw [ended] at due enough
  refine List.prefix_of_prefix_length_le ((List.take_prefix _ _).trans due) ?_ ?_
  · rw [readerTurns_append]
    exact List.prefix_append _ _
  · rw [readerTurns_append, List.length_take, List.length_append, Nat.min_comm]
    exact enough

/-- A client has connected, and anything goes on: it sends bytes in any pieces, and its reader takes
turns at any time. The lines of what it sent are handled in order, up to the first that is too long,
and each has its one effect. A reader that has not ended can go on just when what it has not handled
yet holds a newline or one byte too many, or its client has hung up; and what is due at a time is
done in as many turns. Once the client has hung up, one turn more than there are lines is enough. -/
theorem commands_in_order (lobby : Lobby) (client : Nat) (subscriber : SubscriberId)
    (actions : List LobbyAction) (connected : lobby.connection? client = some { subscriber }) :
    let limit := lobby.listening.maxLineLength
    let lines := Lines.linesOf (sent client actions)
    let turns := lobby.readerTurns client actions
    ∃ connection, (lobby.run actions).connection? client = some connection ∧
      ReaderProgress limit (.hangUp client ∈ actions) lines turns connection.result? ∧
      (∀ reading ∈ lobby.readings client actions,
        reading.found.Answers subscriber reading.turn? reading.left) ∧
      (connection.result? = none → ∃ (handled : List Bytes) (rest : Bytes),
        turns = handled.map .handle ∧ sent client actions = handled.flatten ++ rest ∧
          (connection.turn? limit ≠ none ↔
            .hangUp client ∈ actions ∨ Lines.newline ∈ rest ∨ limit < rest.length)) ∧
      (∀ earlier later, actions = earlier ++ later →
        let due := ReaderTurn.due limit (earlier.any (·.hangsUp client))
          (Lines.linesOf (sent client earlier))
        due.take ((lobby.readerTurns client earlier).length + later.countP (·.reads client)) <+:
          turns) ∧
      ∀ earlier later, actions = earlier ++ later → .hangUp client ∈ earlier →
        lines.length < later.countP (·.reads client) → connection.result? ≠ none := by
  intro limit lines turns
  obtain ⟨connection, there, ended, follows⟩ := follows_of_connected connected actions
  have progress : ReaderProgress limit (connection.inputEnded = true) lines turns
      connection.result? := follows.progress
  have hung : (connection.inputEnded = true) = (.hangUp client ∈ actions) := by
    simp [ended, List.any_eq_true, LobbyAction.hangsUp_iff]
  rw [hung] at progress
  refine ⟨connection, there, progress, answers_run connected actions, ?_, ?_, ?_⟩
  · intro unfinished
    obtain ⟨handled, rest, took, split, ready⟩ := follows.ready_iff unfinished
    rw [hung] at ready
    exact ⟨handled, rest, took, split, ready⟩
  · rintro earlier later rfl
    exact due_readerTurns connected earlier later
  · rintro earlier later rfl hungUp many unfinished
    have due := due_readerTurns connected earlier later
    rw [List.any_eq_true.mpr ⟨_, hungUp, LobbyAction.hangsUp_iff.mpr rfl⟩] at due
    have few := Nat.le_trans due.length_le (progress.length_le unfinished)
    rw [List.length_take] at few
    rw [List.take_of_length_le (by omega)] at due
    -- The end of the reader is among what was due, so its turns are not all lines.
    obtain ⟨handled, _, took, _⟩ := follows.ready_iff unfinished
    rw [took] at due
    rcases ReaderTurn.due_ended limit _ with finish | refuse
    · simpa using due.subset finish
    · simpa using due.subset refuse

/-- The bytes of a line of ASCII letters, with its newline. -/
def lineBytes (text : String) : Bytes :=
  text.toList.map (fun c => UInt8.ofNat c.toNat) ++ [Lines.newline]

def startLine : Bytes := lineBytes "\x7b\"event\":\"startStream\",\"deviceId\":\"cam-1\"\x7d"

def stopLine : Bytes := lineBytes "\x7b\"event\":\"stopStream\",\"deviceId\":\"cam-1\"\x7d"

/-- A line that is no command. -/
def strayLine : Bytes := lineBytes "start cam-1"

/-- A client sends three lines in two pieces, then one byte more than a line may have, and never
hangs up. Its reader is idle in between. -/
def openStream : List LobbyAction :=
  [.arrive 1 (startLine ++ strayLine.take 5), .read 1, .read 1,
   .arrive 1 (strayLine.drop 5 ++ stopLine), .read 1, .read 1,
   .arrive 1 (List.replicate 40 120), .read 1, .arrive 1 (List.replicate 25 120), .read 1]

theorem commands_in_order_open :
    let lobby := (new { maxLineLength := 64 } {}).run [.connect]
    lobby.connection? 1 = some { subscriber := 1 } ∧ .hangUp 1 ∉ openStream ∧
      ∃ connection, (lobby.run openStream).connection? 1 = some connection ∧
        [.handle startLine, .handle strayLine, .handle stopLine, .refuse] <+:
          lobby.readerTurns 1 openStream ∧
        (∀ reading ∈ lobby.readings 1 openStream,
          reading.found.Answers 1 reading.turn? reading.left) ∧
        connection.result? = some (.error (.protocol "command exceeds 64 bytes")) := by
  intro lobby
  have goesOn : .hangUp 1 ∉ openStream := by simp [openStream]
  obtain ⟨connection, there, progress, answers, _, done, _⟩ :=
    commands_in_order lobby 1 1 openStream rfl
  have due : (ReaderTurn.due 64 ((openStream.take 9).any (·.hangsUp 1))
      (Lines.linesOf (sent 1 (openStream.take 9)))).take
        ((lobby.readerTurns 1 (openStream.take 9)).length +
          (openStream.drop 9).countP (·.reads 1)) =
      [.handle startLine, .handle strayLine, .handle stopLine, .refuse] := by
    decide +kernel
  have took : [.handle startLine, .handle strayLine, .handle stopLine, .refuse] <+:
      lobby.readerTurns 1 openStream := by
    rw [← due]
    exact done (openStream.take 9) (openStream.drop 9) rfl
  refine ⟨rfl, goesOn, connection, there, took, answers, ?_⟩
  -- The last turn was a refusal, which is none of a reader that goes on or has come to the end.
  have refused : .refuse ∈ lobby.readerTurns 1 openStream := took.subset (by simp)
  generalize lobby.readerTurns 1 openStream = turns at progress refused
  generalize connection.result? = result at progress ⊢
  cases progress with
  | reading handled => simp at refused
  | finished hung => exact absurd hung goesOn
  | refused =>
    have limit : lobby.listening.maxLineLength = 64 := rfl
    rw [limit]
    decide

end Lobby

end CameraRelay
