import CameraRelay.Lobby
import CameraRelay.Proofs.Relay.Sessions

/-!
# What one action of the lobby does

A connection takes turns: it goes on as it is, or from one stage to the next, and asks the relay for
at most one thing. Every client keeps the seat it took when it connected.
-/

namespace CameraRelay

namespace Connection

/-- The line that the reader handles next, if it can go on and there is one. -/
def hears (connection : Connection) (maxLength : Nat) : List LineEffect :=
  if connection.canRead maxLength then
    match Lines.next maxLength connection.input with
    | .line line _ => [.ofLine line]
    | _ => []
  else []

/-- Where a connection goes from its stage, with what it asks for on the way. -/
inductive Goes (connection : Connection) : Option Action → ConnectionStage → Prop
  | stays {asked : Option Action} {stage : ConnectionStage} (same : stage = connection.stage) :
    Goes connection asked stage
  | closes {asked : Option Action} (outcome : Outcome) (stage : connection.stage = .reading) :
    Goes connection asked (.closing outcome)
  | leaves (outcome : Outcome) (stage : connection.stage = .closing outcome) :
    Goes connection (some (.dropMailbox connection.subscriber)) (.leaving outcome)
  | ends (outcome : Outcome) (stage : connection.stage = .leaving outcome) :
    Goes connection (some (.disconnect connection.subscriber)) (.over outcome)

/-- What a turn of a connection comes to. Only a start line makes it ask for a stream, and in its
own name. -/
structure Turns (connection : Connection) (heard : List LineEffect)
    (turn : Connection × Option Action) : Prop where
  subscriber : turn.1.subscriber = connection.subscriber
  goes : connection.Goes turn.2 turn.1.stage
  asks : ∀ subscriber device, turn.2 = some (.ask subscriber device) →
    subscriber = connection.subscriber ∧ .start device ∈ heard

variable (connection : Connection) (heard : List LineEffect)

theorem turns_of_same {next : Connection} (subscriber : next.subscriber = connection.subscriber)
    (stage : next.stage = connection.stage) : connection.Turns heard (next, none) :=
  ⟨subscriber, .stays stage, fun _ _ asks => by cases asks⟩

theorem turns_arrive (piece : Bytes) : connection.Turns heard (connection.arrive piece, none) := by
  simp only [arrive]
  split <;> exact turns_of_same connection heard rfl rfl

theorem reading_of_canRead {maxLength : Nat} (ready : connection.canRead maxLength = true) :
    connection.stage = .reading := by
  cases stage : connection.stage with
  | reading => rfl
  | _ => simp [canRead, stage] at ready

theorem turns_read (maxLength : Nat) :
    connection.Turns (connection.hears maxLength) (connection.read maxLength) := by
  by_cases ready : connection.canRead maxLength = true
  · have reading := connection.reading_of_canRead ready
    simp only [read, hears, ready, Bool.not_true, Bool.false_eq_true, if_false, if_true]
    cases Lines.next maxLength connection.input with
    | done => exact ⟨rfl, .closes _ reading, fun _ _ asks => by cases asks⟩
    | tooLong => exact ⟨rfl, .closes _ reading, fun _ _ asks => by cases asks⟩
    | line line rest =>
      -- Of all that a line may come to, only a start asks for a stream.
      refine ⟨rfl, .stays rfl, fun subscriber device asks => ?_⟩
      dsimp only at asks ⊢
      cases effect : LineEffect.ofLine line with
      | nothing => simp [effect, LineEffect.action?] at asks
      | complaint message => simp [effect, LineEffect.action?] at asks
      | start other =>
        rw [effect] at asks
        cases asks
        exact ⟨rfl, List.mem_singleton.mpr rfl⟩
      | stop other => simp [effect, LineEffect.action?] at asks
  · simp only [read, ready]
    exact turns_of_same connection _ rfl rfl

theorem read_of_hears {maxLength : Nat} {effect : LineEffect}
    (heard : connection.hears maxLength = [effect]) :
    (connection.read maxLength).2 = effect.action? connection.subscriber := by
  simp only [hears] at heard
  split at heard
  · next ready =>
    simp only [read, ready, Bool.not_true, Bool.false_eq_true, if_false]
    split at heard
    · next next =>
      obtain rfl := List.head_eq_of_cons_eq heard
      rw [next]
    · cases heard
  · cases heard

theorem turns_write (next? : Option Event) : connection.Turns heard (connection.write next?) := by
  simp only [write]
  split
  · cases next? with
    | some event => exact ⟨rfl, .stays rfl, fun _ _ asks => by cases asks⟩
    | none => exact turns_of_same connection heard rfl rfl
  · exact turns_of_same connection heard rfl rfl

theorem turns_stopWriter : connection.Turns heard connection.stopWriter := by
  simp only [stopWriter]
  split
  · next outcome stage => exact ⟨rfl, .leaves outcome stage, fun _ _ asks => by cases asks⟩
  · exact turns_of_same connection heard rfl rfl

theorem turns_leave : connection.Turns heard connection.leave := by
  simp only [leave]
  split
  · next outcome stage => exact ⟨rfl, .ends outcome stage, fun _ _ asks => by cases asks⟩
  · exact turns_of_same connection heard rfl rfl

end Connection

namespace Lobby

def new (listening : Net.Listening) (settings : RelaySettings) : Lobby :=
  { listening, relay := .new settings }

/-- The line of a client that an action handles, if it is a step of the client's reader. -/
def hears (lobby : Lobby) (client : Nat) : LobbyAction → List LineEffect
  | .read reader =>
    if reader = client then
      ((lobby.connection? client).map (·.hears lobby.listening.maxLineLength)).getD []
    else []
  | _ => []

/-- What an action does to the relay and to the connections. -/
inductive Moves (lobby : Lobby) : LobbyAction → Relay → List Connection → Prop
  | relay (action : Action) :
    Moves lobby (.relay action) (lobby.relay.step action) lobby.connections
  | connect :
    Moves lobby .connect (lobby.relay.step .subscribe)
      (lobby.connections ++ [{ subscriber := lobby.relay.subscribers + 1 }])
  | stay (action : LobbyAction) : Moves lobby action lobby.relay lobby.connections
  | turn {action : LobbyAction} {client : Nat} {connection : Connection}
    (turn : Connection × Option Action) (found : lobby.connection? client = some connection)
    (turns : connection.Turns (lobby.hears client action) turn) :
    Moves lobby action (lobby.relay.run turn.2.toList) (lobby.connections.set (client - 1) turn.1)

theorem moves_update (lobby : Lobby) {action : LobbyAction} {client : Nat}
    {change : Connection → Connection × Option Action}
    (turns : ∀ connection, lobby.connection? client = some connection →
      connection.Turns (lobby.hears client action) (change connection)) :
    Moves lobby action (lobby.update client change).relay
      (lobby.update client change).connections := by
  simp only [update]
  split
  · exact .stay action
  · next connection found => exact .turn (change connection) found (turns connection found)

theorem moves (lobby : Lobby) (action : LobbyAction) :
    Moves lobby action (lobby.step action).relay (lobby.step action).connections := by
  cases action with
  | relay action => exact .relay action
  | connect =>
    simp only [step]
    split
    · exact .connect
    · exact .stay _
  | arrive client piece =>
    simp only [step]
    exact lobby.moves_update fun connection _ => connection.turns_arrive _ piece
  | hangUp client =>
    simp only [step]
    exact lobby.moves_update fun connection _ => connection.turns_of_same _ rfl rfl
  | read client =>
    simp only [step]
    refine lobby.moves_update fun connection found => ?_
    have heard : lobby.hears client (.read client) =
        connection.hears lobby.listening.maxLineLength := by
      simp [hears, found]
    rw [heard]
    exact connection.turns_read _
  | write client =>
    simp only [step]
    exact lobby.moves_update fun connection _ => connection.turns_write _ _
  | stopWriter client =>
    simp only [step]
    exact lobby.moves_update fun connection _ => connection.turns_stopWriter _
  | leave client =>
    simp only [step]
    exact lobby.moves_update fun connection _ => connection.turns_leave _

/-! ### Who sits where -/

/-- The subscriber of a client's connection. -/
def seat? (lobby : Lobby) (client : Nat) : Option SubscriberId :=
  (lobby.connection? client).map (·.subscriber)

def seats (lobby : Lobby) : List SubscriberId := lobby.connections.map (·.subscriber)

/-- No two clients share a subscriber, and every subscriber is known to the relay. -/
structure Seated (lobby : Lobby) : Prop where
  distinct : lobby.seats.Nodup
  known : ∀ subscriber ∈ lobby.seats, subscriber ≤ lobby.relay.subscribers

variable {lobby : Lobby} {client : Nat} {subscriber : SubscriberId} {device : Device}

theorem seated_new (listening : Net.Listening) (settings : RelaySettings) :
    (new listening settings).Seated :=
  ⟨.nil, by simp [seats, new]⟩

theorem seat?_eq_some :
    lobby.seat? client = some subscriber ↔
      0 < client ∧ lobby.seats[client - 1]? = some subscriber := by
  cases client with
  | zero => simp [seat?, connection?]
  | succ place => simp [seat?, connection?, seats]

theorem seat?_of_connection? {connection : Connection}
    (found : lobby.connection? client = some connection) :
    lobby.seat? client = some connection.subscriber := by
  rw [seat?, found, Option.map_some]

/-- Everybody keeps the seat, and a newcomer takes the next. -/
theorem seats_step (lobby : Lobby) (action : LobbyAction) :
    ((lobby.step action).seats = lobby.seats ∧
      lobby.relay.subscribers ≤ (lobby.step action).relay.subscribers) ∨
    ((lobby.step action).seats = lobby.seats ++ [lobby.relay.subscribers + 1] ∧
      (lobby.step action).relay.subscribers = lobby.relay.subscribers + 1) := by
  have moved := lobby.moves action
  simp only [seats]
  generalize (lobby.step action).relay = relay, (lobby.step action).connections = connections
    at moved ⊢
  cases moved with
  | relay action => exact .inl ⟨rfl, lobby.relay.subscribers_le_step action⟩
  | connect => exact .inr ⟨List.map_append, rfl⟩
  | stay => exact .inl ⟨rfl, Nat.le_refl _⟩
  | @turn _ client connection turn found turns =>
    refine .inl ⟨?_, lobby.relay.subscribers_le_run _⟩
    -- The connection that took a turn stands where it stood, with the same subscriber.
    obtain ⟨_, here⟩ := seat?_eq_some.mp (seat?_of_connection? found)
    obtain ⟨bound, seat⟩ := List.getElem?_eq_some_iff.mp here
    rw [List.map_set, turns.subscriber, ← seat]
    exact List.set_getElem_self bound

theorem Seated.step (h : lobby.Seated) (action : LobbyAction) : (lobby.step action).Seated := by
  rcases lobby.seats_step action with ⟨same, more⟩ | ⟨grown, latest⟩
  · obtain ⟨distinct, known⟩ := h
    rw [← same] at distinct known
    exact ⟨distinct, fun subscriber mem => Nat.le_trans (known subscriber mem) more⟩
  · have fresh : lobby.relay.subscribers + 1 ∉ lobby.seats :=
      fun mem => Nat.not_succ_le_self _ (h.known _ mem)
    constructor
    · rw [grown]
      exact List.nodup_append_comm.mp (List.nodup_cons.mpr ⟨fresh, h.distinct⟩)
    · intro subscriber mem
      rw [grown] at mem
      rw [latest]
      rcases List.mem_append.mp mem with before | last
      · exact Nat.le_succ_of_le (h.known subscriber before)
      · exact Nat.le_of_eq (List.mem_singleton.mp last)

theorem Seated.run (h : lobby.Seated) (actions : List LobbyAction) :
    (lobby.run actions).Seated := by
  induction actions generalizing lobby with
  | nil => exact h
  | cons action rest ih => exact ih (h.step action)

theorem Seated.unique (h : lobby.Seated) {other : Nat} (here : lobby.seat? client = some subscriber)
    (there : lobby.seat? other = some subscriber) : client = other := by
  obtain ⟨positive, here⟩ := seat?_eq_some.mp here
  obtain ⟨positive', there⟩ := seat?_eq_some.mp there
  obtain ⟨bound, _⟩ := List.getElem?_eq_some_iff.mp here
  have same := (List.getElem?_inj bound h.distinct).mp (here.trans there.symm)
  omega

theorem seat?_step (sits : lobby.seat? client = some subscriber) (action : LobbyAction) :
    (lobby.step action).seat? client = some subscriber := by
  obtain ⟨positive, here⟩ := seat?_eq_some.mp sits
  refine seat?_eq_some.mpr ⟨positive, ?_⟩
  rcases lobby.seats_step action with ⟨same, _⟩ | ⟨grown, _⟩
  · rwa [same]
  · obtain ⟨bound, _⟩ := List.getElem?_eq_some_iff.mp here
    rw [grown, List.getElem?_append_left bound]
    exact here

/-! ### Runs -/

theorem leads_step (lobby : Lobby) (action : LobbyAction) :
    ∃ acts, (lobby.step action).relay = lobby.relay.run acts := by
  have moved := lobby.moves action
  generalize (lobby.step action).relay = relay, (lobby.step action).connections = connections
    at moved ⊢
  cases moved with
  | relay act => exact ⟨[act], rfl⟩
  | connect => exact ⟨[.subscribe], rfl⟩
  | stay => exact ⟨[], rfl⟩
  | turn => exact ⟨_, rfl⟩

theorem seat?_run (sits : lobby.seat? client = some subscriber) (actions : List LobbyAction) :
    (lobby.run actions).seat? client = some subscriber := by
  induction actions generalizing lobby with
  | nil => exact sits
  | cons action rest ih => exact ih (seat?_step sits action)

theorem shaped_run (shaped : lobby.relay.broker.roster.Shaped) (actions : List LobbyAction) :
    (lobby.run actions).relay.broker.roster.Shaped := by
  induction actions generalizing lobby with
  | nil => exact shaped
  | cons action rest ih =>
    obtain ⟨acts, eq⟩ := lobby.leads_step action
    refine ih ?_
    rw [eq]
    exact Relay.shaped_run shaped acts

end Lobby

end CameraRelay
