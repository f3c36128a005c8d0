import CameraRelay.Proofs.Lobby.Endings
import CameraRelay.Proofs.Lobby.Reading
import CameraRelay.Proofs.Relay.Viewing
import CameraRelay.Proofs.Wire

/-!
# What a writer writes

All that is put into a client's mailbox is written in order, each event once, as far as the writer
gets. The connection stops the writer wherever it is once the reader has ended, and what waits in
the mailbox then is lost, be it an answer of the reader or not. Main statement: `written_of_posted`.
-/

namespace CameraRelay

/-- Whether an action takes events out of a client's mailbox. -/
def Action.takesFrom (client : SubscriberId) : Action → Bool
  | .receive taker _ => taker == client
  | .dropMailbox dropper => dropper == client
  | _ => false

namespace Relay

variable {relay : Relay} {action : Action} {client : SubscriberId}

theorem prefix_of_eq {next : Relay} (same : next.events client = relay.events client) :
    relay.events client <+: next.events client := ⟨[], by rw [same, List.append_nil]⟩

theorem prefix_of_offered {next : Relay} {offer : Option Event}
    (put : next.mailbox? client = (relay.mailbox? client).map (·.offered offer)) :
    relay.events client <+: next.events client := by
  rcases events_offered put with same | ⟨event, _, more⟩
  · exact prefix_of_eq same
  · exact ⟨[event], more.symm⟩

theorem events_receive (relay : Relay) (client : SubscriberId) (count : Nat) :
    (relay.step (.receive client count)).events client = (relay.events client).drop count := by
  show (relay.updateMailbox client fun box => (box.receiveMany count).1).events client = _
  rw [events_updateMailbox, events_eq]
  cases relay.mailbox? client <;> simp [Mailbox.receiveMany]

theorem events_dropMailbox (relay : Relay) (client : SubscriberId) :
    (relay.step (.dropMailbox client)).events client = [] := by
  show (relay.updateMailbox client .drop).events client = _
  rw [events_updateMailbox]
  cases relay.mailbox? client <;> rfl

theorem events_subscribe (relay : Relay) :
    (relay.step .subscribe).events (relay.subscribers + 1) = [] := by
  show ((Mailboxes.get? (relay.broker.mailboxes.set _ _) _).map (·.queue)).getD [] = _
  rw [handle, Mailboxes.get?_set]
  rfl

/-- What waits for a client goes on to wait, unless it is taken out of the mailbox. -/
theorem events_prefix_step (sound : Sound Own relay.broker.lives)
    (known : client ≤ relay.subscribers) (keeps : action.takesFrom client = false) :
    relay.events client <+: (relay.step action).events client := by
  rcases relay.mailbox?_step client sound action with ⟨offer, put⟩ | ⟨acts, _⟩
  · exact prefix_of_offered put
  cases action with
  | subscribe =>
    apply prefix_of_eq
    have apart : (handle client).mailbox ≠ (handle (relay.subscribers + 1)).mailbox :=
      Nat.ne_of_lt (Nat.lt_succ_of_le known)
    exact events_of_mailbox? (Mailboxes.get?_set_of_ne relay.broker.mailboxes apart _)
  | receive taker count =>
    have apart : taker ≠ client := by simpa [Action.takesFrom] using keeps
    exact prefix_of_eq (events_updateMailbox_of_ne relay apart _)
  | dropMailbox dropper =>
    have apart : dropper ≠ client := by simpa [Action.takesFrom] using keeps
    exact prefix_of_eq (events_updateMailbox_of_ne relay apart _)
  | closeMailbox closer =>
    apply prefix_of_eq
    by_cases here : closer = client
    · obtain rfl := here
      have queue (box : Mailbox) : box.close.queue = box.queue := by
        unfold Mailbox.close
        split <;> rfl
      show (relay.updateMailbox closer .close).events closer = _
      rw [events_updateMailbox]
      simp only [queue]
      rfl
    · exact events_updateMailbox_of_ne relay here _
  | _ => cases acts

/-- Nothing comes to a client that does not listen. -/
theorem events_step_of_deaf (sound : Sound Own relay.broker.lives) (deaf : relay.Deaf client)
    (none : relay.events client = []) (action : Action) : (relay.step action).events client = [] := by
  rcases relay.mailbox?_step client sound action with ⟨offer, put⟩ | ⟨_, fewer⟩
  · rw [← none]
    apply events_of_mailbox?
    rw [put]
    have closed := deaf.closed
    unfold Mailboxes.isClosed at closed
    unfold mailbox?
    cases found : relay.broker.mailboxes.get? (handle client).mailbox with
    | none => rfl
    | some box =>
      rw [found] at closed
      cases offer with
      | none => rfl
      | some event => exact congrArg some (Mailbox.deliver_of_closed closed event)
  · rw [none] at fewer
    exact List.length_eq_zero_iff.mp (Nat.le_zero.mp fewer)

theorem events_prefix_run (sound : Sound Own relay.broker.lives) (orderly : relay.Orderly)
    (known : client ≤ relay.subscribers) {actions : List Action}
    (keeps : ∀ action ∈ actions, action.takesFrom client = false) :
    relay.events client <+: (relay.run actions).events client := by
  induction actions generalizing relay with
  | nil => exact List.prefix_refl _
  | cons action rest ih =>
    have now := events_prefix_step sound known (keeps action List.mem_cons_self)
    have known' := Nat.le_trans known (relay.subscribers_le_step action)
    have later := ih (sound_step sound orderly action) (orderly.step action) known'
      fun other mem => keeps other (List.mem_cons_of_mem _ mem)
    exact now.trans later

theorem events_run_of_deaf (sound : Sound Own relay.broker.lives) (orderly : relay.Orderly)
    (deaf : relay.Deaf client) (none : relay.events client = []) (actions : List Action) :
    (relay.run actions).events client = [] := by
  induction actions generalizing relay with
  | nil => exact none
  | cons action rest ih =>
    exact ih (sound_step sound orderly action) (orderly.step action) (deaf.step action)
      (events_step_of_deaf sound deaf none action)

end Relay

/-- What a reader has to say to its client. -/
inductive Complaint : Event → Prop
  | tooLong : Complaint (.error none "command too long")
  | unnamed : Complaint (.error none "deviceId is required")
  | malformed (reason : String) : Complaint (.error none (Failure.protocol reason).text)

theorem Relay.events_tell (relay : Relay) (client : SubscriberId) (message : String) :
    (relay.tell client message).events client = relay.events client ∨
      (relay.tell client message).events client = relay.events client ++ [.error none message] := by
  unfold tell
  rw [events_updateMailbox, events_eq]
  cases relay.mailbox? client with
  | none => exact .inl rfl
  | some box => exact box.queue_deliver _

theorem Relay.Answers.complaint {relay left : Relay} {client : SubscriberId}
    {turn? : Option ReaderTurn} (h : relay.Answers client turn? left) {event : Event}
    (more : event ∈ (left.events client).drop (relay.events client).length) : Complaint event := by
  have told {message : String} (complaint : Complaint (.error none message))
      (more : event ∈ ((relay.tell client message).events client).drop
        (relay.events client).length) : Complaint event := by
    rcases relay.events_tell client message with same | grown
    · rw [same, List.drop_length] at more
      cases more
    · rw [grown, List.drop_left] at more
      rw [List.mem_singleton.mp more]
      exact complaint
  have quiet (same : left.events client = relay.events client) : Complaint event := by
    rw [same, List.drop_length] at more
    cases more
  cases h with
  | idle => exact quiet rfl
  | finish => exact quiet rfl
  | refuse => exact told .tooLong more
  | blank => exact quiet rfl
  | malformed reason => exact told (.malformed reason) more
  | unnamed => exact told .unnamed more
  | start => exact quiet rfl
  | stop =>
    refine quiet (events_of_mailbox? ?_)
    simp only [mailbox?, Broker.mailboxes_detach]

/-- An event that was put into a client's mailbox. -/
structure Posting where
  event : Event
  /-- Whether the client's own reader put it there. -/
  byReader : Bool
deriving DecidableEq

namespace Connection

/-- A connection whose writer writes nothing and goes on, or is at its end already. -/
structure Abides (connection next : Connection) : Prop where
  subscriber : next.subscriber = connection.subscriber
  written : next.written = connection.written
  isWriting : next.isWriting = connection.isWriting

variable (connection : Connection)

theorem Abides.refl : connection.Abides connection := ⟨rfl, rfl, rfl⟩

theorem abides_arrive (piece : Bytes) : connection.Abides (connection.arrive piece) := by
  unfold arrive
  split <;> exact ⟨rfl, rfl, rfl⟩

theorem abides_read (maxLength : Nat) : connection.Abides (connection.read maxLength).1 := by
  by_cases ready : connection.canRead maxLength = true
  · have reading := connection.reading_of_canRead ready
    have writes : connection.isWriting = true := by simp [isWriting, reading]
    simp only [read, ready, Bool.not_true, Bool.false_eq_true, if_false]
    split
    · exact ⟨rfl, rfl, writes.symm⟩
    · exact ⟨rfl, rfl, writes.symm⟩
    · exact ⟨rfl, rfl, rfl⟩
  · have same : connection.read maxLength = (connection, none) := by simp [read, ready]
    rw [same]
    exact .refl connection

theorem abides_leave : connection.Abides connection.leave.1 := by
  unfold leave
  split
  · next stage => exact ⟨rfl, rfl, by simp [isWriting, stage]⟩
  · exact .refl connection

/-! ### Turns that take nothing out of a mailbox -/

theorem takesFrom_of_line (effect : LineEffect) (subscriber client : SubscriberId) :
    ∀ action ∈ (effect.action? subscriber).toList, action.takesFrom client = false := by
  cases effect <;> simp [LineEffect.action?, Action.takesFrom]

theorem takesFrom_of_read (maxLength : Nat) (client : SubscriberId) :
    ∀ action ∈ (connection.read maxLength).2.toList, action.takesFrom client = false := by
  unfold read
  split
  · simp
  · split
    · simp
    · simp [Action.takesFrom]
    · exact takesFrom_of_line _ _ _

theorem takesFrom_of_leave (client : SubscriberId) :
    ∀ action ∈ connection.leave.2.toList, action.takesFrom client = false := by
  unfold leave
  split <;> simp [Action.takesFrom]

theorem write_none : connection.write none = (connection, none) := by
  unfold write
  split <;> rfl

theorem write_some (writes : connection.isWriting = true) (event : Event) :
    connection.write (some event) =
      ({ connection with written := connection.written ++ [event] },
        some (.receive connection.subscriber 1)) := if_pos writes

theorem write_of_stopped (stopped : ¬ connection.isWriting = true) (next? : Option Event) :
    connection.write next? = (connection, none) := if_neg stopped

theorem takesFrom_of_write {client : SubscriberId} (apart : connection.subscriber ≠ client)
    (next? : Option Event) :
    ∀ action ∈ (connection.write next?).2.toList, action.takesFrom client = false := by
  unfold write
  split
  · cases next? <;> simp [Action.takesFrom, apart]
  · simp

theorem takesFrom_of_stopWriter {client : SubscriberId} (apart : connection.subscriber ≠ client) :
    ∀ action ∈ connection.stopWriter.2.toList, action.takesFrom client = false := by
  unfold stopWriter
  split <;> simp [Action.takesFrom, apart]

end Connection

namespace Lobby

/-- What an action puts into a client's mailbox, once the client is connected. -/
def posts (lobby : Lobby) (client : Nat) (action : LobbyAction) : List Posting :=
  match lobby.seat? client with
  | some subscriber =>
    (((lobby.step action).relay.events subscriber).drop
      (lobby.relay.events subscriber).length).map fun event =>
        { event, byReader := action.reads client }
  | none => []

/-- All that is put into a client's mailbox in a run. -/
def posted (lobby : Lobby) (client : Nat) : List LobbyAction → List Posting
  | [] => []
  | action :: rest => lobby.posts client action ++ (lobby.step action).posted client rest

/-- What waits in a client's mailbox when its writer is stopped. -/
def drops (lobby : Lobby) (client : Nat) : LobbyAction → List Event
  | .stopWriter stopped =>
    if stopped = client then
      match lobby.connection? client with
      | some connection =>
        match connection.stage with
        | .closing _ => lobby.relay.events connection.subscriber
        | _ => []
      | none => []
    else []
  | _ => []

def dropped (lobby : Lobby) (client : Nat) : List LobbyAction → List Event
  | [] => []
  | action :: rest => lobby.drops client action ++ (lobby.step action).dropped client rest

/-- What an action comes to for the writer of a client. -/
inductive Mails (lobby : Lobby) (client : Nat) (connection : Connection) :
    LobbyAction → Connection → Relay → Prop
  | abides {action : LobbyAction} {next : Connection} (acts : List Action)
    (unstopped : lobby.drops client action = []) (abides : connection.Abides next)
    (spares : ∀ act ∈ acts, act.takesFrom connection.subscriber = false) :
    Mails lobby client connection action next (lobby.relay.run acts)
  | writes (event : Event) (rest : List Event) (writes : connection.isWriting = true)
    (waits : lobby.relay.events connection.subscriber = event :: rest) :
    Mails lobby client connection (.write client)
      { connection with written := connection.written ++ [event] }
      (lobby.relay.step (.receive connection.subscriber 1))
  | stops (outcome : Outcome) (stage : connection.stage = .closing outcome) :
    Mails lobby client connection (.stopWriter client)
      { connection with stage := .leaving outcome }
      (lobby.relay.step (.dropMailbox connection.subscriber))

variable {lobby : Lobby} {client : Nat} {connection : Connection} {action : LobbyAction}

/-- An action of a client itself. -/
theorem update_own (found : lobby.connection? client = some connection)
    (change : Connection → Connection × Option Action) :
    (lobby.update client change).connection? client = some (change connection).1 ∧
      (lobby.update client change).relay = lobby.relay.run (change connection).2.toList := by
  rw [connection?_update, if_pos rfl, found, Option.map_some]
  simp only [update, found, and_self]

theorem subscriber_ne (seated : lobby.Seated) (found : lobby.connection? client = some connection)
    {other : Nat} {neighbour : Connection} (there : lobby.connection? other = some neighbour)
    (apart : other ≠ client) : neighbour.subscriber ≠ connection.subscriber := by
  intro same
  apply apart
  have there := seat?_of_connection? there
  rw [same] at there
  exact seated.unique there (seat?_of_connection? found)

theorem mails_update (found : lobby.connection? client = some connection) {other : Nat}
    {change : Connection → Connection × Option Action} (unstopped : lobby.drops client action = [])
    (own : other = client → connection.Abides (change connection).1)
    (spares : ∀ neighbour, lobby.connection? other = some neighbour →
      ∀ act ∈ (change neighbour).2.toList, act.takesFrom connection.subscriber = false) :
    ∃ next, (lobby.update other change).connection? client = some next ∧
      lobby.Mails client connection action next (lobby.update other change).relay := by
  have next : ∃ next, (lobby.update other change).connection? client = some next ∧
      connection.Abides next := by
    rw [connection?_update, found]
    by_cases same : other = client
    · exact ⟨_, if_pos same, own same⟩
    · exact ⟨_, if_neg same, .refl connection⟩
  obtain ⟨next, now, abides⟩ := next
  refine ⟨next, now, ?_⟩
  cases there : lobby.connection? other with
  | none =>
    have same : (lobby.update other change).relay = lobby.relay.run [] := by
      simp only [update, there]
      rfl
    rw [same]
    exact .abides [] unstopped abides (by simp)
  | some neighbour =>
    have run : (lobby.update other change).relay =
        lobby.relay.run (change neighbour).2.toList := by simp only [update, there]
    rw [run]
    exact .abides _ unstopped abides (spares neighbour there)

theorem mails (seated : lobby.Seated) (found : lobby.connection? client = some connection)
    (alone : ∀ act, action = .relay act → act.takesFrom connection.subscriber = false) :
    ∃ next, (lobby.step action).connection? client = some next ∧
      lobby.Mails client connection action next (lobby.step action).relay := by
  cases action with
  | relay act =>
    refine ⟨connection, found, .abides [act] rfl (.refl connection) ?_⟩
    simpa using alone act rfl
  | connect =>
    refine ⟨connection, ?_, ?_⟩
    · simp only [step]
      split
      · cases client with
        | zero => cases found
        | succ place =>
          obtain ⟨bound, _⟩ := List.getElem?_eq_some_iff.mp found
          simp only [connection?, List.getElem?_append_left bound]
          exact found
      · exact found
    · simp only [step]
      split
      · exact .abides [.subscribe] rfl (.refl connection) (by simp [Action.takesFrom])
      · exact .abides [] rfl (.refl connection) (by simp)
  | arrive sender piece =>
    exact mails_update found rfl (fun _ => connection.abides_arrive piece) (by simp)
  | hangUp sender => exact mails_update found rfl (fun _ => ⟨rfl, rfl, rfl⟩) (by simp)
  | read reader =>
    exact mails_update found rfl (fun _ => connection.abides_read _)
      fun neighbour _ => neighbour.takesFrom_of_read _ _
  | leave leaver =>
    exact mails_update found rfl (fun _ => connection.abides_leave)
      fun neighbour _ => neighbour.takesFrom_of_leave _
  | stopWriter stopped =>
    by_cases own : stopped = client
    · obtain rfl := own
      obtain ⟨now, run⟩ := update_own found (·.stopWriter)
      refine ⟨_, now, ?_⟩
      show lobby.Mails stopped connection _ _ (lobby.update stopped (·.stopWriter)).relay
      rw [run]
      cases stage : connection.stage with
      | closing outcome =>
        simp only [Connection.stopWriter, stage]
        exact .stops outcome stage
      | _ =>
        simp only [Connection.stopWriter, stage]
        exact .abides [] (by simp [drops, found, stage]) (.refl connection) (by simp)
    · refine mails_update found (if_neg own) (fun same => absurd same own) fun neighbour there => ?_
      exact neighbour.takesFrom_of_stopWriter (subscriber_ne seated found there own)
  | write writer =>
    simp only [step]
    by_cases own : writer = client
    · obtain rfl := own
      obtain ⟨now, run⟩ := update_own found fun c => c.write (lobby.nextEvent? c)
      refine ⟨_, now, ?_⟩
      rw [run, nextEvent?]
      by_cases writes : connection.isWriting = true
      · cases waits : lobby.relay.events connection.subscriber with
        | nil =>
          rw [List.head?_nil, connection.write_none]
          exact .abides [] rfl (.refl connection) (by simp)
        | cons event rest =>
          rw [List.head?_cons, connection.write_some writes]
          exact .writes event rest writes waits
      · rw [connection.write_of_stopped writes]
        exact .abides [] rfl (.refl connection) (by simp)
    · refine mails_update found rfl (fun same => absurd same own) fun neighbour there => ?_
      exact neighbour.takesFrom_of_write (subscriber_ne seated found there own) _

/-! ### The account of a mailbox -/

/-- What was put into a mailbox is what was written, what waits and what was lost. -/
structure Accounts (relay : Relay) (connection : Connection) (posted : List Posting)
    (lost : List Event) : Prop where
  posted : posted.map (·.event) =
    connection.written ++ relay.events connection.subscriber ++ lost
  writing : connection.isWriting = true → lost = []
  stopped : ¬ connection.isWriting = true → relay.events connection.subscriber = []

variable {posted : List Posting} {lost : List Event}

theorem map_posts (found : lobby.connection? client = some connection) (action : LobbyAction) :
    (lobby.posts client action).map (·.event) =
      ((lobby.step action).relay.events connection.subscriber).drop
        (lobby.relay.events connection.subscriber).length := by
  simp [posts, seat?_of_connection? found, Function.comp_def]

theorem deaf_of_stopped (parted : lobby.Parted) (found : lobby.connection? client = some connection)
    (stopped : ¬ connection.isWriting = true) : lobby.relay.Deaf connection.subscriber := by
  have parted := parted.stages connection (mem_of_connection? found)
  unfold Connection.isWriting at stopped
  generalize connection.stage = stage at parted stopped
  match stage, parted, stopped with
  | .reading, _, stopped => exact absurd rfl stopped
  | .closing _, _, stopped => exact absurd rfl stopped
  | .leaving _, deaf, _ => exact deaf
  | .over _, forgotten, _ => exact forgotten.deaf

theorem Mails.accounts {next : Connection} {relay : Relay} {more : List Posting}
    (mails : lobby.Mails client connection action next relay)
    (h : Accounts lobby.relay connection posted lost) (parted : lobby.Parted)
    (sound : Sound Relay.Own lobby.relay.broker.lives)
    (found : lobby.connection? client = some connection)
    (posts : more.map (·.event) = (relay.events connection.subscriber).drop
      (lobby.relay.events connection.subscriber).length) :
    Accounts relay next (posted ++ more) (lost ++ lobby.drops client action) := by
  have known := parted.seated.known connection.subscriber
    (List.mem_map_of_mem (mem_of_connection? found))
  have split : (posted ++ more).map (·.event) =
      connection.written ++ lobby.relay.events connection.subscriber ++ lost ++
        more.map (·.event) := by rw [List.map_append, h.posted]
  cases mails with
  | abides acts unstopped abides spares =>
    rw [unstopped, List.append_nil]
    by_cases writes : connection.isWriting = true
    · obtain ⟨grown, waits⟩ := Relay.events_prefix_run sound parted.orderly known spares
      rw [← waits, List.drop_left] at posts
      have none := h.writing writes
      constructor
      · rw [split, posts, abides.subscriber, abides.written, ← waits, none]
        simp
      · exact fun _ => none
      · exact fun stopped => absurd (abides.isWriting.trans writes) stopped
    · have empty := h.stopped writes
      have after := Relay.events_run_of_deaf sound parted.orderly
        (deaf_of_stopped parted found writes) empty acts
      rw [after, List.drop_nil] at posts
      constructor
      · rw [split, posts, abides.subscriber, abides.written, after, empty]
        simp
      · exact fun writing => absurd (abides.isWriting.symm.trans writing) writes
      · intro _
        rw [abides.subscriber, after]
  | writes event rest writes waits =>
    have after : (lobby.relay.step (.receive connection.subscriber 1)).events
        connection.subscriber = rest := by
      rw [Relay.events_receive, waits, List.drop_one, List.tail_cons]
    have none := h.writing writes
    rw [after, waits, List.length_cons, List.drop_eq_nil_of_le (Nat.le_succ _)] at posts
    constructor
    · rw [split, posts, after, waits, none]
      simp [drops]
    · exact fun _ => by simp [none, drops]
    · exact fun stopped => absurd writes stopped
  | stops outcome stage =>
    have after := lobby.relay.events_dropMailbox connection.subscriber
    have writes : connection.isWriting = true := by simp [Connection.isWriting, stage]
    have none := h.writing writes
    have drops : lobby.drops client (.stopWriter client) =
        lobby.relay.events connection.subscriber := by simp [drops, found, stage]
    rw [after, List.drop_nil] at posts
    constructor
    · rw [split, posts, after, drops, none]
      simp
    · intro writing
      simp [Connection.isWriting] at writing
    · exact fun _ => after

theorem Accounts.step (h : Accounts lobby.relay connection posted lost) (parted : lobby.Parted)
    (sound : Sound Relay.Own lobby.relay.broker.lives)
    (found : lobby.connection? client = some connection)
    (alone : ∀ act, action = .relay act → act.takesFrom connection.subscriber = false) :
    ∃ next, (lobby.step action).connection? client = some next ∧
      Accounts (lobby.step action).relay next (posted ++ lobby.posts client action)
        (lost ++ lobby.drops client action) := by
  obtain ⟨next, now, mails⟩ := mails parted.seated found alone
  exact ⟨next, now, mails.accounts h parted sound found (map_posts found action)⟩

theorem sound_step (sound : Sound Relay.Own lobby.relay.broker.lives) (orderly : lobby.relay.Orderly)
    (action : LobbyAction) : Sound Relay.Own (lobby.step action).relay.broker.lives := by
  obtain ⟨acts, leads⟩ := lobby.leads_step action
  rw [leads]
  exact Relay.sound_run sound orderly acts

theorem Accounts.run (h : Accounts lobby.relay connection posted lost) (parted : lobby.Parted)
    (sound : Sound Relay.Own lobby.relay.broker.lives)
    (found : lobby.connection? client = some connection) {actions : List LobbyAction}
    {last : Connection} (there : (lobby.run actions).connection? client = some last)
    (alone : ∀ act, .relay act ∈ actions → act.takesFrom last.subscriber = false) :
    Accounts (lobby.run actions).relay last (posted ++ lobby.posted client actions)
      (lost ++ lobby.dropped client actions) := by
  induction actions generalizing lobby connection posted lost with
  | nil =>
    cases found.symm.trans there
    simp only [Lobby.posted, dropped, List.append_nil]
    exact h
  | cons action rest ih =>
    have same : last.subscriber = connection.subscriber := by
      have sits := seat?_run (seat?_of_connection? found) (action :: rest)
      exact Option.some.inj ((seat?_of_connection? there).symm.trans sits)
    have alone' : ∀ act, action = .relay act → act.takesFrom connection.subscriber = false :=
      fun act own => same ▸ alone act (own ▸ List.mem_cons_self)
    obtain ⟨next, now, after⟩ := h.step parted sound found alone'
    have later := ih after (parted.step action) (sound_step sound parted.orderly action) now there
      fun act mem => alone act (List.mem_cons_of_mem _ mem)
    simp only [List.append_assoc] at later
    exact later

/-- A client that comes finds an empty mailbox and was written nothing yet. -/
theorem accounts_of_new (absent : lobby.connection? client = none) {action : LobbyAction}
    (there : (lobby.step action).connection? client = some connection) :
    Accounts (lobby.step action).relay connection [] [] := by
  cases client with
  | zero => cases there
  | succ place =>
    have beyond : lobby.connections.length ≤ place := List.getElem?_eq_none_iff.mp absent
    have moved := lobby.moves action
    change (lobby.step action).connections[place]? = some connection at there
    generalize (lobby.step action).relay = relay, (lobby.step action).connections = connections
      at moved there ⊢
    cases moved with
    | relay => cases absent.symm.trans there
    | stay => cases absent.symm.trans there
    | turn turn found turns =>
      rw [List.getElem?_eq_none_iff.mpr (by rwa [List.length_set])] at there
      cases there
    | connect =>
      rw [List.getElem?_append_right beyond] at there
      obtain rfl := List.mem_singleton.mp (List.mem_of_getElem? there)
      have empty := lobby.relay.events_subscribe
      exact ⟨by simp [empty], fun _ => rfl, fun _ => empty⟩

theorem accounts_run (parted : lobby.Parted) (sound : Sound Relay.Own lobby.relay.broker.lives)
    (absent : lobby.connection? client = none) {actions : List LobbyAction}
    (there : (lobby.run actions).connection? client = some connection)
    (alone : ∀ act, .relay act ∈ actions → act.takesFrom connection.subscriber = false) :
    Accounts (lobby.run actions).relay connection (lobby.posted client actions)
      (lobby.dropped client actions) := by
  induction actions generalizing lobby with
  | nil => cases absent.symm.trans there
  | cons action rest ih =>
    have posts : lobby.posts client action = [] := by simp [Lobby.posts, seat?, absent]
    have drops : lobby.drops client action = [] := by
      cases action <;> simp [Lobby.drops, absent]
    have parted' := parted.step action
    have sound' := sound_step sound parted.orderly action
    have alone' : ∀ act, .relay act ∈ rest → act.takesFrom connection.subscriber = false :=
      fun act mem => alone act (List.mem_cons_of_mem _ mem)
    simp only [Lobby.posted, dropped, posts, drops, List.nil_append]
    cases now : (lobby.step action).connection? client with
    | none => exact ih parted' sound' now there alone'
    | some next => exact (accounts_of_new absent now).run parted' sound' now there alone'

/-! ### What a reader says -/

theorem posts_of_reads (found : lobby.connection? client = some connection) {posting : Posting}
    (mem : posting ∈ lobby.posts client action) (byReader : posting.byReader = true) :
    Complaint posting.event := by
  simp only [posts, seat?_of_connection? found] at mem
  obtain ⟨event, more, rfl⟩ := List.mem_map.mp mem
  have reading : lobby.reading? client action = some
      ⟨connection.turn? lobby.listening.maxLineLength, lobby.relay, (lobby.step action).relay⟩ := by
    simp only [reading?, found]
    exact if_pos byReader
  exact (answers_reading found reading).complaint more

theorem posted_of_reads {actions : List LobbyAction} {posting : Posting}
    (mem : posting ∈ lobby.posted client actions) (byReader : posting.byReader = true) :
    Complaint posting.event := by
  induction actions generalizing lobby with
  | nil => cases mem
  | cons action rest ih =>
    rcases List.mem_append.mp mem with now | later
    · cases found : lobby.connection? client with
      | none => simp [posts, seat?, found] at now
      | some connection => exact posts_of_reads found now byReader
    · exact ih later

/-! ### What is written in the end -/

theorem write_own (found : lobby.connection? client = some connection)
    (writes : connection.isWriting = true) :
    ∃ next, (lobby.step (.write client)).connection? client = some next ∧
      next.isWriting = true ∧ next.subscriber = connection.subscriber ∧
      next.written = connection.written ++ (lobby.relay.events connection.subscriber).take 1 ∧
      (lobby.step (.write client)).relay.events connection.subscriber =
        (lobby.relay.events connection.subscriber).drop 1 := by
  obtain ⟨now, run⟩ := update_own found fun c => c.write (lobby.nextEvent? c)
  refine ⟨_, now, ?_⟩
  rw [step, run, nextEvent?]
  cases waits : lobby.relay.events connection.subscriber with
  | nil =>
    rw [List.head?_nil, connection.write_none]
    exact ⟨writes, rfl, (List.append_nil _).symm, waits⟩
  | cons event rest =>
    rw [List.head?_cons, connection.write_some writes]
    refine ⟨writes, rfl, rfl, ?_⟩
    show (lobby.relay.step (.receive connection.subscriber 1)).events connection.subscriber = rest
    rw [Relay.events_receive, waits, List.drop_one, List.tail_cons]

/-- A writer that has enough turns writes all that waits. -/
theorem written_of_turns (found : lobby.connection? client = some connection)
    (writes : connection.isWriting = true) {count : Nat}
    (enough : (lobby.relay.events connection.subscriber).length ≤ count) :
    ∃ last, (lobby.run (List.replicate count (.write client))).connection? client = some last ∧
      last.written = connection.written ++ lobby.relay.events connection.subscriber := by
  induction count generalizing lobby connection with
  | zero =>
    have none := List.length_eq_zero_iff.mp (Nat.le_zero.mp enough)
    exact ⟨connection, found, by simp [none]⟩
  | succ count ih =>
    obtain ⟨next, now, writing, same, wrote, waits⟩ := write_own found writes
    rw [← same] at waits enough
    have enough' : ((lobby.step (.write client)).relay.events next.subscriber).length ≤ count := by
      rw [waits, List.length_drop]
      omega
    obtain ⟨last, there, written⟩ := ih now writing enough'
    refine ⟨last, there, ?_⟩
    rw [written, wrote, waits, same, List.append_assoc, List.take_append_drop]

/-- Whatever is scheduled how: what is put into a client's mailbox is written in order, one line
each, waits in the mailbox, or is lost with it when the writer is stopped. While the writer goes on
nothing is lost, and turns enough write it all. Once it is stopped all that the reader had to say was
written if and only if nothing of that was lost. -/
theorem written_of_posted (listening : Net.Listening) (settings : RelaySettings)
    (actions : List LobbyAction) (client : Nat) (connection : Connection)
    (found : ((new listening settings).run actions).connection? client = some connection)
    (alone : ∀ act, .relay act ∈ actions → act.takesFrom connection.subscriber = false) :
    let start := new listening settings
    let lobby := start.run actions
    let posted := start.posted client actions
    ∃ kept waiting lost : List Posting,
      posted = kept ++ waiting ++ lost ∧
      kept.map (·.event) = connection.written ∧
      (Wire.lines connection.written).splitOn '\n' =
        connection.written.map Wire.encode ++ [[]] ∧
      waiting.map (·.event) = lobby.relay.events connection.subscriber ∧
      lost.map (·.event) = start.dropped client actions ∧
      (∀ posting ∈ posted, posting.byReader = true → Complaint posting.event) ∧
      (connection.isWriting = true → lost = [] ∧
        ∀ count, waiting.length ≤ count →
          ∃ last, (lobby.run (List.replicate count (.write client))).connection? client = some last ∧
            last.written = posted.map (·.event)) ∧
      (connection.isWriting = false → waiting = [] ∧
        (kept.filter (·.byReader) = posted.filter (·.byReader) ↔
          ∀ posting ∈ lost, posting.byReader = false)) := by
  intro start lobby posted
  have absent : start.connection? client = none := by cases client <;> rfl
  have account : Accounts lobby.relay connection posted (start.dropped client actions) :=
    accounts_run (parted_new listening settings) (Relay.sound_new settings) absent found alone
  obtain ⟨held, lost, split, held', lost'⟩ := List.map_eq_append_iff.mp account.posted
  obtain ⟨kept, waiting, rfl, kept', waiting'⟩ := List.map_eq_append_iff.mp held'
  have unlost (none : start.dropped client actions = []) : lost = [] :=
    List.map_eq_nil_iff.mp (lost'.trans none)
  refine ⟨kept, waiting, lost, split, kept', Wire.splitOn_lines _, waiting', lost', ?_, ?_, ?_⟩
  · exact fun posting mem byReader => posted_of_reads mem byReader
  · intro writes
    have nothing := unlost (account.writing writes)
    refine ⟨nothing, fun count enough => ?_⟩
    have enough' : (lobby.relay.events connection.subscriber).length ≤ count := by
      rwa [← waiting', List.length_map]
    obtain ⟨last, there, written⟩ := written_of_turns found writes enough'
    refine ⟨last, there, ?_⟩
    rw [written, split, nothing, List.append_nil, List.map_append, kept', waiting']
  · intro stopped
    have empty : waiting = [] :=
      List.map_eq_nil_iff.mp (waiting'.trans (account.stopped (by simp [stopped])))
    refine ⟨empty, ?_⟩
    rw [split, empty, List.append_nil, List.filter_append]
    simp [List.filter_eq_nil_iff]

/-- A line that is too long for 64 bytes. -/
def overlong : List LobbyAction := [.connect, .arrive 1 (List.replicate 65 120), .read 1]

theorem written_of_posted_overlong :
    let start := new { maxLineLength := 64 } {}
    let actions := overlong ++ [.write 1, .stopWriter 1, .leave 1]
    ∃ connection, (start.run actions).connection? 1 = some connection ∧
      (∀ act, .relay act ∈ actions → act.takesFrom connection.subscriber = false) ∧
      connection.outcome?.isSome = true ∧
      (start.posted 1 actions).length = 1 ∧
      (start.posted 1 actions).map (·.event) = connection.written := by
  intro start actions
  have last : ((start.run actions).connection? 1).map (fun c => (c.outcome?.isSome, c.isWriting)) =
      some (true, false) := by decide +kernel
  obtain ⟨connection, found, ended⟩ := Option.map_eq_some_iff.mp last
  obtain ⟨ended, stopped⟩ := Prod.mk.inj ended
  have alone : ∀ act, .relay act ∈ actions → act.takesFrom connection.subscriber = false := by
    simp [actions, overlong]
  obtain ⟨kept, waiting, lost, split, written, _, _, dropped, _, _, after⟩ :=
    written_of_posted { maxLineLength := 64 } {} actions 1 connection found alone
  have none : start.dropped 1 actions = [] := by decide +kernel
  have lost : lost = [] := List.map_eq_nil_iff.mp (dropped.trans none)
  refine ⟨connection, found, alone, ended, by decide +kernel, ?_⟩
  rw [split, (after stopped).1, lost, ← written, List.append_nil, List.append_nil]

/-- The connection ended because a line was too long, and the client was never told. -/
theorem refusal_unwritten :
    let start := new { maxLineLength := 64 } {}
    let actions := overlong ++ [.stopWriter 1, .leave 1]
    start.posted 1 actions = [{ event := .error none "command too long", byReader := true }] ∧
      ∃ connection, (start.run actions).connection? 1 = some connection ∧
        connection.outcome? = some (.error (.protocol "command exceeds 64 bytes")) ∧
        connection.written = [] := by
  refine ⟨by decide +kernel, ?_⟩
  exact ⟨_, rfl, rfl, rfl⟩

end Lobby

end CameraRelay
