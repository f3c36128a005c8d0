import CameraRelay.Proofs.Lobby.Moves
import CameraRelay.Proofs.Relay.Farewell

/-!
# How connections end

A connection stops its writer, which drops the client's mailbox, before it takes the client out of
the relay. So when it is over nothing is kept for the client. Main statement: `forgotten_of_over`.
-/

namespace CameraRelay

/-- How far a client is out of the relay at a stage of its connection. -/
def Connection.Parted (relay : Relay) (subscriber : SubscriberId) : ConnectionStage → Prop
  | .reading => True
  | .closing _ => True
  | .leaving _ => relay.Deaf subscriber
  | .over _ => relay.Forgotten subscriber

theorem Connection.Parted.run {relay : Relay} {subscriber : SubscriberId} {stage : ConnectionStage}
    (h : Parted relay subscriber stage) (orderly : relay.Orderly) (actions : List Action) :
    Parted (relay.run actions) subscriber stage :=
  match stage, h with
  | .reading, _ => trivial
  | .closing _, _ => trivial
  | .leaving _, deaf => Relay.Deaf.run deaf actions
  | .over _, forgotten => Relay.Forgotten.run forgotten orderly actions

namespace Lobby

/-- Every client is out of the relay as far as its connection got. -/
structure Parted (lobby : Lobby) : Prop where
  seated : lobby.Seated
  orderly : lobby.relay.Orderly
  shaped : lobby.relay.broker.roster.Shaped
  stages : ∀ connection ∈ lobby.connections,
    Connection.Parted lobby.relay connection.subscriber connection.stage

theorem parted_new (listening : Net.Listening) (settings : RelaySettings) :
    (new listening settings).Parted where
  seated := seated_new listening settings
  orderly := .new settings
  shaped := Roster.shaped_new
  stages := by simp [new]

theorem mem_of_connection? {lobby : Lobby} {client : Nat} {connection : Connection}
    (found : lobby.connection? client = some connection) : connection ∈ lobby.connections := by
  cases client with
  | zero => cases found
  | succ place => exact List.mem_of_getElem? found

theorem Parted.step {lobby : Lobby} (h : lobby.Parted) (action : LobbyAction) :
    (lobby.step action).Parted := by
  obtain ⟨acts, leads⟩ := lobby.leads_step action
  refine ⟨h.seated.step action, leads ▸ h.orderly.run acts, leads ▸ Relay.shaped_run h.shaped acts,
    ?_⟩
  have moved := lobby.moves action
  generalize (lobby.step action).relay = relay, (lobby.step action).connections = connections
    at moved ⊢
  cases moved with
  | relay act => exact fun connection mem => (h.stages connection mem).run h.orderly [act]
  | connect =>
    intro connection mem
    rcases List.mem_append.mp mem with before | last
    · exact (h.stages connection before).run h.orderly [.subscribe]
    · rw [List.mem_singleton.mp last]
      trivial
  | stay => exact h.stages
  | @turn _ client connection turn found turns =>
    obtain ⟨next, asked⟩ := turn
    intro other mem
    rcases List.mem_or_eq_of_mem_set mem with before | rfl
    · exact (h.stages other before).run h.orderly asked.toList
    · have here := mem_of_connection? found
      have before := h.stages connection here
      have known := h.seated.known connection.subscriber (List.mem_map_of_mem here)
      have goes := turns.goes
      rw [turns.subscriber]
      dsimp only at goes ⊢
      generalize other.stage = stage at goes ⊢
      cases goes with
      | stays same =>
        rw [same]
        exact before.run h.orderly asked.toList
      | closes => trivial
      | leaves => exact Relay.deaf_dropMailbox known
      | ends outcome stage =>
        rw [stage] at before
        exact Relay.Deaf.disconnect before h.shaped

theorem Parted.run {lobby : Lobby} (h : lobby.Parted) (actions : List LobbyAction) :
    (lobby.run actions).Parted := by
  induction actions generalizing lobby with
  | nil => exact h
  | cons action rest ih => exact ih (h.step action)

/-- Whatever ended a connection, and whatever else goes on: once it is over its client is forgotten,
and stays so. -/
theorem forgotten_of_over (listening : Net.Listening) (settings : RelaySettings)
    (actions : List LobbyAction) (connection : Connection) (outcome : Outcome)
    (mem : connection ∈ ((new listening settings).run actions).connections)
    (ended : connection.stage = .over outcome) :
    ((new listening settings).run actions).relay.Forgotten connection.subscriber := by
  have parted := ((parted_new listening settings).run actions).stages connection mem
  rw [ended] at parted
  exact parted

end Lobby

end CameraRelay
