import CameraRelay.Connection
import CameraRelay.Net.Listening

/-!
# The lobby

The relay with the connections of its clients. Readers, writers and everything in the relay act in
any order; `Lobby.step` is one action of one of them.
-/

namespace CameraRelay

/-- The relay with its connections; client number `n` stands at place `n - 1`. -/
structure Lobby where
  listening : Net.Listening
  relay : Relay
  connections : List Connection := []

inductive LobbyAction where
  | relay (action : Action)
  /-- A client connects; beyond the limit it is turned away. -/
  | connect
  | arrive (client : Nat) (piece : Bytes)
  | hangUp (client : Nat)
  | read (client : Nat)
  | write (client : Nat)
  | stopWriter (client : Nat)
  | leave (client : Nat)

namespace Lobby

def openConnections (lobby : Lobby) : Nat :=
  (lobby.connections.filter fun c => c.outcome?.isNone).length

def connection? (lobby : Lobby) (client : Nat) : Option Connection :=
  match client with
  | 0 => none
  | n + 1 => lobby.connections[n]?

/-- Changes the connection of a client, and does what that asks for. -/
def update (lobby : Lobby) (client : Nat)
    (change : Connection → Connection × Option Action) : Lobby :=
  match lobby.connection? client with
  | none => lobby
  | some connection =>
    let (connection, action) := change connection
    { lobby with
      connections := lobby.connections.set (client - 1) connection
      relay := lobby.relay.run action.toList }

/-- The oldest event in a client's mailbox. -/
def nextEvent? (lobby : Lobby) (connection : Connection) : Option Event :=
  (lobby.relay.events connection.subscriber).head?

def step (lobby : Lobby) : LobbyAction → Lobby
  | .relay action => { lobby with relay := lobby.relay.step action }
  | .connect =>
    if lobby.listening.admits lobby.openConnections then
      let relay := lobby.relay.step .subscribe
      { lobby with
        relay
        connections := lobby.connections ++ [{ subscriber := relay.subscribers }] }
    else lobby
  | .arrive client piece => lobby.update client fun c => (c.arrive piece, none)
  | .hangUp client => lobby.update client fun c => (c.hangUp, none)
  | .read client => lobby.update client (·.read lobby.listening.maxLineLength)
  | .write client => lobby.update client fun c => c.write (lobby.nextEvent? c)
  | .stopWriter client => lobby.update client (·.stopWriter)
  | .leave client => lobby.update client (·.leave)

def run (lobby : Lobby) (actions : List LobbyAction) : Lobby := actions.foldl step lobby

end Lobby

end CameraRelay
