import CameraRelay.Lobby
import CameraRelay.Relay.Turns

/-!
# Clients taking turns

In a live lobby a reader handles every line that has arrived before anybody else acts; then requests
and decoders act until they are at rest, and writers write all there is. A connection whose reader
has ended is closed once the requests it made before had their turn.

`LobbyTurns` is one such order of the actions of `Lobby`: everything it does is a run of the lobby.
-/

namespace CameraRelay

structure LobbyTurns where
  listening : Net.Listening
  turns : Turns
  connections : List Connection := []
  accepting : Bool := true

namespace LobbyTurns

/-- The lobby that takes turns here. -/
def lobby (live : LobbyTurns) : Lobby :=
  { listening := live.listening, relay := live.turns.relay, connections := live.connections }

/-- The lobby has gone on; whoever can act in its relay becomes ready. -/
def follow (live : LobbyTurns) (next : Lobby) : LobbyTurns :=
  { live with
    listening := next.listening
    turns := live.turns.follow next.relay
    connections := next.connections }

def step (live : LobbyTurns) (action : LobbyAction) : LobbyTurns :=
  live.follow (live.lobby.step action)

def act (live : LobbyTurns) (action : Action) : LobbyTurns := live.step (.relay action)

def connection? (live : LobbyTurns) (client : Nat) : Option Connection :=
  live.lobby.connection? client

def clients (live : LobbyTurns) : List Nat :=
  (List.range live.connections.length).map (· + 1)

/-- Changes the connection of a client, and does what that asks for. -/
def update (live : LobbyTurns) (client : Nat)
    (change : Connection → Connection × Option Action) : LobbyTurns :=
  live.follow (live.lobby.update client change)

/-- A client connects; its number, unless it is turned away. -/
def connect (live : LobbyTurns) : LobbyTurns × Option Nat :=
  let next := if live.accepting then live.step .connect else live
  let number := next.connections.length
  (next, if live.connections.length < number then some number else none)

/-- The reader of a client handles what has arrived, `fuel` lines at most. -/
def readLines : Nat → LobbyTurns → Nat → LobbyTurns
  | 0, live, _ => live
  | fuel + 1, live, client =>
    match live.connection? client with
    | none => live
    | some connection =>
      if connection.canRead live.listening.maxLineLength then
        (live.step (.read client)).readLines fuel client
      else live

/-- Every reader handles what has arrived. A line takes at least one byte. -/
def readAll (live : LobbyTurns) : LobbyTurns :=
  live.clients.foldl (fun live client =>
    match live.connection? client with
    | some connection => live.readLines (connection.input.flatten.length + 2) client
    | none => live) live

def restTurns (live : LobbyTurns) : LobbyTurns := { live with turns := live.turns.rest }

/-- The connection of a client is closed if its reader has ended. -/
def closeEnded (live : LobbyTurns) (client : Nat) : LobbyTurns :=
  ((live.step (.stopWriter client)).restTurns.step (.leave client)).restTurns

/-- Everybody acts until nobody can. -/
def rest (live : LobbyTurns) : LobbyTurns :=
  let live := live.readAll.restTurns
  live.clients.foldl closeEnded live

/-- A writer writes all there is: the events it takes out of the mailbox. -/
def write (live : LobbyTurns) (client : Nat) : LobbyTurns × List Event :=
  match live.connection? client with
  | none => (live, [])
  | some connection =>
    if connection.isWriting then
      let events := live.turns.relay.events connection.subscriber
      (events.foldl (fun live _ => live.step (.write client)) live, events)
    else (live, [])

end LobbyTurns

end CameraRelay
