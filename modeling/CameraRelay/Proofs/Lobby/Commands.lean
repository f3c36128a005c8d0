import CameraRelay.Proofs.Broker.Deaf
import CameraRelay.Proofs.Lobby.Moves
import CameraRelay.Proofs.Relay.Requests

/-!
# The commands of one client

A reader handles the lines of its client one after the other. A stop is carried out at once, a start
is a request that goes on by itself; so a stop does not reach a start that is still on its way. Main
statements: `watches_after_stop`, and `stop_overtakes_start` for what it leaves open.
-/

namespace CameraRelay

namespace Lobby

variable {lobby : Lobby} {client : Nat} {subscriber : SubscriberId} {device : Device}

/-- The lines of a client that are handled in a run, in order. -/
def lines (lobby : Lobby) (client : Nat) : List LobbyAction → List LineEffect
  | [] => []
  | action :: rest => lobby.hears client action ++ (lobby.step action).lines client rest

/-- Nothing is asked for in the name of a client but on its start lines. -/
theorem unasked_step (seated : lobby.Seated) (sits : lobby.seat? client = some subscriber)
    {action : LobbyAction} (own : action ≠ .relay (.ask subscriber device))
    (unsaid : .start device ∉ lobby.hears client action) :
    ∃ acts, (lobby.step action).relay = lobby.relay.run acts ∧ .ask subscriber device ∉ acts := by
  have moved := lobby.moves action
  generalize (lobby.step action).relay = relay, (lobby.step action).connections = connections
    at moved ⊢
  cases moved with
  | relay act =>
    refine ⟨[act], rfl, fun mem => own ?_⟩
    rw [List.mem_singleton.mp mem]
  | connect => exact ⟨[.subscribe], rfl, by simp⟩
  | stay => exact ⟨[], rfl, by simp⟩
  | @turn _ reader connection turn found turns =>
    refine ⟨turn.2.toList, rfl, fun mem => ?_⟩
    -- Who asks in the name of the subscriber sits in its seat, and so is the client.
    obtain ⟨rfl, said⟩ := turns.asks subscriber device (Option.mem_toList.mp mem)
    have there : lobby.seat? reader = some connection.subscriber := seat?_of_connection? found
    obtain rfl := seated.unique sits there
    exact unsaid said

theorem unasked_run (seated : lobby.Seated) (sits : lobby.seat? client = some subscriber)
    {actions : List LobbyAction} (own : .relay (.ask subscriber device) ∉ actions)
    (unsaid : .start device ∉ lobby.lines client actions) :
    ∃ acts, (lobby.run actions).relay = lobby.relay.run acts ∧ .ask subscriber device ∉ acts := by
  induction actions generalizing lobby with
  | nil => exact ⟨[], rfl, by simp⟩
  | cons action rest ih =>
    rw [lines, List.mem_append, not_or] at unsaid
    have first : action ≠ .relay (.ask subscriber device) := fun eq => own (by simp [eq])
    obtain ⟨acts, now, unasked⟩ := unasked_step seated sits first unsaid.1
    obtain ⟨more, later, unasked'⟩ := ih (seated.step action) (seat?_step sits action)
      (fun mem => own (List.mem_cons_of_mem _ mem)) unsaid.2
    refine ⟨acts ++ more, ?_, ?_⟩
    · rw [Relay.run_append, ← now]
      exact later
    · rw [List.mem_append, not_or]
      exact ⟨unasked, unasked'⟩

theorem relay_of_stop (stops : lobby.hears client (.read client) = [.stop device])
    (sits : lobby.seat? client = some subscriber) :
    (lobby.step (.read client)).relay = lobby.relay.step (.stop subscriber device) := by
  obtain ⟨connection, found, rfl⟩ := Option.map_eq_some_iff.mp sits
  simp only [hears, found, if_true, Option.map_some, Option.getD_some] at stops
  simp only [step, update, found, connection.read_of_hears stops]
  rfl

/-- A client's reader handles a stop, and no start for that device any more. If the client watches
the device at any later time, whatever was scheduled in between, then a start of its own was still on
its way at the stop and finished well after it. -/
theorem watches_after_stop (listening : Net.Listening) (settings : RelaySettings)
    (earlier later : List LobbyAction) (client : Nat) (subscriber : SubscriberId) (device : Device)
    (connected : ((new listening settings).run earlier).seat? client = some subscriber)
    (stops : ((new listening settings).run earlier).hears client (.read client) = [.stop device])
    (unsaid : .start device ∉
      (((new listening settings).run earlier).step (.read client)).lines client later)
    (own : .relay (.ask subscriber device) ∉ later) :
    let stopped := ((new listening settings).run earlier).step (.read client)
    let last := stopped.run later
    device ∈ last.relay.broker.roster.devicesOf subscriber →
      stopped.relay.Admits last.relay subscriber device := by
  intro stopped last watches
  have before : ((new listening settings).run earlier).Seated := (seated_new _ _).run earlier
  have shaped : ((new listening settings).run earlier).relay.broker.roster.Shaped :=
    shaped_run Roster.shaped_new earlier
  have apart : device ∉ stopped.relay.broker.roster.devicesOf subscriber := by
    have stop : stopped.relay =
        ((new listening settings).run earlier).relay.step (.stop subscriber device) :=
      relay_of_stop stops connected
    rw [stop]
    exact Broker.not_watches_detach shaped subscriber
  obtain ⟨acts, eq, unasked⟩ :=
    unasked_run (before.step (.read client)) (seat?_step connected _) own unsaid
  have same : last.relay = stopped.relay.run acts := eq
  rw [same] at watches ⊢
  exact Relay.admits_of_watches unasked apart watches

/-- The lines that start and stop one camera, in one piece. -/
def startAndStop : Bytes :=
  ("\x7b\"event\":\"startStream\",\"deviceId\":\"cam-1\"\x7d\n" ++
    "\x7b\"event\":\"stopStream\",\"deviceId\":\"cam-1\"\x7d\n").toList.map fun c =>
      UInt8.ofNat c.toNat

/-- A client has sent both lines, and its reader has handled the first of them. -/
def startRead : List LobbyAction :=
  [.relay (.register ⟨"cam-1"⟩ { locator := "rtsp://127.0.0.1:554/cam-1" }), .connect,
   .arrive 1 startAndStop, .read 1]

theorem watches_after_stop_read :
    let stopped := ((new {} {}).run startRead).step (.read 1)
    let last := stopped.run [.relay (.resolve 1), .relay (.enter 1 none)]
    ((new {} {}).run startRead).hears 1 (.read 1) = [.stop ⟨"cam-1"⟩] ∧
      stopped.relay.Admits last.relay 1 ⟨"cam-1"⟩ := by
  have stops : ((new {} {}).run startRead).hears 1 (.read 1) = [.stop ⟨"cam-1"⟩] := by
    decide +kernel
  refine ⟨stops, watches_after_stop {} {} startRead [.relay (.resolve 1), .relay (.enter 1 none)] 1 1
    ⟨"cam-1"⟩ ?_ stops ?_ ?_ ?_⟩
  · decide +kernel
  · decide +kernel
  · simp
  · decide +kernel

/-- Of two lines that a client sends, the last stops what the first starts. Both are handled and
every request has finished, and the client watches the camera. -/
theorem stop_overtakes_start :
    let actions := startRead ++ [.read 1, .relay (.resolve 1), .relay (.enter 1 none)]
    let lobby := (new {} {}).run actions
    (new {} {}).lines 1 actions = [.start ⟨"cam-1"⟩, .stop ⟨"cam-1"⟩] ∧
      (lobby.connection? 1).map (·.input.flatten) = some [] ∧
      lobby.relay.requests.length = 1 ∧ (lobby.relay.outcome? 1).isSome = true ∧
      lobby.seat? 1 = some 1 ∧ ⟨"cam-1"⟩ ∈ lobby.relay.broker.roster.devicesOf 1 := by
  decide +kernel

end Lobby

end CameraRelay
