import CameraRelay.Lobby.Turns
import CameraRelay.Relay.Turns.Runs

/-!
# Clients that take turns are runs

Whatever clients, requests and decoders do by taking turns is a run of the lobby, so what holds after
every run holds of a live lobby. Main statements: `leads_rest`, `leads_write`.
-/

namespace CameraRelay

namespace Lobby

def Leads (before after : Lobby) : Prop := ∃ actions, after = before.run actions

theorem Leads.refl (lobby : Lobby) : lobby.Leads lobby := ⟨[], rfl⟩

theorem Leads.trans {a b c : Lobby} : a.Leads b → b.Leads c → a.Leads c
  | ⟨first, hb⟩, ⟨second, hc⟩ => ⟨first ++ second, by simp [hc, hb, run]⟩

theorem Leads.step (lobby : Lobby) (action : LobbyAction) : lobby.Leads (lobby.step action) :=
  ⟨[action], rfl⟩

theorem run_relay (lobby : Lobby) (actions : List Action) :
    lobby.run (actions.map .relay) = { lobby with relay := lobby.relay.run actions } := by
  induction actions generalizing lobby with
  | nil => rfl
  | cons action rest ih => exact ih (lobby.step (.relay action))

/-- What the relay does by itself the lobby does. -/
theorem Leads.relay (lobby : Lobby) {relay : Relay} :
    lobby.relay.Leads relay → lobby.Leads { lobby with relay }
  | ⟨actions, run⟩ => ⟨actions.map .relay, by rw [run, run_relay]⟩

end Lobby

namespace LobbyTurns

@[simp] theorem lobby_follow (live : LobbyTurns) (next : Lobby) :
    (live.follow next).lobby = next := by
  simp [follow, lobby]

theorem leads_step (live : LobbyTurns) (action : LobbyAction) :
    live.lobby.Leads (live.step action).lobby := by
  simpa [step] using Lobby.Leads.step live.lobby action

theorem leads_act (live : LobbyTurns) (action : Action) :
    live.lobby.Leads (live.act action).lobby :=
  live.leads_step _

theorem leads_arrive (live : LobbyTurns) (client : Nat) (piece : Bytes) :
    live.lobby.Leads (live.update client fun c => (c.arrive piece, none)).lobby :=
  live.leads_step (.arrive client piece)

theorem leads_hangUp (live : LobbyTurns) (client : Nat) :
    live.lobby.Leads (live.update client fun c => (c.hangUp, none)).lobby :=
  live.leads_step (.hangUp client)

theorem leads_connect (live : LobbyTurns) : live.lobby.Leads live.connect.1.lobby := by
  simp only [connect]
  split
  · exact live.leads_step .connect
  · exact .refl _

/-- Whatever requests and decoders do while clients wait. -/
theorem leads_turns (live : LobbyTurns) {turns : Turns}
    (leads : live.turns.relay.Leads turns.relay) :
    live.lobby.Leads { live with turns }.lobby :=
  .relay live.lobby leads

theorem leads_restTurns (live : LobbyTurns) : live.lobby.Leads live.restTurns.lobby :=
  live.leads_turns live.turns.leads_rest

/-- What one change after another does is a run if every change is. -/
theorem leads_foldl {α : Type} {change : LobbyTurns → α → LobbyTurns}
    (leads : ∀ (live : LobbyTurns) (a : α), live.lobby.Leads (change live a).lobby)
    (list : List α) (live : LobbyTurns) : live.lobby.Leads (list.foldl change live).lobby := by
  induction list generalizing live with
  | nil => exact .refl _
  | cons a rest ih => exact (leads live a).trans (ih _)

theorem leads_readLines (fuel : Nat) (live : LobbyTurns) (client : Nat) :
    live.lobby.Leads (readLines fuel live client).lobby := by
  induction fuel generalizing live with
  | zero => exact .refl _
  | succ fuel ih =>
    unfold readLines
    split
    · exact .refl _
    · split
      · exact (live.leads_step _).trans (ih _)
      · exact .refl _

theorem leads_readAll (live : LobbyTurns) : live.lobby.Leads live.readAll.lobby := by
  refine leads_foldl (fun live client => ?_) _ live
  split
  · exact leads_readLines ..
  · exact .refl _

theorem leads_closeEnded (live : LobbyTurns) (client : Nat) :
    live.lobby.Leads (live.closeEnded client).lobby :=
  (((live.leads_step _).trans (leads_restTurns _)).trans (leads_step ..)).trans (leads_restTurns _)

theorem leads_rest (live : LobbyTurns) : live.lobby.Leads live.rest.lobby :=
  (live.leads_readAll.trans (leads_restTurns _)).trans (leads_foldl leads_closeEnded _ _)

theorem leads_write (live : LobbyTurns) (client : Nat) :
    live.lobby.Leads (live.write client).1.lobby := by
  unfold write
  split
  · exact .refl _
  · split
    · exact leads_foldl (fun live _ => live.leads_step (.write client)) _ live
    · exact .refl _

end LobbyTurns

end CameraRelay
