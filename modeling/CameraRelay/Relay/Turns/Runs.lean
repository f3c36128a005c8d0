import CameraRelay.Relay.Turns

/-!
# Turns are runs

Whatever requests and decoders do by taking turns is a run of the relay, so what holds after every
run holds of a relay at rest. Main statement: `leads_rest`.
-/

namespace CameraRelay

namespace Relay

def Leads (before after : Relay) : Prop := ∃ actions, after = before.run actions

theorem Leads.refl (relay : Relay) : relay.Leads relay := ⟨[], rfl⟩

theorem Leads.trans {a b c : Relay} : a.Leads b → b.Leads c → a.Leads c
  | ⟨first, hb⟩, ⟨second, hc⟩ => ⟨first ++ second, by simp [hc, hb, run]⟩

theorem leads_step (relay : Relay) (action : Action) : relay.Leads (relay.step action) :=
  ⟨[action], rfl⟩

end Relay

namespace Turns

@[simp] theorem relay_makeReady (turns : Turns) (number : Nat) :
    (turns.makeReady number).relay = turns.relay := by
  unfold makeReady; split <;> rfl

theorem relay_foldl_makeReady (turns : Turns) (numbers : List Nat) :
    (numbers.foldl makeReady turns).relay = turns.relay := by
  induction numbers generalizing turns with
  | nil => rfl
  | cons number rest ih => rw [List.foldl_cons, ih, relay_makeReady]

@[simp] theorem relay_wakeHolders (turns : Turns) (tickets : List TicketId) :
    (turns.wakeHolders tickets).relay = turns.relay :=
  turns.relay_foldl_makeReady _

@[simp] theorem relay_wakeNew (turns : Turns) (known : Nat) :
    (turns.wakeNew known).relay = turns.relay :=
  turns.relay_foldl_makeReady _

@[simp] theorem relay_follow (turns : Turns) (relay : Relay) :
    (turns.follow relay).relay = relay := by
  simp [follow]

@[simp] theorem relay_act (turns : Turns) (action : Action) :
    (turns.act action).relay = turns.relay.step action :=
  turns.relay_follow _

theorem leads_act (turns : Turns) (action : Action) :
    turns.relay.Leads (turns.act action).relay := by
  simpa using turns.relay.leads_step action

theorem leads_ask (turns : Turns) (subscriber : SubscriberId) (device : Device) :
    turns.relay.Leads (turns.ask subscriber device).relay :=
  turns.leads_act _

theorem leads_observe (turns : Turns) (session : Nat) (observation : Observation) :
    turns.relay.Leads (turns.observe session observation).relay :=
  turns.leads_act _

@[simp] theorem relay_expire (turns : Turns) : turns.expire.relay = turns.relay := by
  simp [expire]

/-- A request is given up in its turn, not before. -/
@[simp] theorem relay_giveUp (turns : Turns) (number : Nat) :
    (turns.giveUp number).1.relay = turns.relay := by
  cases request : turns.relay.request? number with
  | none => simp [giveUp, request]
  | some request' => cases stage : request'.stage <;> simp [giveUp, request, stage]

@[simp] theorem relay_diagnose (turns : Turns) (session : Nat) (text : List Char) :
    (turns.diagnose session text).1.relay = turns.relay := rfl

theorem leads_goOn (turns : Turns) (number : Nat) (locator : String) (ticket : TicketId) :
    turns.relay.Leads (turns.goOn number locator ticket).relay := by
  unfold goOn
  split
  · exact turns.leads_act _
  · split
    · exact turns.leads_act _
    · exact .refl _

theorem leads_enter (turns : Turns) (number : Nat) (locator : String) :
    turns.relay.Leads (turns.enter number locator).relay := by
  dsimp only [enter]
  split
  · exact (turns.leads_act _).trans (leads_goOn ..)
  · exact turns.leads_act _

theorem leads_turn (turns : Turns) (number : Nat) :
    turns.relay.Leads (turns.turn number).relay := by
  unfold turn
  split
  · exact turns.leads_act _
  · split
    · exact .refl _
    · split
      · dsimp only
        split
        · exact (turns.leads_act _).trans (leads_enter ..)
        · exact turns.leads_act _
      · exact turns.leads_enter ..
      · exact turns.leads_goOn ..
      · exact .refl _
      · exact .refl _

theorem leads_takeTurns (fuel : Nat) (turns : Turns) :
    turns.relay.Leads (takeTurns fuel turns).relay := by
  induction fuel generalizing turns with
  | zero => exact .refl _
  | succ fuel ih =>
    unfold takeTurns
    split
    · exact .refl _
    · next number rest _ =>
      exact (leads_turn { turns with ready := rest } number).trans (ih _)

theorem leads_attendDecoders (fuel : Nat) (turns : Turns) :
    turns.relay.Leads (attendDecoders fuel turns).relay := by
  induction fuel generalizing turns with
  | zero => exact .refl _
  | succ fuel ih =>
    unfold attendDecoders
    split
    · exact .refl _
    · exact (turns.leads_act _).trans (ih _)

theorem leads_rest (turns : Turns) : turns.relay.Leads turns.rest.relay :=
  ((leads_attendDecoders ..).trans (leads_takeTurns ..)).trans (leads_attendDecoders ..)

end Turns

end CameraRelay
