import CameraRelay.Proofs.Directory
import CameraRelay.Proofs.Locator.Embedding
import CameraRelay.Relay

/-!
# The camera that a decoder is pointed at

Of all that a relay does only the calls to its directory change what is bound. So what it finds for a
device is the camera of the last binding that succeeded and was not undone, and what it then gives to
a decoder leads to this camera. Main statement: `camera_of_last_binding`.
-/

namespace CameraRelay

/-- The call to the directory that an action of a relay makes. -/
def Action.call? : Action → Option Directory.Call
  | .register device source => some (.register device source)
  | .unregister device => some (.remove device)
  | _ => none

namespace Relay

variable (relay : Relay) (number : Nat) (request : Request)

theorem directory_hire (before : Relay) (device : Device) (fault : Option SystemFault) :
    (relay.hire before device fault).directory = relay.directory := by
  simp only [hire]
  split <;> rfl

theorem directory_resolve : (relay.resolve number request).directory = relay.directory := by
  simp only [resolve]
  split <;> rfl

theorem directory_enter (locator : String) (fault : Option SystemFault) :
    (relay.enter number request locator fault).directory = relay.directory := by
  simp only [enter]
  split <;> exact directory_hire ..

theorem directory_wake (locator : String) (ticket : TicketId) (cause : Broker.Wake)
    (fault : Option SystemFault) :
    (relay.wake number request locator ticket cause fault).directory = relay.directory :=
  directory_hire ..

theorem directory_abandon : (relay.abandon number request).directory = relay.directory := by
  simp only [abandon]
  split <;> rfl

/-- An action that is no call leaves the directory alone. -/
theorem directory_step (action : Action) :
    (relay.step action).directory =
      match action.call? with
      | some call => relay.directory.act call
      | none => relay.directory := by
  cases action with
  | register device source =>
    simp only [step, Action.call?, Directory.act, Directory.attempt]
    cases relay.directory.register device source <;> rfl
  | unregister device =>
    simp only [step, Action.call?, Directory.act, Directory.attempt]
    cases relay.directory.remove device <;> rfl
  | resolve number =>
    simp only [step, Action.call?]
    split
    · split
      · exact directory_resolve ..
      · rfl
    · rfl
  | enter number fault =>
    simp only [step, Action.call?]
    split
    · split
      · exact directory_enter ..
      · rfl
    · rfl
  | wake number cause fault =>
    simp only [step, Action.call?]
    split
    · split
      · split
        · rfl
        · exact directory_wake ..
      · rfl
    · rfl
  | abandon number =>
    simp only [step, Action.call?]
    split
    · exact directory_abandon ..
    · rfl
  | observe session observation =>
    simp only [step, Action.call?]
    split
    · split <;> rfl
    · rfl
  | report session =>
    simp only [step, Action.call?]
    split
    · split <;> rfl
    · rfl
  | _ => rfl

theorem directory_run (actions : List Action) :
    (relay.run actions).directory = relay.directory.run (actions.filterMap Action.call?) := by
  induction actions generalizing relay with
  | nil => rfl
  | cons action rest ih =>
    rw [run, List.foldl_cons, ← run, ih, directory_step, List.filterMap_cons]
    cases action.call? <;> rfl

end Relay

namespace Directory

open Locator

/-- After any calls, which may stand among all that a relay does, a device is bound to the camera
of the last successful call that names it. A call that fails has no part in that: a binding fails if
the device has a camera or the locator does not stream, an unbinding if there is nothing to unbind.
And what a decoder is given of a camera that was found leads to this camera. -/
theorem camera_of_last_binding (calls : List Call) :
    (∀ settings actions, actions.filterMap Action.call? = calls →
      ((Relay.new settings).run actions).directory = after calls) ∧
    (∀ call failure, (after calls).attempt call = .error failure →
      ∀ later, after (calls ++ call :: later) = after (calls ++ later)) ∧
    (∀ device source, (∃ next, (after calls).attempt (.register device source) = .ok next) ↔
      (∃ scheme ∈ streamingSchemes, scheme <+: source.locator.toList) ∧
        ∀ other, ¬ Binds calls device other) ∧
    (∀ device, (∃ next, (after calls).attempt (.remove device) = .ok next) ↔
      ∃ source, Binds calls device source) ∧
    (∀ device source, (after calls).resolve device = .ok source ↔ Binds calls device source) ∧
    (∀ device, (∀ source, ¬ Binds calls device source) →
      (after calls).resolve device = .error (.sourceUnresolved device)) ∧
    (∀ device source, (after calls).resolve device = .ok source → source.Leads) := by
  refine ⟨?_, ?_, ?_, ?_, ?_, ?_, ?_⟩
  · rintro settings actions rfl
    exact Relay.directory_run ..
  · intro call failure fails later
    rw [after, run_append, run, List.foldl_cons, act_of_error fails, ← run, ← run_append]
  · intro device source
    rw [← isStreaming_iff, ← find?_after_eq_none]
    simp [attempt, register_eq_ok]
  · intro device
    simp [attempt, remove_eq_ok, Option.isSome_iff_exists, find?_after_eq_some]
  · intro device source
    rw [resolve_eq_ok, find?_after_eq_some]
  · intro device unbound
    exact resolve_of_unbound (find?_after_eq_none.mpr unbound)
  · intro device source bound
    exact Source.leads_of_streaming (streams_after calls device source (resolve_eq_ok.mp bound))

/-- Of a camera that was bound twice too early, and of one whose login is all delimiters, the
decoder is led to the second one. -/
theorem camera_of_last_binding_rebound :
    let gate : Device := ⟨"gate"⟩
    let first := Source.withLogin "rtsp://cam/1" "ann" "s"
    let second := Source.withLogin "rtsps://cam" "a@b" "c:/d@e"
    let calls : List Call := [.register gate { locator := "http://cam" }, .register gate first,
      .register gate second, .remove gate, .remove gate, .register gate second]
    let actions : List Action := [.register gate { locator := "http://cam" }, .register gate first,
      .subscribe, .register gate second, .unregister gate, .unregister gate, .disconnect 1,
      .register gate second]
    succeeded calls = [.register gate first, .remove gate, .register gate second] ∧
      ((Relay.new {}).run actions).directory.resolve gate = .ok second ∧
      second.effectiveLocator = "rtsp://a@b:c:/d@e@cam/" ∧
      (∀ credentials,
        ({ locator := "rtsp://a@b:c:/d@e@cam/", credentials } : Source).effectiveLocator =
          "rtsp://a@b:c:/d@e@cam/") ∧
      ∀ later, after (calls ++ .register gate first :: later) = after (calls ++ later) := by
  intro gate first second calls actions
  obtain ⟨driven, unchanged, registers, _, found, _, leads⟩ := camera_of_last_binding calls
  have binds : Binds calls gate second :=
    ⟨[.register gate first, .remove gate], [], by decide, by simp⟩
  have bound := (found gate second).mpr binds
  have embedded : second.effectiveLocator = "rtsp://a@b:c:/d@e@cam/" := by decide
  have once := (leads gate second bound).once "a@b" "c:/d@e"
    ⟨rfl, by decide, by decide⟩ (by decide)
  rw [embedded] at once
  refine ⟨by decide, ?_, embedded, once, fun later => ?_⟩
  · rw [driven {} actions rfl]
    exact bound
  · cases result : (after calls).attempt (.register gate first) with
    | ok next => exact absurd binds (((registers gate first).mp ⟨next, result⟩).2 second)
    | error failure => exact unchanged _ failure result later

end Directory

end CameraRelay
