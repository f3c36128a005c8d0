import CameraRelay.Source
import Mathlib.Data.List.Induction

/-!
# The camera that a device is bound to

What a directory holds is read off the calls that succeeded: a device has the camera of the last of
them that names it, if that one binds a camera, and has none if it unbinds one or if no call names
it (`find?_after_eq_some`).
-/

namespace CameraRelay

namespace Directory

/-! ### Calls -/

inductive Call where
  | register (device : Device) (source : Source)
  | remove (device : Device)
deriving DecidableEq

namespace Call

def device : Call → Device
  | register device _ => device
  | remove device => device

/-- The camera that the device has once the call succeeded. -/
def camera? : Call → Option Source
  | register _ source => some source
  | remove _ => none

theorem camera?_eq_some {call : Call} {source : Source} :
    call.camera? = some source ↔ call = .register call.device source := by
  cases call <;> simp [camera?, device]

end Call

def attempt (directory : Directory) : Call → Except Failure Directory
  | .register device source => directory.register device source
  | .remove device => directory.remove device

/-- The directory after a call; one that fails leaves it as it was. -/
def act (directory : Directory) (call : Call) : Directory :=
  match directory.attempt call with
  | .ok next => next
  | .error _ => directory

def run (directory : Directory) (calls : List Call) : Directory := calls.foldl act directory

/-- Of calls that are made one after the other those that succeed. -/
def successes (directory : Directory) : List Call → List Call
  | [] => []
  | call :: rest =>
    match directory.attempt call with
    | .ok next => call :: next.successes rest
    | .error _ => directory.successes rest

variable {directory next : Directory} {call : Call} {failure : Failure}

theorem act_of_ok (succeeds : directory.attempt call = .ok next) : directory.act call = next := by
  simp only [act, succeeds]

theorem act_of_error (fails : directory.attempt call = .error failure) :
    directory.act call = directory := by
  simp only [act, fails]

theorem run_append (directory : Directory) (first second : List Call) :
    directory.run (first ++ second) = (directory.run first).run second :=
  List.foldl_append ..

theorem run_concat (directory : Directory) (calls : List Call) (call : Call) :
    directory.run (calls ++ [call]) = (directory.run calls).act call :=
  run_append directory calls [call]

theorem successes_append (directory : Directory) (first second : List Call) :
    directory.successes (first ++ second) =
      directory.successes first ++ (directory.run first).successes second := by
  induction first generalizing directory with
  | nil => rfl
  | cons call rest ih =>
    cases result : directory.attempt call with
    | ok next =>
      simp only [List.cons_append, successes, run, List.foldl_cons, act_of_ok result, result]
      exact congrArg (call :: ·) (ih next)
    | error failure =>
      simp only [List.cons_append, successes, run, List.foldl_cons, act_of_error result, result]
      exact ih directory

/-! ### What a call does -/

section

variable {device : Device} {source : Source}

/-- Only a locator that streams is bound, and only to a device that has no camera. -/
theorem register_eq_ok : directory.register device source = .ok next ↔
    Locator.isStreaming source.locator.toList = true ∧ directory.find? device = none ∧
      { bindings := (device, source) :: directory.bindings } = next := by
  cases streams : Locator.isStreaming source.locator.toList <;>
    cases bound : directory.find? device <;> simp [register, streams, bound]

theorem remove_eq_ok : directory.remove device = .ok next ↔
    (directory.find? device).isSome = true ∧
      { bindings := directory.bindings.filter fun binding => binding.1 != device } = next := by
  cases bound : directory.find? device <;> simp [remove, bound]

theorem resolve_eq_ok : directory.resolve device = .ok source ↔
    directory.find? device = some source := by
  cases bound : directory.find? device <;> simp [resolve, bound]

theorem resolve_of_unbound (unbound : directory.find? device = none) :
    directory.resolve device = .error (.sourceUnresolved device) := by
  simp only [resolve, unbound]

end

theorem lookup_cons_ite (bindings : List (Device × Source)) (device other : Device)
    (source : Source) :
    ((device, source) :: bindings).lookup other =
      if other = device then some source else bindings.lookup other := by
  by_cases same : other = device
  · simp [same]
  · have apart : (other == device) = false := by simpa using same
    rw [if_neg same, List.lookup_cons, apart]

theorem lookup_filter_ne (bindings : List (Device × Source)) (device other : Device) :
    (bindings.filter fun binding => binding.1 != device).lookup other =
      if other = device then none else bindings.lookup other := by
  induction bindings with
  | nil => simp
  | cons binding rest ih =>
    obtain ⟨key, source⟩ := binding
    by_cases removed : key = device
    · rw [List.filter_cons_of_neg (by simpa using removed), ih, lookup_cons_ite, removed]
      by_cases same : other = device
      · rw [if_pos same, if_pos same]
      · rw [if_neg same, if_neg same, if_neg same]
    · rw [List.filter_cons_of_pos (by simpa using removed), lookup_cons_ite, lookup_cons_ite, ih]
      by_cases same : other = device
      · rw [if_pos same, if_pos same, if_neg (same ▸ Ne.symm removed)]
      · rw [if_neg same, if_neg same]

/-- A call that succeeds settles what its own device is bound to, and nothing else. -/
theorem find?_of_ok (succeeds : directory.attempt call = .ok next) (other : Device) :
    next.find? other = if other = call.device then call.camera? else directory.find? other := by
  cases call with
  | register device source =>
    obtain ⟨_, _, rfl⟩ := register_eq_ok.mp succeeds
    exact lookup_cons_ite directory.bindings device other source
  | remove device =>
    obtain ⟨_, rfl⟩ := remove_eq_ok.mp succeeds
    exact lookup_filter_ne directory.bindings device other

/-! ### Runs -/

/-- The directory after calls that begin with an empty one. -/
abbrev after (calls : List Call) : Directory := run {} calls

/-- The calls that succeed when one begins with an empty directory. -/
abbrev succeeded (calls : List Call) : List Call := successes {} calls

/-- The last of some calls that names a device. -/
def lastOn (device : Device) (calls : List Call) : Option Call :=
  calls.reverse.find? fun call => call.device == device

theorem lastOn_concat (device : Device) (calls : List Call) (call : Call) :
    lastOn device (calls ++ [call]) =
      if call.device = device then some call else lastOn device calls := by
  by_cases names : call.device = device <;> simp [lastOn, names]

theorem lastOn_eq_some {device : Device} {calls : List Call} :
    lastOn device calls = some call ↔
      call.device = device ∧ ∃ before later, calls = before ++ call :: later ∧
        ∀ other ∈ later, other.device ≠ device := by
  simp only [lastOn, List.find?_eq_some_iff_append, beq_iff_eq]
  refine and_congr_right fun _ => ⟨?_, ?_⟩
  · rintro ⟨later, before, split, apart⟩
    refine ⟨before.reverse, later.reverse, ?_, by simpa using apart⟩
    rw [← List.reverse_reverse calls, split]
    simp
  · rintro ⟨before, later, rfl, apart⟩
    exact ⟨later.reverse, before.reverse, by simp, by simpa using apart⟩

theorem successes_single_of_ok (succeeds : directory.attempt call = .ok next) :
    directory.successes [call] = [call] := by
  simp only [successes, succeeds]

theorem successes_single_of_error (fails : directory.attempt call = .error failure) :
    directory.successes [call] = [] := by
  simp only [successes, fails]

/-- A run leaves a device with what the last call made of it that succeeded. -/
theorem find?_after (calls : List Call) (device : Device) :
    (after calls).find? device = (lastOn device (succeeded calls)).bind Call.camera? := by
  -- From the end: whether the latest call succeeds is up to the directory that the others left.
  induction calls using List.reverseRecOn with
  | nil => rfl
  | append_singleton calls call ih =>
    rw [after, run_concat, succeeded, successes_append]
    cases result : (after calls).attempt call with
    | error failure =>
      rw [act_of_error result, successes_single_of_error result, List.append_nil]
      exact ih
    | ok next =>
      rw [act_of_ok result, successes_single_of_ok result, lastOn_concat, find?_of_ok result, ih]
      by_cases names : call.device = device
      · rw [if_pos names, if_pos names.symm, Option.bind_some]
      · rw [if_neg names, if_neg (Ne.symm names)]

/-- The cameras in a directory can be read. -/
def Streams (directory : Directory) : Prop :=
  ∀ device source, directory.find? device = some source →
    Locator.isStreaming source.locator.toList = true

theorem streams_act (h : directory.Streams) (call : Call) : (directory.act call).Streams := by
  cases result : directory.attempt call with
  | error failure => rwa [act_of_error result]
  | ok next =>
    intro device source bound
    rw [act_of_ok result, find?_of_ok result] at bound
    split at bound
    · rw [Call.camera?_eq_some.mp bound] at result
      exact (register_eq_ok.mp result).1
    · exact h device source bound

theorem streams_run (h : directory.Streams) (calls : List Call) : (directory.run calls).Streams := by
  induction calls generalizing directory with
  | nil => exact h
  | cons call rest ih => exact ih (streams_act h call)

theorem streams_after (calls : List Call) : (after calls).Streams :=
  streams_run (fun _ _ bound => absurd bound (by simp [find?])) calls

/-- The last of the calls that succeeded and name the device binds the camera to it. -/
def Binds (calls : List Call) (device : Device) (source : Source) : Prop :=
  ∃ before later, succeeded calls = before ++ .register device source :: later ∧
    ∀ call ∈ later, call.device ≠ device

variable {calls : List Call} {device : Device} {source : Source}

theorem find?_after_eq_some :
    (after calls).find? device = some source ↔ Binds calls device source := by
  rw [find?_after, Option.bind_eq_some_iff]
  constructor
  · rintro ⟨call, last, binds⟩
    obtain ⟨names, before, later, split, apart⟩ := lastOn_eq_some.mp last
    rw [Call.camera?_eq_some, names] at binds
    exact ⟨before, later, binds ▸ split, apart⟩
  · rintro ⟨before, later, split, apart⟩
    exact ⟨.register device source, lastOn_eq_some.mpr ⟨rfl, before, later, split, apart⟩, rfl⟩

theorem find?_after_eq_none :
    (after calls).find? device = none ↔ ∀ source, ¬ Binds calls device source := by
  simp only [Option.eq_none_iff_forall_ne_some, ne_eq, find?_after_eq_some]

end Directory

end CameraRelay
