import CameraRelay.Decoder.ExitStatus
import CameraRelay.Settings

/-!
# Supervising a decoder

A supervisor watches one decoder: it reads what the decoder writes, cuts it into frames, and reports
bytes, frames and the end to a sink. The sink answers whether it wants more; a supervisor that is
not wanted stops its decoder. At rest a supervisor waits for something to observe; with a report due
it waits for the sink's answer.
-/

namespace CameraRelay

inductive DecoderExit where
  | exited (status : ExitStatus)
  | failed (message : String)
  | stopped
deriving DecidableEq

inductive Observation where
  | stopRequest
  | exit (status : ExitStatus)
  | waitFailure (message : String)
  /-- Bytes that were read; never none. -/
  | read (chunk : Bytes)
  | endOfOutput
  | readFailure
  | terminated

structure Sight where
  stopRequested : Bool := false
  ending : Option Observation := none
  output : Option Observation := none

/-- The observation that comes first: a request to stop, then the end, then the output. -/
def Sight.first? (sight : Sight) : Option Observation :=
  if sight.stopRequested then some .stopRequest else sight.ending.or sight.output

inductive Report where
  | bytes (count : Nat)
  | frame (frame : Frame)
  | exit (exit : DecoderExit)
deriving DecidableEq

inductive Watch where
  | watching
  | counting (chunk : Bytes)
  /-- It reports a frame; more may follow. -/
  | offering (unit : Bytes) (more : List Bytes)
  /-- It told the decoder to stop and waits until it is gone. -/
  | stopping
  | leaving (exit : DecoderExit)
  | finished
deriving DecidableEq

structure Supervisor where
  device : Device
  session : Nat
  splitter : Splitter
  sequence : Nat := 0
  outputOpen : Bool := true
  watch : Watch := .watching

namespace Supervisor

def start (settings : DecoderSettings) (device : Device) (session : Nat) : Supervisor :=
  { device, session, splitter := settings.splitter }

def offer (supervisor : Supervisor) : List Bytes → Supervisor
  | [] => { supervisor with watch := .watching }
  | unit :: more => { supervisor with watch := .offering unit more }

/-- Takes an observation in. Only a supervisor at rest does so, and one that stops its decoder waits
for that alone; the end of the output or a failure to read it does not end supervision. -/
def observe (supervisor : Supervisor) (observation : Observation) : Supervisor :=
  match supervisor.watch, observation with
  | .watching, .stopRequest => { supervisor with watch := .stopping }
  | .watching, .exit status => { supervisor with watch := .leaving (.exited status) }
  | .watching, .waitFailure message => { supervisor with watch := .leaving (.failed message) }
  | .watching, .read chunk =>
    if supervisor.outputOpen && !chunk.isEmpty then { supervisor with watch := .counting chunk }
    else supervisor
  | .watching, .endOfOutput => { supervisor with outputOpen := false }
  | .watching, .readFailure => { supervisor with outputOpen := false }
  | .stopping, .terminated => { supervisor with watch := .leaving .stopped }
  | _, _ => supervisor

/-- Looks at all that can be observed at one moment and takes in what comes first. -/
def look (supervisor : Supervisor) (sight : Sight) : Supervisor :=
  match sight.first? with
  | some observation => supervisor.observe observation
  | none => supervisor

def due? (supervisor : Supervisor) : Option Report :=
  match supervisor.watch with
  | .counting chunk => some (.bytes chunk.length)
  | .offering unit _ => some (.frame ⟨supervisor.sequence, unit⟩)
  | .leaving exit => some (.exit exit)
  | _ => none

/-- Goes on after the sink answered the report that was due. The answer to an exit report does not
matter. -/
def answer (supervisor : Supervisor) (wanted : Bool) : Supervisor :=
  match supervisor.watch with
  | .counting chunk =>
    let (splitter, units) := supervisor.splitter.push chunk
    let supervisor := { supervisor with splitter }
    if wanted then supervisor.offer units else { supervisor with watch := .stopping }
  | .offering _ more =>
    let supervisor := { supervisor with sequence := supervisor.sequence + 1 }
    if wanted then supervisor.offer more else { supervisor with watch := .stopping }
  | .leaving _ => { supervisor with watch := .finished, splitter := supervisor.splitter.reset.1 }
  | _ => supervisor

def reportsLeft (supervisor : Supervisor) : Nat :=
  match supervisor.watch with
  | .counting chunk => 2 + chunk.length
  | .offering _ more => 1 + more.length
  | .leaving _ => 1
  | _ => 0

/-- Makes due reports to a sink with a state of its own, `fuel` of them at most. -/
def reportUpTo {σ : Type} (sink : σ → Device → Nat → Report → σ × Bool) :
    Nat → Supervisor → σ → Supervisor × σ
  | 0, supervisor, state => (supervisor, state)
  | fuel + 1, supervisor, state =>
    match supervisor.due? with
    | none => (supervisor, state)
    | some report =>
      let (state, wanted) := sink state supervisor.device supervisor.session report
      reportUpTo sink fuel (supervisor.answer wanted) state

/-- Makes every report that is due, until there is something to observe again. -/
def reportAll {σ : Type} (sink : σ → Device → Nat → Report → σ × Bool) (supervisor : Supervisor)
    (state : σ) : Supervisor × σ :=
  reportUpTo sink supervisor.reportsLeft supervisor state

/-- Takes observations in one after the other, with all the reports that each of them causes. -/
def run {σ : Type} (sink : σ → Device → Nat → Report → σ × Bool) (supervisor : Supervisor)
    (state : σ) : List Observation → Supervisor × σ
  | [] => (supervisor, state)
  | observation :: rest =>
    let (supervisor, state) := (supervisor.observe observation).reportAll sink state
    supervisor.run sink state rest

/-- Looks at what there is at one moment after the other, with all the reports that each look
causes. -/
def attend {σ : Type} (sink : σ → Device → Nat → Report → σ × Bool) (supervisor : Supervisor)
    (state : σ) : List Sight → Supervisor × σ
  | [] => (supervisor, state)
  | sight :: rest =>
    let (supervisor, state) := (supervisor.look sight).reportAll sink state
    supervisor.attend sink state rest

end Supervisor

end CameraRelay
