import CameraRelay.Decoder.Diagnostics
import CameraRelay.Decoder.Supervisor

/-!
# Holding a decoder

A decoder that was started is supervised, and held by the one handle through which it can be
stopped. A handle asks once; letting go of it also stops the decoder. A decoder may take a request to
stop for nothing, and is then killed when its grace is over.
-/

namespace CameraRelay

structure Decoder where
  supervisor : Supervisor
  isHeld : Bool := true
  wasAsked : Bool := false
  /-- Whether the decoder takes a request to stop for nothing. -/
  isStubborn : Bool := false
  diagnostics : List Char := []

namespace Decoder

def hasEnded (decoder : Decoder) : Bool := decoder.supervisor.watch = .finished

def stopRequested (decoder : Decoder) : Bool := decoder.wasAsked || !decoder.isHeld

/-- Asks the decoder to stop. None without a handle; false if it was asked before or has ended. -/
def terminate (decoder : Decoder) : Decoder × Option Bool :=
  if !decoder.isHeld then (decoder, none)
  else if decoder.wasAsked then (decoder, some false)
  else ({ decoder with wasAsked := true }, some (!decoder.hasEnded))

/-- Lets go of the handle; tells whether it was there. -/
def dropHandle (decoder : Decoder) : Decoder × Bool :=
  ({ decoder with isHeld := false }, decoder.isHeld)

/-- The decoder takes requests to stop for nothing from now on. -/
def ignoreRequests (decoder : Decoder) : Decoder := { decoder with isStubborn := true }

/-- Takes an observation in and makes the reports that it causes. -/
def observe {σ : Type} (sink : σ → Device → Nat → Report → σ × Bool) (decoder : Decoder)
    (state : σ) (observation : Observation) : Decoder × σ :=
  let (supervisor, state) := (decoder.supervisor.observe observation).reportAll sink state
  ({ decoder with supervisor }, state)

/-- The process ends: an exit, or, if it was told to stop, the end that is waited for. -/
def exit {σ : Type} (sink : σ → Device → Nat → Report → σ × Bool) (decoder : Decoder)
    (state : σ) (status : ExitStatus) : Decoder × σ :=
  if decoder.supervisor.watch = .stopping then decoder.observe sink state .terminated
  else decoder.observe sink state (.exit status)

def kill {σ : Type} (sink : σ → Device → Nat → Report → σ × Bool) (decoder : Decoder)
    (state : σ) : Decoder × σ :=
  decoder.observe sink state .terminated

/-- The decoder writes diagnostics: the lines that this completes are logged. -/
def diagnose (decoder : Decoder) (text : List Char) :
    Decoder × List (Diagnostics.Level × List Char) :=
  let (entries, unfinished) := Diagnostics.log (decoder.diagnostics ++ text)
  ({ decoder with diagnostics := unfinished }, entries)

/-- The supervisor goes on as far as it can: it sees a request to stop, and a decoder that heeds
such requests is then gone. -/
def rest {σ : Type} (sink : σ → Device → Nat → Report → σ × Bool) (decoder : Decoder)
    (state : σ) : Decoder × σ :=
  let (decoder, state) :=
    if decoder.stopRequested then decoder.observe sink state .stopRequest else (decoder, state)
  if decoder.isStubborn then (decoder, state) else decoder.observe sink state .terminated

end Decoder

end CameraRelay
