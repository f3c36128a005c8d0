import CameraRelay.CommandLine

/-!
# The program

Reads the arguments and tells what they come to. Sockets and decoder processes are the surroundings
of the relay; nothing here decides anything.
-/

/-- Tells what the arguments come to; the exit code is 0 unless they are at fault. -/
def main (arguments : List String) : IO UInt32 := do
  let outcome := CameraRelay.CommandLine.interpret arguments
  match outcome, outcome.ending? with
  | .serve address _, none =>
    IO.println (CameraRelay.CommandLine.banner address)
    IO.println CameraRelay.CommandLine.hint
    return 0
  | _, some (code, parting) =>
    IO.eprint parting
    return code.toUInt32
  | _, none => return 0
