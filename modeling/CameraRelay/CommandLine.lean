import CameraRelay.Net.Address
import CameraRelay.Source
import CameraRelay.Settings
import CameraRelay.Text.Quoted

/-!
# The command line

The arguments name the address to listen on, which may be left out, and the cameras to serve. Faults
are told in the order of the arguments; only then are the cameras bound.
-/

namespace CameraRelay.CommandLine

open Text

def defaultPort : Nat := 7878

def defaultAddress : Net.Address := { host := .v4 0 0 0 0, port := defaultPort }

structure Plan where
  address : Net.Address := defaultAddress
  /-- Devices and locators in the order given. -/
  cameras : List (Device × Source) := []

inductive Misuse where
  | address (argument : String)
  | camera (argument : String)
deriving DecidableEq

def Misuse.text : Misuse → String
  | address argument =>
    "Invalid bind address: '" ++ argument ++ "'. Expected format: IP:PORT or IP or 'localhost'"
  | camera argument => "Invalid camera: '" ++ argument ++ "'. Expected DEVICE=RTSP_URL"

/-- An address with or without a port; `localhost` stands for 127.0.0.1 wherever it occurs. -/
def readAddress? (argument : List Char) : Option Net.Address :=
  let numeric := replaceAll "localhost".toList "127.0.0.1".toList argument
  match Net.Address.parse? numeric with
  | some address => some address
  | none => (Net.Host.parse? numeric).map fun host => { host, port := defaultPort }

/-- A device and a locator around the first equals sign, neither of them empty. -/
def readCamera? (argument : List Char) : Option (Device × Source) :=
  match splitFirst? ['='] argument with
  | some (device, locator) =>
    if device.isEmpty || locator.isEmpty then none
    else some (⟨String.ofList device⟩, { locator := String.ofList locator })
  | none => none

def addCamera (plan : Plan) (argument : String) : Except Misuse Plan :=
  match readCamera? argument.toList with
  | some camera => .ok { plan with cameras := plan.cameras ++ [camera] }
  | none => .error (.camera argument)

/-- Reads the arguments; only the first may be an address, and is one unless it has an equals
sign. -/
def readPlan : List String → Except Misuse Plan
  | [] => .ok {}
  | first :: rest =>
    if first.toList.contains '=' then (first :: rest).foldlM addCamera {}
    else
      match readAddress? first.toList with
      | some address => rest.foldlM addCamera { address }
      | none => .error (.address first)

def Plan.directory (plan : Plan) : Except Failure Directory :=
  plan.cameras.foldlM (fun directory (device, source) => directory.register device source) {}

inductive Outcome where
  | help
  | misused (misuse : Misuse)
  | refused (failure : Failure)
  | serve (address : Net.Address) (directory : Directory)

/-- What the arguments come to. A request for help anywhere among them comes first. -/
def interpret (arguments : List String) : Outcome :=
  if arguments.any fun argument => argument == "--help" || argument == "-h" then .help
  else
    match readPlan arguments with
    | .error misuse => .misused misuse
    | .ok plan =>
      match plan.directory with
      | .error failure => .refused failure
      | .ok directory => .serve plan.address directory

def usage : String :=
  "Usage: broker_server [BIND_ADDR] DEVICE=RTSP_URL...\n\nArguments:\n" ++
  "  BIND_ADDR        Address to bind to (default: 0.0.0.0:7878)\n" ++
  "  DEVICE=RTSP_URL  Camera to expose under DEVICE\n\nEnvironment:\n" ++
  "  CAMSTREAM_MAX_STREAMS  Concurrently decoding devices (default: 5)\n" ++
  "  RUST_LOG               Log filter (default: camstream=debug)\n"

/-- A binding failure as the program ends with it: its kind, and its reason in quotes. -/
def failureText : Failure → String
  | .invalidSource reason => "InvalidSource(" ++ String.ofList (quoted reason.toList) ++ ")"
  | other => other.text

def banner (address : Net.Address) : String :=
  "Starting camera stream broker on " ++ String.ofList address.text

/-- Exit code and parting words of a run that does not serve. -/
def Outcome.ending? : Outcome → Option (Nat × String)
  | help => some (0, usage)
  | misused misuse => some (1, "Error: " ++ misuse.text ++ "\n\n" ++ usage)
  | refused failure => some (1, "Error: " ++ failureText failure ++ "\n")
  | serve _ _ => none

/-- What a client may send, as the program tells it. -/
def hint : String :=
  "Send: \x7b\"event\":\"startStream\",\"deviceId\":\"<device>\"\x7d"

end CameraRelay.CommandLine
