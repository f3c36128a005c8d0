import CameraRelay.Failure
import CameraRelay.Locator

/-!
# Camera sources

The directory binds devices to cameras. A binding is made once: a device that has a camera keeps it
until it is unbound.
-/

namespace CameraRelay

structure Source where
  locator : String
  credentials : Option Credentials := none
deriving DecidableEq

def Source.effectiveLocator (source : Source) : String :=
  String.ofList (Locator.effective source.locator.toList source.credentials)

/-- The cameras bound to devices, the latest binding first. -/
structure Directory where
  bindings : List (Device × Source) := []

namespace Directory

def find? (directory : Directory) (device : Device) : Option Source :=
  directory.bindings.lookup device

/-- Binds a camera to a device that has none. Only a streaming locator is accepted. -/
def register (directory : Directory) (device : Device) (source : Source) :
    Except Failure Directory :=
  if !Locator.isStreaming source.locator.toList then
    .error (.invalidSource "locator must start with rtsp:// or rtsps://")
  else if (directory.find? device).isSome then
    .error (.invalidSource ("device " ++ device.name ++ " already has a camera"))
  else .ok { bindings := (device, source) :: directory.bindings }

def remove (directory : Directory) (device : Device) : Except Failure Directory :=
  if (directory.find? device).isSome then
    .ok { bindings := directory.bindings.filter fun binding => binding.1 != device }
  else .error (.sourceUnresolved device)

def resolve (directory : Directory) (device : Device) : Except Failure Source :=
  match directory.find? device with
  | some source => .ok source
  | none => .error (.sourceUnresolved device)

end Directory

end CameraRelay
