import CameraRelay.Net.Address

/-!
# Listening for clients

Where clients are accepted, how many at once, and how long their lines may be.
-/

namespace CameraRelay.Net

structure Listening where
  address : Address := { host := .v4 0 0 0 0, port := 7878 }
  /-- How many clients at once; 0 is no limit. -/
  maxConnections : Nat := 0
  /-- Small packets are sent at once. -/
  noDelay : Bool := true
  /-- The longest command in bytes, its newline not counted. -/
  maxLineLength : Nat := 4096

namespace Listening

/-- Another longest command, at least 64 bytes. -/
def withMaxLineLength (listening : Listening) (bytes : Nat) : Listening :=
  { listening with maxLineLength := max bytes 64 }

/-- Whether one more client is accepted beside `count` others. -/
def admits (listening : Listening) (count : Nat) : Bool :=
  listening.maxConnections == 0 || decide (count < listening.maxConnections)

end Listening

end CameraRelay.Net
