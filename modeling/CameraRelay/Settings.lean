import CameraRelay.Splitter
import CameraRelay.Text.Search

/-!
# Settings

How decoders are run and how many streams the relay serves. A decoder's arguments are a template, in
which the locator and the connection timeout are filled in.
-/

namespace CameraRelay

/-- A span of time; the nanoseconds are below a second. -/
structure Span where
  seconds : Nat
  nanos : Nat := 0
deriving DecidableEq

namespace Span

def of (seconds nanos : Nat) : Span := ⟨seconds + nanos / 1000000000, nanos % 1000000000⟩

def micros (span : Span) : Nat := span.seconds * 1000000 + span.nanos / 1000

end Span

def locatorMark : List Char := '{' :: "locator".toList ++ ['}']

def timeoutMark : List Char := '{' :: "timeout_us".toList ++ ['}']

structure DecoderSettings where
  program : String := "ffmpeg"
  arguments : List String :=
    ["-nostdin", "-rtsp_transport", "tcp", "-timeout", String.ofList timeoutMark, "-i",
     String.ofList locatorMark, "-f", "mjpeg", "-q:v", "5", "-r", "10", "-"]
  connectTimeout : Span := ⟨5, 0⟩
  killGrace : Span := ⟨2, 0⟩
  framing : Framing := .bySize
  flushThreshold : Nat := 10000
  readBufferSize : Nat := 16384

namespace DecoderSettings

/-- One argument with the timeout and then the locator filled in. -/
def fill (timeout locator argument : List Char) : List Char :=
  Text.replaceAll locatorMark locator (Text.replaceAll timeoutMark timeout argument)

def renderArguments (settings : DecoderSettings) (locator : String) : List String :=
  let timeout := Nat.toDigits 10 settings.connectTimeout.micros
  settings.arguments.map fun argument =>
    String.ofList (fill timeout locator.toList argument.toList)

/-- Another threshold, at least 1. -/
def withFlushThreshold (settings : DecoderSettings) (bytes : Nat) : DecoderSettings :=
  { settings with flushThreshold := max bytes 1 }

def splitter (settings : DecoderSettings) : Splitter :=
  .new settings.framing settings.flushThreshold

end DecoderSettings

structure RelaySettings where
  /-- How many devices decode at once. -/
  maxStreams : Nat := 5
  admissionTimeout : Span := ⟨300, 0⟩
  /-- How many events a subscriber's queue takes before frames are dropped. -/
  subscriberBuffer : Nat := 64
  decoder : DecoderSettings := {}

namespace RelaySettings

/-- Another cap on streams, at least 1. -/
def withMaxStreams (settings : RelaySettings) (count : Nat) : RelaySettings :=
  { settings with maxStreams := max count 1 }

/-- Another buffer, at least 1. -/
def withSubscriberBuffer (settings : RelaySettings) (events : Nat) : RelaySettings :=
  { settings with subscriberBuffer := max events 1 }

end RelaySettings

end CameraRelay
