import CameraRelay.Base64
import CameraRelay.Json.Reader

/-!
# Events on the wire

One compact JSON object per event, its members in a fixed order with `event` first. A frame travels
as a data URL. `Wire.line` is the event as a client receives it, and `Wire.read?` takes an event out
of a JSON value again.
-/

namespace CameraRelay.Wire

/-- What stands before the base64 text of a frame. -/
def imageMark : List Char := "data:image/jpeg;base64,".toList

def queuedMessage : List Char :=
  "Stream request queued; it will start when a slot frees up.".toList

def dataUrl (data : Bytes) : List Char := imageMark ++ Base64.encode data

def textMember (key : String) (value : List Char) : List Char × List Char :=
  (key.toList, Json.quote value)

def numberMember (key : String) (value : Nat) : List Char × List Char :=
  (key.toList, Nat.toDigits 10 value)

def join : List (List Char × List Char) → List Char
  | [] => []
  | [(key, value)] => Json.quote key ++ ':' :: value
  | (key, value) :: rest => Json.quote key ++ ':' :: value ++ ',' :: join rest

def object (members : List (List Char × List Char)) : List Char :=
  '{' :: join members ++ ['}']

def members : Event → List (List Char × List Char)
  | .started device =>
    [textMember "event" "streamStarted".toList, textMember "deviceId" device.name.toList]
  | .queued device position =>
    [textMember "event" "streamQueued".toList, textMember "deviceId" device.name.toList,
     numberMember "queuePosition" position, textMember "message" queuedMessage]
  | .frame device frame =>
    [textMember "event" "streamFrame".toList, textMember "deviceId" device.name.toList,
     textMember "image" (dataUrl frame.data)]
  | .ended device =>
    [textMember "event" "streamEnded".toList, textMember "deviceId" device.name.toList]
  | .error (some device) message =>
    [textMember "event" "streamError".toList, textMember "deviceId" device.name.toList,
     textMember "message" message.toList]
  | .error none message =>
    [textMember "event" "streamError".toList, textMember "message" message.toList]

def encode (event : Event) : List Char := object (members event)

def line (event : Event) : List Char := encode event ++ ['\n']

def lines (events : List Event) : List Char := events.flatMap line

/-- What a client can tell of an event: the number of a frame does not travel. -/
inductive Message where
  | started (device : List Char)
  | queued (device : List Char) (position : Nat) (message : List Char)
  | frame (device : List Char) (data : Bytes)
  | ended (device : List Char)
  | error (device : Option (List Char)) (message : List Char)
deriving DecidableEq

def Message.ofEvent : Event → Message
  | .started device => .started device.name.toList
  | .queued device position => .queued device.name.toList position queuedMessage
  | .frame device content => .frame device.name.toList content.data
  | .ended device => .ended device.name.toList
  | .error device message => .error (device.map (·.name.toList)) message.toList

/-- The message in a JSON value with exactly the members of its kind, in their order. -/
def read? : Json → Option Message
  | .object ((key, .string kind) :: rest) =>
    if key ≠ "event".toList then none
    else if kind = "streamStarted".toList then
      match rest with
      | [(k, .string device)] => if k = "deviceId".toList then some (.started device) else none
      | _ => none
    else if kind = "streamQueued".toList then
      match rest with
      | [(k, .string device), (p, .number (.natural n)), (m, .string message)] =>
        if k = "deviceId".toList ∧ p = "queuePosition".toList ∧ m = "message".toList then
          some (.queued device n message)
        else none
      | _ => none
    else if kind = "streamFrame".toList then
      match rest with
      | [(k, .string device), (i, .string image)] =>
        if k = "deviceId".toList ∧ i = "image".toList then do
          let encoded ← imageMark.isPrefixOf? image
          let data ← Base64.decode encoded
          some (.frame device data)
        else none
      | _ => none
    else if kind = "streamEnded".toList then
      match rest with
      | [(k, .string device)] => if k = "deviceId".toList then some (.ended device) else none
      | _ => none
    else if kind = "streamError".toList then
      match rest with
      | [(k, .string device), (m, .string message)] =>
        if k = "deviceId".toList ∧ m = "message".toList then some (.error (some device) message)
        else none
      | [(m, .string message)] => if m = "message".toList then some (.error none message) else none
      | _ => none
    else none
  | _ => none

end CameraRelay.Wire
