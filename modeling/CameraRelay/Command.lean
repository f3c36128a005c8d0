import CameraRelay.Device
import CameraRelay.Json.Reader
import CameraRelay.Number.Shortest
import CameraRelay.Text.Blank
import CameraRelay.Text.Quoted

/-!
# Client commands

A client sends one JSON value per line: an object with a member `event` that names the command and
an optional member `deviceId`, or an array of the two. `Command.decode` finds the first fault of a
line: those of `event` in the order of the members, then those of the rest.
-/

namespace CameraRelay

/-- What a client asks for. The device is as sent; none was sent if it was missing or null. -/
inductive Command where
  | start (device : Option (List Char))
  | stop (device : Option (List Char))
deriving DecidableEq

namespace Command

inductive Expected where
  | command
  | commandName
  | deviceName
deriving DecidableEq

inductive Fault where
  | malformed
  | unknownCommand (name : List Char)
  | missingEvent
  | repeatedEvent
  | repeatedDevice
  | wrongType (found : Json) (expected : Expected)
  | tooManyItems (count : Nat)

def describe : Json → List Char
  | .null => "null".toList
  | .bool true => "boolean `true`".toList
  | .bool false => "boolean `false`".toList
  | .number (.natural n) => "integer `".toList ++ Nat.toDigits 10 n ++ ['`']
  | .number (.negative n) => "integer `-".toList ++ Nat.toDigits 10 n ++ ['`']
  | .number (.floating isNegative x) =>
    "floating point `".toList ++ (if isNegative then ['-'] else []) ++ x.text ++ ['`']
  | .string s => "string ".toList ++ Text.quoted s
  | .array _ => "sequence".toList
  | .object _ => "map".toList

def Expected.text : Expected → List Char
  | command => "internally tagged enum ClientCommand".toList
  | commandName => "variant identifier".toList
  | deviceName => "a string".toList

def Fault.text : Fault → List Char
  | malformed => "malformed JSON".toList
  | unknownCommand name =>
    "unknown variant `".toList ++ name ++ "`, expected `startStream` or `stopStream`".toList
  | missingEvent => "missing field `event`".toList
  | repeatedEvent => "duplicate field `event`".toList
  | repeatedDevice => "duplicate field `deviceId`".toList
  | wrongType found expected =>
    "invalid type: ".toList ++ describe found ++ ", expected ".toList ++ expected.text
  | tooManyItems count =>
    "invalid length ".toList ++ Nat.toDigits 10 count ++ ", expected 1 element in sequence".toList

inductive Kind where
  | start
  | stop
deriving DecidableEq

def Kind.name : Kind → List Char
  | start => "startStream".toList
  | stop => "stopStream".toList

def ofKind : Kind → Option (List Char) → Command
  | .start, device => .start device
  | .stop, device => .stop device

def kindOf : Json → Except Fault Kind
  | .string s =>
    if s = Kind.start.name then .ok .start
    else if s = Kind.stop.name then .ok .stop
    else .error (.unknownCommand s)
  | other => .error (.wrongType other .commandName)

def deviceOf : Json → Except Fault (Option (List Char))
  | .null => .ok none
  | .string s => .ok (some s)
  | other => .error (.wrongType other .deviceName)

def eventKey : List Char := "event".toList

def deviceKey : List Char := "deviceId".toList

/-- The kind that the members name, given the kind named before them. -/
def eventAmong (found : Option Kind) : List (List Char × Json) → Except Fault Kind
  | [] =>
    match found with
    | some kind => .ok kind
    | none => .error .missingEvent
  | (key, value) :: rest =>
    if key = eventKey then
      match found with
      | some _ => .error .repeatedEvent
      | none =>
        match kindOf value with
        | .ok kind => eventAmong (some kind) rest
        | .error fault => .error fault
    else eventAmong found rest

/-- The device that the members name, given what was named before them. -/
def deviceAmong (found : Option (Option (List Char))) :
    List (List Char × Json) → Except Fault (Option (List Char))
  | [] => .ok (found.getD none)
  | (key, value) :: rest =>
    if key = deviceKey then
      match found with
      | some _ => .error .repeatedDevice
      | none =>
        match deviceOf value with
        | .ok device => deviceAmong (some device) rest
        | .error fault => .error fault
    else deviceAmong found rest

def ofJson : Json → Except Fault Command
  | .object members =>
    match eventAmong none members with
    | .error fault => .error fault
    | .ok kind =>
      match deviceAmong none members with
      | .error fault => .error fault
      | .ok device => .ok (ofKind kind device)
  | .array [] => .error .missingEvent
  | .array (name :: rest) =>
    match kindOf name with
    | .error fault => .error fault
    | .ok kind =>
      match rest with
      | [] => .ok (ofKind kind none)
      | value :: others =>
        match deviceOf value with
        | .error fault => .error fault
        | .ok device =>
          if others.isEmpty then .ok (ofKind kind device)
          else .error (.tooManyItems rest.length)
  | other => .error (.wrongType other .command)

def decode (line : List Char) : Except Fault Command :=
  match Json.read? (Text.trim line) with
  | some value => ofJson value
  | none => .error .malformed

def kind : Command → Kind
  | start _ => .start
  | stop _ => .stop

def sent? : Command → Option (List Char)
  | start device => device
  | stop device => device

/-- The device the command is about, unless it is missing or blank. -/
def device? (command : Command) : Option Device :=
  match command.sent? with
  | some name => if Text.allBlank name then none else some ⟨String.ofList name⟩
  | none => none

end Command

end CameraRelay
