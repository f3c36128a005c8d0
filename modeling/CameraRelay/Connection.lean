import CameraRelay.Command
import CameraRelay.Connection.Lines
import CameraRelay.Relay
import CameraRelay.Text.Utf8

/-!
# A client's connection

A connection reads commands and writes events. The reader handles one line after the other until
the input ends or a line is too long; then the writer is stopped wherever it is, which drops the
client's mailbox, and the client is taken out of the relay.
-/

namespace CameraRelay

inductive ConnectionStage where
  | reading
  /-- Nothing more is read; events are still written. -/
  | closing (outcome : Outcome)
  | leaving (outcome : Outcome)
  | over (outcome : Outcome)

structure Connection where
  subscriber : SubscriberId
  /-- What has arrived and was not read yet, in the pieces in which it came. -/
  input : List Bytes := []
  /-- Whether nothing more will arrive. -/
  inputEnded : Bool := false
  stage : ConnectionStage := .reading
  written : List Event := []

inductive LineEffect where
  | nothing
  | complaint (message : String)
  | start (device : Device)
  | stop (device : Device)
deriving DecidableEq

def deviceRequired : String := "deviceId is required"

def commandTooLong : String := "command too long"

/-- What a line asks for: nothing if it is blank, and a complaint if it is no command or its command
names no device. -/
def LineEffect.ofLine (line : Bytes) : LineEffect :=
  let text := Text.decodeLossy line
  if Text.allBlank text then .nothing
  else
    match Command.decode text with
    | .error fault => .complaint (Failure.protocol (String.ofList fault.text)).text
    | .ok command =>
      match command.device? with
      | none => .complaint deviceRequired
      | some device =>
        match command.kind with
        | .start => .start device
        | .stop => .stop device

def LineEffect.action? (subscriber : SubscriberId) : LineEffect → Option Action
  | nothing => none
  | complaint message => some (.complain subscriber message)
  | start device => some (.ask subscriber device)
  | stop device => some (.stop subscriber device)

namespace Connection

/-- Bytes arrive; an empty piece is no arrival. -/
def arrive (connection : Connection) (piece : Bytes) : Connection :=
  if connection.inputEnded || piece.isEmpty then connection
  else { connection with input := connection.input ++ [piece] }

def hangUp (connection : Connection) : Connection := { connection with inputEnded := true }

/-- Why a connection ends whose client sent a line that is too long. -/
def tooLong (maxLength : Nat) : Failure :=
  .protocol ("command exceeds " ++ toString maxLength ++ " bytes")

/-- Whether the reader can go on: the next line has arrived, or nothing more will. -/
def canRead (connection : Connection) (maxLength : Nat) : Bool :=
  match connection.stage with
  | .reading => connection.inputEnded || Lines.isReady maxLength connection.input
  | _ => false

/-- Reads the next line; the action it asks for is handed back. -/
def read (connection : Connection) (maxLength : Nat) : Connection × Option Action :=
  if !connection.canRead maxLength then (connection, none)
  else
    match Lines.next maxLength connection.input with
    | .done => ({ connection with stage := .closing (.ok ()) }, none)
    | .tooLong =>
      ({ connection with stage := .closing (.error (tooLong maxLength)) },
        some (.complain connection.subscriber commandTooLong))
    | .line line rest =>
      ({ connection with input := rest }, (LineEffect.ofLine line).action? connection.subscriber)

def isWriting (connection : Connection) : Bool :=
  match connection.stage with
  | .reading => true
  | .closing _ => true
  | _ => false

/-- The writer's turn; `next?` is the oldest event in the client's mailbox. -/
def write (connection : Connection) (next? : Option Event) : Connection × Option Action :=
  if connection.isWriting then
    match next? with
    | some event =>
      ({ connection with written := connection.written ++ [event] },
        some (.receive connection.subscriber 1))
    | none => (connection, none)
  else (connection, none)

/-- Stops the writer of a connection that reads no more; its mailbox is dropped. -/
def stopWriter (connection : Connection) : Connection × Option Action :=
  match connection.stage with
  | .closing outcome =>
    ({ connection with stage := .leaving outcome }, some (.dropMailbox connection.subscriber))
  | _ => (connection, none)

def leave (connection : Connection) : Connection × Option Action :=
  match connection.stage with
  | .leaving outcome =>
    ({ connection with stage := .over outcome }, some (.disconnect connection.subscriber))
  | _ => (connection, none)

def outcome? (connection : Connection) : Option Outcome :=
  match connection.stage with
  | .over outcome => some outcome
  | _ => none

end Connection

end CameraRelay
