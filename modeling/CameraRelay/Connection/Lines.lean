import CameraRelay.Event

/-!
# Lines from a connection

A client's commands arrive as bytes in pieces of any size. A line is read up to its newline, up to
the end of the input, or until it has one byte more than a line may have; where the pieces were cut
makes no difference.
-/

namespace CameraRelay.Lines

def newline : UInt8 := 10

/-- Takes up to `limit` bytes of a piece, through its first newline: what was taken, what is left,
and whether the line goes on behind the piece. -/
def takeFrom : Nat → Bytes → Bytes × Bytes × Bool
  | 0, piece => ([], piece, false)
  | _ + 1, [] => ([], [], true)
  | limit + 1, byte :: rest =>
    if byte = newline then ([byte], rest, false)
    else
      let (taken, left, goesOn) := takeFrom limit rest
      (byte :: taken, left, goesOn)

/-- Takes up to `limit` bytes of the pieces, through the first newline. -/
def takeLine (limit : Nat) : List Bytes → Bytes × List Bytes
  | [] => ([], [])
  | piece :: rest =>
    match takeFrom limit piece with
    | (taken, left, false) => (taken, left :: rest)
    | (taken, _, true) =>
      let (more, rest) := takeLine (limit - taken.length) rest
      (taken ++ more, rest)

inductive Next where
  | done
  /-- The line has more bytes than a line may have. -/
  | tooLong
  /-- A line, with its newline if it has one, and the input behind it. -/
  | line (line : Bytes) (rest : List Bytes)

/-- The next line, of at most `maxLength` bytes without its newline. -/
def next (maxLength : Nat) (pieces : List Bytes) : Next :=
  let (line, rest) := takeLine (maxLength + 1) pieces
  if line.isEmpty then .done
  else if line.getLast? != some newline && decide (maxLength < line.length) then .tooLong
  else .line line rest

/-- Whether the next line is there while more input may follow: its newline has arrived, or so many
bytes without one that no newline can make it a line. -/
def isReady (maxLength : Nat) (pieces : List Bytes) : Bool :=
  let (line, _) := takeLine (maxLength + 1) pieces
  line.getLast? == some newline || decide (maxLength < line.length)

end CameraRelay.Lines
