import CameraRelay.Text.Search

/-!
# A decoder's diagnostics

What a decoder writes for people is logged line by line, as an error if the line speaks of one. It
never ends a session.
-/

namespace CameraRelay.Diagnostics

inductive Level where
  | error
  | trace
deriving DecidableEq

def Level.label : Level → String
  | error => "ERROR"
  | trace => "TRACE"

/-- A line speaks of an error if it holds the word in one of these two spellings. -/
def levelOf (line : List Char) : Level :=
  if Text.occurs "error".toList line || Text.occurs "Error".toList line then .error else .trace

def dropReturn (line : List Char) : List Char :=
  if line.getLast? = some '\r' then line.dropLast else line

/-- The complete lines of a text, and the unfinished one behind them. -/
def lines : List Char → List (List Char) × List Char
  | [] => ([], [])
  | c :: r =>
    let (complete, unfinished) := lines r
    if c = '\n' then ([] :: complete, unfinished)
    else
      match complete with
      | [] => ([], c :: unfinished)
      | first :: others => ((c :: first) :: others, unfinished)

/-- The log entries of a text, and the unfinished line that waits for more. -/
def log (text : List Char) : List (Level × List Char) × List Char :=
  let (complete, unfinished) := lines text
  ((complete.map dropReturn).map fun line => (levelOf line, line), unfinished)

end CameraRelay.Diagnostics
