import CameraRelay.Json.Number
import CameraRelay.Json.Text

/-!
# Reading JSON

One value, with white space around it and nothing else. Arrays and objects may be nested 127 deep.
The reader of a value at one depth is built from the reader at the next, and the items of an array
are read one after the other, each of which takes at least one character.
-/

namespace CameraRelay.Json

def isSpace (c : Char) : Bool := c == ' ' || c == '\n' || c == '\t' || c == '\r'

def skipSpace (s : List Char) : List Char := s.dropWhile isSpace

/-- How deep arrays and objects may be nested. -/
def maxDepth : Nat := 127

/-- Reads a value whose first character is in front. -/
abbrev ValueReader := List Char → Option (Json × List Char)

/-- A value that is neither an array nor an object. -/
def scalar? : ValueReader
  | 'n' :: 'u' :: 'l' :: 'l' :: rest => some (.null, rest)
  | 't' :: 'r' :: 'u' :: 'e' :: rest => some (.bool true, rest)
  | 'f' :: 'a' :: 'l' :: 's' :: 'e' :: rest => some (.bool false, rest)
  | '"' :: rest => (unquote? rest).map fun (s, rest) => (.string s, rest)
  | s => (number? s).map fun (n, rest) => (.number n, rest)

/-- The items of an array from the first of them on, up to the closing bracket. -/
def items? (item : ValueReader) : Nat → List Char → Option (List Json × List Char)
  | 0, _ => none
  | fuel + 1, s => do
    let (first, s) ← item (skipSpace s)
    match skipSpace s with
    | ']' :: rest => some ([first], rest)
    | ',' :: rest =>
      let (others, rest) ← items? item fuel rest
      some (first :: others, rest)
    | _ => none

def array? (item : ValueReader) (s : List Char) : Option (Json × List Char) :=
  match skipSpace s with
  | ']' :: rest => some (.array [], rest)
  | s => (items? item s.length s).map fun (items, rest) => (.array items, rest)

/-- One member of an object: a key in quotes, a colon and a value. -/
def member? (item : ValueReader) (s : List Char) : Option ((List Char × Json) × List Char) :=
  match skipSpace s with
  | '"' :: s => do
    let (key, s) ← unquote? s
    match skipSpace s with
    | ':' :: s =>
      let (value, s) ← item (skipSpace s)
      some ((key, value), s)
    | _ => none
  | _ => none

/-- The members of an object from the first of them on, up to the closing brace. -/
def members? (item : ValueReader) :
    Nat → List Char → Option (List (List Char × Json) × List Char)
  | 0, _ => none
  | fuel + 1, s => do
    let (first, s) ← member? item s
    match skipSpace s with
    | '}' :: rest => some ([first], rest)
    | ',' :: rest =>
      let (others, rest) ← members? item fuel rest
      some (first :: others, rest)
    | _ => none

def object? (item : ValueReader) (s : List Char) : Option (Json × List Char) :=
  match skipSpace s with
  | '}' :: rest => some (.object [], rest)
  | s => (members? item s.length s).map fun (members, rest) => (.object members, rest)

/-- A value in which arrays and objects are nested at most `depth` deep. -/
def value? : Nat → ValueReader
  | 0 => fun s =>
    match s with
    | '[' :: _ => none
    | '{' :: _ => none
    | s => scalar? s
  | depth + 1 => fun s =>
    match s with
    | '[' :: rest => array? (value? depth) rest
    | '{' :: rest => object? (value? depth) rest
    | s => scalar? s

/-- The text's one value, if it is one valid JSON text. -/
def read? (s : List Char) : Option Json :=
  match value? maxDepth (skipSpace s) with
  | some (v, rest) => if (skipSpace rest).isEmpty then some v else none
  | none => none

end CameraRelay.Json
