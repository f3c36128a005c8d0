import CameraRelay.Json.Number

/-!
# Faults of JSON text

What is wrong with a text that should be JSON, and the place where that showed. The wording of a
fault ends with its place; `Fault.ofText` reads a wording back.
-/

namespace CameraRelay.Json

/-- A place in a text. Lines are counted from 1, characters of a line from 0. -/
structure Place where
  line : Nat
  column : Nat
deriving DecidableEq

/-- What is wrong, and where, if that is known. -/
structure Fault where
  reason : List Char
  place : Option Place := none
deriving DecidableEq

def lineMark : List Char := " at line ".toList

def columnMark : List Char := " column ".toList

def maxCount : Nat := Nat.pow 2 64 - 1

def Place.text (place : Place) : List Char :=
  lineMark ++ Nat.toDigits 10 place.line ++ columnMark ++ Nat.toDigits 10 place.column

/-- The decimal number that ends a text, leading zeros allowed, behind what precedes it. -/
def numberAtEnd? (s : List Char) : Option (List Char × Nat) :=
  match digits s.reverse with
  | ([], _) => none
  | (ds, before) =>
    let n := ds.foldr (fun d n => n * 10 + d) 0
    if n ≤ maxCount then some (before.reverse, n) else none

/-- The place that ends a text, behind what precedes it. Its line may be 0. -/
def placeAtEnd? (s : List Char) : Option (List Char × Place) := do
  let (s, column) ← numberAtEnd? s
  let s ← columnMark.isSuffixOf? s
  let (s, line) ← numberAtEnd? s
  let reason ← lineMark.isSuffixOf? s
  return (reason, ⟨line, column⟩)

namespace Fault

def text (fault : Fault) : List Char :=
  match fault.place with
  | some place => fault.reason ++ place.text
  | none => fault.reason

/-- The fault with a wording. Line 0 stands for no place. -/
def ofText (s : List Char) : Fault :=
  match placeAtEnd? s with
  | some (reason, place) => { reason, place := if place.line = 0 then none else some place }
  | none => { reason := s }

end Fault

end CameraRelay.Json
