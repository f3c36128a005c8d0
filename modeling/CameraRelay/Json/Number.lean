import CameraRelay.Json.Value

/-!
# Reading JSON numbers

The grammar is `-? (0 | [1-9][0-9]*) (. [0-9]+)? ([eE] [+-]? [0-9]+)?`. A number without fraction
and exponent that fits 64 bits is an integer. Of any other the digits that fit an unsigned 64-bit
significand are kept, the rest only counted, and one that is out of reach of a binary fraction is
refused.
-/

namespace CameraRelay.Json

def digit? (c : Char) : Option Nat :=
  if '0'.toNat ≤ c.toNat && c.toNat ≤ '9'.toNat then some (c.toNat - '0'.toNat) else none

def digits : List Char → List Nat × List Char
  | [] => ([], [])
  | c :: r =>
    match digit? c with
    | some d =>
      let (ds, rest) := digits r
      (d :: ds, rest)
    | none => ([], c :: r)

def maxSignificand : Nat := Nat.pow 2 64 - 1

/-- Appends digits to a significand while it stays within 64 bits; the rest is handed back. -/
def absorb (significand : Nat) : List Nat → Nat × List Nat
  | [] => (significand, [])
  | d :: ds =>
    let next := significand * 10 + d
    if next ≤ maxSignificand then absorb next ds else (significand, d :: ds)

/-- The integer part: one zero, or digits that do not begin with one. -/
def integerDigits? (s : List Char) : Option (List Nat × List Char) :=
  match digits s with
  | ([], _) => none
  | (0 :: _ :: _, _) => none
  | (ds, rest) => some (ds, rest)

/-- The fraction: none, or a point and at least one digit. -/
def fractionDigits? : List Char → Option (List Nat × List Char)
  | '.' :: r =>
    match digits r with
    | ([], _) => none
    | (ds, rest) => some (ds, rest)
  | s => some ([], s)

/-- The exponent: none, or its value behind `e` or `E` and an optional sign. -/
def exponent? (s : List Char) : Option (Option Int × List Char) :=
  let value (isNegative : Bool) (r : List Char) : Option (Option Int × List Char) :=
    match digits r with
    | ([], _) => none
    | (ds, rest) =>
      let n : Int := Int.ofNat (ds.foldl (fun n d => n * 10 + d) 0)
      some (some (if isNegative then -n else n), rest)
  match s with
  | [] => some (none, [])
  | c :: r =>
    if c == 'e' || c == 'E' then
      match r with
      | '-' :: r => value true r
      | '+' :: r => value false r
      | r => value false r
    else some (none, c :: r)

/-- The number with the given digits, unless it is out of reach. -/
def numberOf? (isNegative : Bool) (whole fraction : List Nat) (exponent : Option Int) :
    Option JsonNumber :=
  let (significand, counted) := absorb 0 whole
  let isInteger := fraction.isEmpty && exponent.isNone && counted.isEmpty
  if isInteger && !isNegative then some (.natural significand)
  else if isInteger && decide (0 < significand) && decide (significand ≤ Nat.pow 2 63) then
    some (.negative significand)
  else
    let (significand, unused) := absorb significand fraction
    let used := fraction.length - unused.length
    let scale : Int := Int.ofNat counted.length - Int.ofNat used + exponent.getD 0
    (Binary64.ofDecimal? significand scale).map (.floating isNegative)

def number? (s : List Char) : Option (JsonNumber × List Char) := do
  let (isNegative, s) :=
    match s with
    | '-' :: r => (true, r)
    | s => (false, s)
  let (whole, s) ← integerDigits? s
  let (fraction, s) ← fractionDigits? s
  let (exponent, s) ← exponent? s
  let n ← numberOf? isNegative whole fraction exponent
  return (n, s)

end CameraRelay.Json
