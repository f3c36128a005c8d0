import CameraRelay.Number.Binary64

/-!
# Shortest decimal text

Of the decimals that round to a given binary number, the text shows one with the fewest digits, and
of those the nearest; of two that are equally near, the one with an even last digit. The text is
positional, with a decimal point, where the first digit stands for 10^-5 to 10^15, and has an
exponent with a sign elsewhere.
-/

namespace CameraRelay.Binary64

/-- The bounds of what rounds to `x`, in quarters of a unit of its mantissa: below a power of two
the neighbour is half as far away. -/
def bounds (x : Binary64) : Nat × Nat :=
  let low := if x.mantissa = Nat.pow 2 52 && decide (-1074 < x.exponent) then 1 else 2
  (4 * x.mantissa - low, 4 * x.mantissa + 2)

/-- Whether `c / 10 ^ places` rounds to `x`; the bounds themselves do so if the mantissa is even. -/
def admits (x : Binary64) (c : Nat) (places : Int) : Bool :=
  let (low, high) := x.bounds
  let (unitNum, unitDen) : Nat × Nat := Binary64.ratio ⟨1, x.exponent⟩
  let (gridNum, gridDen) : Nat × Nat :=
    match places with
    | .ofNat k => (1, Nat.pow 10 k)
    | .negSucc k => (Nat.pow 10 (k + 1), 1)
  let here := 4 * c * gridNum * unitDen
  let lowest := low * unitNum * gridDen
  let highest := high * unitNum * gridDen
  if x.mantissa % 2 = 0 then lowest ≤ here && here ≤ highest
  else lowest < here && here < highest

/-- `x * 10 ^ places` as a quotient of naturals. -/
def scaled (x : Binary64) (places : Int) : Nat × Nat :=
  let (num, den) := x.ratio
  match places with
  | .ofNat k => (num * Nat.pow 10 k, den)
  | .negSucc k => (num, den * Nat.pow 10 (k + 1))

/-- The decimal on the grid of `places` places that stands for `x`, if one does. -/
def onGrid? (x : Binary64) (places : Int) : Option Nat :=
  let (num, den) := x.scaled places
  let below := num / den
  let nearer := roundDiv num den
  let farther := if nearer = below then below + 1 else below
  if x.admits nearer places then some nearer
  else if x.admits farther places then some farther
  else none

/-- The first of `count` grids from `places` on that holds a decimal for `x`. -/
def searchGrids (x : Binary64) (places : Int) : Nat → Nat × Int
  | 0 => (0, 0)
  | count + 1 =>
    match x.onGrid? places with
    | some c => (c, places)
    | none => searchGrids x (places + 1) count

/-- The fewest places with which `x` has one digit: found from above, since no number exceeds
10^309. -/
def firstPlaces (x : Binary64) : Nat → Int → Int
  | 0, places => places
  | fuel + 1, places =>
    let (num, den) := x.scaled places
    if den ≤ num then places else firstPlaces x fuel (places + 1)

/-- A decimal with the fewest digits that rounds to `x`: its digits as a number, and its places. The
search begins one place early, where a number such as 9.99 may round up to 10. -/
def shortest (x : Binary64) : Nat × Int :=
  if x.isZero then (0, 0) else x.searchGrids (x.firstPlaces 640 (-310) - 1) 19

/-- The positional text of `c / 10 ^ places`. -/
def positional (c : Nat) (places : Int) : List Char :=
  match places with
  | .ofNat 0 => Nat.toDigits 10 c ++ ".0".toList
  | .ofNat (k + 1) =>
    let whole := c / Nat.pow 10 (k + 1)
    let part := Nat.toDigits 10 (c % Nat.pow 10 (k + 1))
    Nat.toDigits 10 whole ++ ['.'] ++ List.replicate (k + 1 - part.length) '0' ++ part
  | .negSucc k => Nat.toDigits 10 c ++ List.replicate (k + 1) '0' ++ ".0".toList

/-- The text of decimal digits with an exponent: one digit before the point, which stands only
before further digits. -/
def scientific (digits : List Char) (exponent : Int) : List Char :=
  let sign := if exponent < 0 then '-' else '+'
  let significand :=
    match digits with
    | first :: second :: rest => first :: '.' :: second :: rest
    | short => short
  significand ++ 'e' :: sign :: Nat.toDigits 10 exponent.natAbs

/-- The least and the greatest power of ten for which the first digit of a positional text may
stand. -/
def positionalExponents : Int × Int := (-5, 15)

def text (x : Binary64) : List Char :=
  let (c, places) := x.shortest
  let digits := Nat.toDigits 10 c
  let exponent := Int.ofNat digits.length - 1 - places
  if positionalExponents.1 ≤ exponent && exponent ≤ positionalExponents.2 then positional c places
  else scientific digits exponent

end CameraRelay.Binary64
