/-!
# Binary fractions of 53 bits

The finite non-negative numbers of the 64-bit binary format, exactly: a mantissa below 2^53 times a
power of two not below 2^-1074. `ofRatio?` rounds a quotient to the nearest of them, ties to the
even mantissa, and fails where the result is beyond the largest.
-/

namespace CameraRelay

/-- The number `mantissa * 2 ^ exponent`. -/
structure Binary64 where
  mantissa : Nat
  exponent : Int
deriving DecidableEq

namespace Binary64

/-- The number 0. -/
def zero : Binary64 := ⟨0, 0⟩

/-- Whether the number is 0. -/
def isZero (x : Binary64) : Bool := x.mantissa == 0

def roundDiv (num den : Nat) : Nat :=
  let q := num / den
  let r := num % den
  if 2 * r < den then q
  else if den < 2 * r then q + 1
  else q + q % 2

/-- `num / den / 2 ^ e` as a quotient of naturals. -/
def shifted (num den : Nat) (e : Int) : Nat × Nat :=
  match e with
  | .ofNat k => (num, den * Nat.pow 2 k)
  | .negSucc k => (num * Nat.pow 2 (k + 1), den)

/-- The exponent for which the scaled quotient has 53 binary digits, but at least -1074. -/
def scaleFor (num den : Nat) : Int :=
  let e : Int := Int.ofNat (Nat.log2 num) - Int.ofNat (Nat.log2 den) - 52
  let (a, b) := shifted num den e
  let e := if a / b < Nat.pow 2 52 then e - 1 else e
  if e < -1074 then -1074 else e

/-- The nearest number to `num / den`, or none beyond the largest. -/
def ofRatio? (num den : Nat) : Option Binary64 :=
  if num = 0 then some zero
  else
    let e := scaleFor num den
    let (a, b) := shifted num den e
    let m := roundDiv a b
    let (m, e) := if m = Nat.pow 2 53 then (Nat.pow 2 52, e + 1) else (m, e)
    if m = 0 then some zero
    else if 971 < e then none
    else some ⟨m, e⟩

def ratio (x : Binary64) : Nat × Nat :=
  match x.exponent with
  | .ofNat k => (x.mantissa * Nat.pow 2 k, 1)
  | .negSucc k => (x.mantissa, Nat.pow 2 (k + 1))

/-- The nearest number to a natural; naturals below 2^64 are always in reach. -/
def ofNat (n : Nat) : Binary64 := (ofRatio? n 1).getD zero

def mul? (x y : Binary64) : Option Binary64 :=
  ofRatio? (x.ratio.1 * y.ratio.1) (x.ratio.2 * y.ratio.2)

/-- The rounded quotient by a number that is not 0. -/
def div? (x y : Binary64) : Option Binary64 :=
  ofRatio? (x.ratio.1 * y.ratio.2) (x.ratio.2 * y.ratio.1)

/-- The rounded power of ten, for exponents up to 308. -/
def powerOfTen (k : Nat) : Binary64 := ofNat (Nat.pow 10 k)

/-- Divides by `10 ^ k`, in steps of `10 ^ 308`. From a number below 2^64 two steps lead to 0. -/
def scaleDown (x : Binary64) (k : Nat) : Nat → Binary64
  | 0 => zero
  | fuel + 1 =>
    if k ≤ 308 then (x.div? (powerOfTen k)).getD zero
    else if x.isZero then zero
    else scaleDown ((x.div? (powerOfTen 308)).getD zero) (k - 308) fuel

/-- The number read from a significand below 2^64 and a power of ten: the rounded significand is
multiplied or divided by rounded powers of ten. None is beyond the largest number. -/
def ofDecimal? (significand : Nat) (exponent : Int) : Option Binary64 :=
  let x := ofNat significand
  match exponent with
  | .ofNat k =>
    if x.isZero then some zero
    else if k ≤ 308 then x.mul? (powerOfTen k)
    else none
  | .negSucc k => some (x.scaleDown (k + 1) 3)

/-- The number in the 64-bit format: eleven bits of exponent over the mantissa's lower 52. -/
def bits (x : Binary64) : Nat :=
  if x.mantissa < Nat.pow 2 52 then x.mantissa
  else (x.exponent + 1075).toNat * Nat.pow 2 52 + (x.mantissa - Nat.pow 2 52)

end Binary64

end CameraRelay
