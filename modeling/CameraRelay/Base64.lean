import CameraRelay.Event

/-!
# Base64

Three bytes are four letters of a 64-letter alphabet; the last group is padded with `=` to four.
`decode` accepts exactly the padded texts whose unused bits are zero.
-/

namespace CameraRelay.Base64

def alphabet : List Char :=
  "ABCDEFGHIJKLMNOPQRSTUVWXYZabcdefghijklmnopqrstuvwxyz0123456789+/".toList

/-- The letter of a value below 64. -/
def letter (value : Nat) : Char := alphabet.getD value '='

def value? (letter : Char) : Option Nat := alphabet.findIdx? (· == letter)

def encode : Bytes → List Char
  | [] => []
  | [a] =>
    let n := a.toNat * 16
    [letter (n / 64), letter (n % 64), '=', '=']
  | [a, b] =>
    let n := (a.toNat * 256 + b.toNat) * 4
    [letter (n / 4096), letter (n / 64 % 64), letter (n % 64), '=']
  | a :: b :: c :: rest =>
    let n := (a.toNat * 256 + b.toNat) * 256 + c.toNat
    letter (n / 262144) :: letter (n / 4096 % 64) :: letter (n / 64 % 64) :: letter (n % 64) ::
      encode rest

def decode : List Char → Option Bytes
  | [] => some []
  | [w, x, '=', '='] => do
    let n := (← value? w) * 64 + (← value? x)
    if n % 16 = 0 then some [UInt8.ofNat (n / 16)] else none
  | [w, x, y, '='] => do
    let n := ((← value? w) * 64 + (← value? x)) * 64 + (← value? y)
    if n % 4 = 0 then some [UInt8.ofNat (n / 1024), UInt8.ofNat (n / 4)] else none
  | w :: x :: y :: z :: rest => do
    let n := (((← value? w) * 64 + (← value? x)) * 64 + (← value? y)) * 64 + (← value? z)
    let bytes ← decode rest
    some (UInt8.ofNat (n / 65536) :: UInt8.ofNat (n / 256) :: UInt8.ofNat n :: bytes)
  | _ => none

end CameraRelay.Base64
