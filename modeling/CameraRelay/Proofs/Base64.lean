import CameraRelay.Base64
import Mathlib.Data.List.Basic

/-!
# Base64 there and back

Bytes that are encoded are decoded again, whatever their number leaves to be padded
(`decode_encode`).
-/

namespace CameraRelay.Base64

theorem value?_letter : ∀ value < 64, value? (letter value) = some value := by
  decide +kernel

theorem letter_ne_pad : ∀ value < 64, letter value ≠ '=' := by
  decide +kernel

theorem ofNat_eq {n : Nat} {byte : UInt8} (low : n % 256 = byte.toNat) : UInt8.ofNat n = byte := by
  apply UInt8.toNat_inj.mp
  simpa using low

section

variable {i j k l : Nat} (first : i < 64) (second : j < 64) (third : k < 64) (fourth : l < 64)

include first second

theorem decode_two :
    decode [letter i, letter j, '=', '='] =
      if (i * 64 + j) % 16 = 0 then some [UInt8.ofNat ((i * 64 + j) / 16)] else none := by
  simp only [decode, value?_letter i first, value?_letter j second, Option.bind_eq_bind,
    Option.bind_some]

include third

theorem decode_three :
    decode [letter i, letter j, letter k, '='] =
      if ((i * 64 + j) * 64 + k) % 4 = 0 then
        some [UInt8.ofNat (((i * 64 + j) * 64 + k) / 1024),
          UInt8.ofNat (((i * 64 + j) * 64 + k) / 4)]
      else none := by
  rw [decode]
  · simp only [value?_letter i first, value?_letter j second, value?_letter k third,
      Option.bind_eq_bind, Option.bind_some]
  · exact letter_ne_pad k third

include fourth

theorem decode_four (rest : List Char) :
    decode (letter i :: letter j :: letter k :: letter l :: rest) =
      (decode rest).map fun bytes =>
        UInt8.ofNat ((((i * 64 + j) * 64 + k) * 64 + l) / 65536) ::
        UInt8.ofNat ((((i * 64 + j) * 64 + k) * 64 + l) / 256) ::
        UInt8.ofNat (((i * 64 + j) * 64 + k) * 64 + l) :: bytes := by
  have shown := letter_ne_pad l fourth
  rw [decode]
  · simp only [value?_letter i first, value?_letter j second, value?_letter k third,
      value?_letter l fourth, Option.bind_eq_bind, Option.bind_some]
    cases decode rest <;> rfl
  · exact fun _ pad _ => shown pad
  · exact fun pad _ => shown pad

end

theorem decode_encode (bytes : Bytes) : decode (encode bytes) = some bytes := by
  induction bytes using encode.induct with
  | case1 => rfl
  | case2 a =>
    have boundA := a.toNat_lt
    rw [encode, decode_two (by omega) (by omega), if_pos (by omega),
      ofNat_eq (by omega : _ = a.toNat)]
  | case3 a b =>
    have boundA := a.toNat_lt
    have boundB := b.toNat_lt
    rw [encode, decode_three (by omega) (by omega) (by omega), if_pos (by omega),
      ofNat_eq (by omega : _ = a.toNat), ofNat_eq (by omega : _ = b.toNat)]
  | case4 a b c rest ih =>
    have boundA := a.toNat_lt
    have boundB := b.toNat_lt
    have boundC := c.toNat_lt
    rw [encode, decode_four (by omega) (by omega) (by omega) (by omega), ih, Option.map_some,
      ofNat_eq (by omega : _ = a.toNat), ofNat_eq (by omega : _ = b.toNat),
      ofNat_eq (by omega : _ = c.toNat)]

end CameraRelay.Base64
