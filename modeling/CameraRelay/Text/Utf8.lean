import CameraRelay.Event

/-!
# Text from bytes

`decodeLossy` reads UTF-8. Where the bytes are no character, the longest run of them that could
still have become one, or else a single byte, is read as U+FFFD.
-/

namespace CameraRelay.Text

structure PartialChar where
  missing : Nat
  /-- The least and the greatest that the next byte may be. -/
  low : Nat
  high : Nat
  bits : Nat

/-- What a first byte begins. -/
inductive Lead where
  | whole (c : Char)
  | begins (start : PartialChar)
  | invalid

def replacement : Char := Char.ofNat 0xfffd

/-- What a first byte begins: the next byte is limited where the character would otherwise have a
shorter form, be a surrogate or lie beyond U+10FFFF. -/
def leadOf (byte : Nat) : Lead :=
  if byte < 0x80 then .whole (Char.ofNat byte)
  else if byte < 0xc2 then .invalid
  else if byte < 0xe0 then .begins ⟨1, 0x80, 0xbf, byte - 0xc0⟩
  else if byte = 0xe0 then .begins ⟨2, 0xa0, 0xbf, 0⟩
  else if byte = 0xed then .begins ⟨2, 0x80, 0x9f, 13⟩
  else if byte < 0xf0 then .begins ⟨2, 0x80, 0xbf, byte - 0xe0⟩
  else if byte = 0xf0 then .begins ⟨3, 0x90, 0xbf, 0⟩
  else if byte < 0xf4 then .begins ⟨3, 0x80, 0xbf, byte - 0xf0⟩
  else if byte = 0xf4 then .begins ⟨3, 0x80, 0x8f, 4⟩
  else .invalid

/-- Reads a first byte: the characters it completes, and the one it begins. -/
def readLead (byte : Nat) : List Char × Option PartialChar :=
  match leadOf byte with
  | .whole c => ([c], none)
  | .begins start => ([], some start)
  | .invalid => ([replacement], none)

/-- Reads a byte, given the character that was begun before it. -/
def readByte (begun : Option PartialChar) (byte : Nat) : List Char × Option PartialChar :=
  match begun with
  | none => readLead byte
  | some p =>
    if p.low ≤ byte && byte ≤ p.high then
      let bits := p.bits * 64 + (byte - 0x80)
      if p.missing ≤ 1 then ([Char.ofNat bits], none)
      else ([], some ⟨p.missing - 1, 0x80, 0xbf, bits⟩)
    else
      let (cs, begun) := readLead byte
      (replacement :: cs, begun)

/-- Reads bytes, given the character that was begun before them. -/
def decodeFrom (begun : Option PartialChar) : Bytes → List Char
  | [] => if begun.isSome then [replacement] else []
  | byte :: rest =>
    let (cs, begun) := readByte begun byte.toNat
    cs ++ decodeFrom begun rest

def decodeLossy (bytes : Bytes) : List Char := decodeFrom none bytes

end CameraRelay.Text
