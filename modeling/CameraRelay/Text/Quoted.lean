import CameraRelay.Text.Shown

/-!
# Quoted text

Text in quotes for people to read: what cannot be seen is written by its code point, `\u{..}` in
lower-case hexadecimal.
-/

namespace CameraRelay.Text

def quotedChar (c : Char) : List Char :=
  if c = '"' then ['\\', '"']
  else if c = '\\' then ['\\', '\\']
  else if c = '\t' then ['\\', 't']
  else if c = '\n' then ['\\', 'n']
  else if c = '\r' then ['\\', 'r']
  else if c.toNat = 0 then ['\\', '0']
  else if isShown c then [c]
  else ['\\', 'u', '{'] ++ Nat.toDigits 16 c.toNat ++ ['}']

def quoted (s : List Char) : List Char := '"' :: s.flatMap quotedChar ++ ['"']

end CameraRelay.Text
