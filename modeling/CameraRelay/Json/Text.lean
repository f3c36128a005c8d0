/-!
# JSON strings

`quote` writes a string with as few escapes as the format allows: the quote, the backslash and the
control characters below U+0020. `unquote?` reads every spelling of a string.
-/

namespace CameraRelay.Json

/-- The digit of a value below 16, in lower case. -/
def hexDigit (value : Nat) : Char := Nat.digitChar value

/-- The value of a hexadecimal digit in either case. -/
def hexValue? (c : Char) : Option Nat :=
  let n := c.toNat
  if 48 ≤ n && n ≤ 57 then some (n - 48)
  else if 65 ≤ n && n ≤ 70 then some (n - 55)
  else if 97 ≤ n && n ≤ 102 then some (n - 87)
  else none

def escape (c : Char) : List Char :=
  if c = '"' then ['\\', '"']
  else if c = '\\' then ['\\', '\\']
  else if c.toNat = 8 then ['\\', 'b']
  else if c.toNat = 9 then ['\\', 't']
  else if c.toNat = 10 then ['\\', 'n']
  else if c.toNat = 12 then ['\\', 'f']
  else if c.toNat = 13 then ['\\', 'r']
  else if c.toNat < 32 then
    ['\\', 'u', '0', '0', hexDigit (c.toNat / 16), hexDigit (c.toNat % 16)]
  else [c]

def quote (s : List Char) : List Char := '"' :: s.flatMap escape ++ ['"']

def unit16? : List Char → Option (Nat × List Char)
  | a :: b :: c :: d :: rest => do
    let high := (← hexValue? a) * 16 + (← hexValue? b)
    let low := (← hexValue? c) * 16 + (← hexValue? d)
    some (high * 256 + low, rest)
  | _ => none

/-- The character behind `\u`: one unit outside the surrogates, or a high surrogate and, in an
escape of its own, a low one. -/
def unicodeEscape? (s : List Char) : Option (Char × List Char) := do
  let (high, rest) ← unit16? s
  if high < 0xd800 || 0xdfff < high then some (Char.ofNat high, rest)
  else if 0xdc00 ≤ high then none
  else
    match rest with
    | '\\' :: 'u' :: rest =>
      let (low, rest) ← unit16? rest
      if 0xdc00 ≤ low && low ≤ 0xdfff then
        some (Char.ofNat (0x10000 + (high - 0xd800) * 0x400 + (low - 0xdc00)), rest)
      else none
    | _ => none

def escaped? : List Char → Option (Char × List Char)
  | '"' :: rest => some ('"', rest)
  | '\\' :: rest => some ('\\', rest)
  | '/' :: rest => some ('/', rest)
  | 'b' :: rest => some (Char.ofNat 8, rest)
  | 'f' :: rest => some (Char.ofNat 12, rest)
  | 'n' :: rest => some ('\n', rest)
  | 'r' :: rest => some ('\r', rest)
  | 't' :: rest => some ('\t', rest)
  | 'u' :: rest => unicodeEscape? rest
  | _ => none

/-- The characters up to the closing quote, and what follows it. Each takes at least one character
of the text, so the length of the text is enough fuel. -/
def characters? : Nat → List Char → Option (List Char × List Char)
  | 0, _ => none
  | _, [] => none
  | fuel + 1, c :: rest =>
    if c = '"' then some ([], rest)
    else if c = '\\' then do
      let (c, rest) ← escaped? rest
      let (s, rest) ← characters? fuel rest
      some (c :: s, rest)
    else if c.toNat < 32 then none
    else do
      let (s, rest) ← characters? fuel rest
      some (c :: s, rest)

/-- The string whose opening quote has been read, and what follows it. -/
def unquote? (s : List Char) : Option (List Char × List Char) := characters? s.length s

end CameraRelay.Json
