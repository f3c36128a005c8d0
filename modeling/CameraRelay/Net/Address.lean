/-!
# Socket addresses

An address of version 4 or 6 with a port. Version 4 has four numbers without leading zeros; version
6 eight groups of up to four hexadecimal digits, of which one run of zeros may be left out, the last
two groups possibly written as a version 4 address. `text` is the one canonical form of an address.
-/

namespace CameraRelay.Net

inductive Host where
  | v4 (a b c d : Nat)
  /-- Eight groups of 16 bits. -/
  | v6 (groups : List Nat)
deriving DecidableEq

/-- A host with a port. Version 6 may name a scope; 0 is none. -/
structure Address where
  host : Host
  scope : Nat := 0
  port : Nat
deriving DecidableEq

def digit? (base : Nat) (c : Char) : Option Nat :=
  let n := c.toNat
  let value :=
    if 48 ≤ n && n ≤ 57 then n - 48
    else if 65 ≤ n && n ≤ 90 then n - 55
    else if 97 ≤ n && n ≤ 122 then n - 87
    else 36
  if value < base then some value else none

def digits (base : Nat) : List Char → List Nat × List Char
  | [] => ([], [])
  | c :: r =>
    match digit? base c with
    | some d =>
      let (ds, rest) := digits base r
      (d :: ds, rest)
    | none => ([], c :: r)

def valueOf (base : Nat) (ds : List Nat) : Nat := ds.foldl (fun n d => n * base + d) 0

/-- A number below `limit` in decimal, leading zeros allowed. -/
def decimal? (limit : Nat) (s : List Char) : Option (Nat × List Char) :=
  let (ds, rest) := digits 10 s
  if ds.isEmpty || limit ≤ valueOf 10 ds then none else some (valueOf 10 ds, rest)

/-- A number below 256 in at most three digits without leading zeros. -/
def octet? (s : List Char) : Option (Nat × List Char) :=
  match digits 10 s with
  | ([], _) => none
  | (0 :: _ :: _, _) => none
  | (ds, rest) =>
    if 3 < ds.length || 256 ≤ valueOf 10 ds then none else some (valueOf 10 ds, rest)

def group? (s : List Char) : Option (Nat × List Char) :=
  let (ds, rest) := digits 16 s
  if ds.isEmpty || 4 < ds.length then none else some (valueOf 16 ds, rest)

def after? (c : Char) : List Char → Option (List Char)
  | [] => none
  | d :: rest => if d = c then some rest else none

/-- A version 4 address in front: its four numbers, and the rest. -/
def v4? (s : List Char) : Option ((Nat × Nat × Nat × Nat) × List Char) := do
  let (a, s) ← octet? s
  let (b, s) ← octet? (← after? '.' s)
  let (c, s) ← octet? (← after? '.' s)
  let (d, s) ← octet? (← after? '.' s)
  some ((a, b, c, d), s)

/-- At most `limit` groups in front with a colon between them, the number of those already read
being `index`; a version 4 address may stand for the last two. The flag tells whether it did. -/
def groups (index : Nat) : Nat → List Char → List Nat × Bool × List Char
  | 0, s => ([], false, s)
  | limit + 1, s =>
    let behindColon := if index = 0 then some s else after? ':' s
    match behindColon with
    | none => ([], false, s)
    | some t =>
      match (if limit = 0 then none else v4? t) with
      | some ((a, b, c, d), rest) => ([a * 256 + b, c * 256 + d], true, rest)
      | none =>
        match group? t with
        | none => ([], false, s)
        | some (g, rest) =>
          let (gs, endsInV4, rest) := groups (index + 1) limit rest
          (g :: gs, endsInV4, rest)

/-- A version 6 address in front: its groups, and the rest. -/
def v6? (s : List Char) : Option (List Nat × List Char) :=
  let (head, headEndsInV4, s) := groups 0 8 s
  if head.length = 8 then some (head, s)
  else if headEndsInV4 then none
  else do
    let s ← after? ':' s
    let s ← after? ':' s
    let (tail, _, s) := groups 0 (7 - head.length) s
    some (head ++ List.replicate (8 - head.length - tail.length) 0 ++ tail, s)

/-- A host address and nothing else. -/
def Host.parse? (s : List Char) : Option Host :=
  match v4? s with
  | some ((a, b, c, d), []) => some (.v4 a b c d)
  | _ =>
    match v6? s with
    | some (gs, []) => some (.v6 gs)
    | _ => none

def port? (s : List Char) : Option (Nat × List Char) := do decimal? 65536 (← after? ':' s)

/-- A version 4 address with a port and nothing else. -/
def parseV4? (s : List Char) : Option Address :=
  match v4? s with
  | some ((a, b, c, d), s) =>
    match port? s with
    | some (port, []) => some { host := .v4 a b c d, port }
    | _ => none
  | none => none

/-- A version 6 address in brackets, possibly with a scope, with a port and nothing else. -/
def parseV6? (s : List Char) : Option Address := do
  let (gs, s) ← v6? (← after? '[' s)
  let (scope, s) :=
    match (after? '%' s).bind (decimal? (Nat.pow 2 32)) with
    | some (scope, rest) => (scope, rest)
    | none => (0, s)
  match port? (← after? ']' s) with
  | some (port, []) => some { host := .v6 gs, scope, port }
  | _ => none

/-- A host with a port and nothing else. -/
def Address.parse? (s : List Char) : Option Address := (parseV4? s).or (parseV6? s)

def v4Text (a b c d : Nat) : List Char :=
  Nat.toDigits 10 a ++ '.' :: Nat.toDigits 10 b ++ '.' :: Nat.toDigits 10 c ++ '.' ::
    Nat.toDigits 10 d

def groupsText : List Nat → List Char
  | [] => []
  | [g] => Nat.toDigits 16 g
  | g :: gs => Nat.toDigits 16 g ++ ':' :: groupsText gs

def zerosInFront (gs : List Nat) : Nat := (gs.takeWhile (· == 0)).length

/-- Start and length of the first longest run of zeros in groups that begin at `start`. -/
def longestZeros (start : Nat) : List Nat → Nat × Nat
  | [] => (start, 0)
  | g :: gs =>
    let here := zerosInFront (g :: gs)
    let later := longestZeros (start + 1) gs
    if later.2 ≤ here then (start, here) else later

/-- The canonical text of groups: the first longest run of at least two zeros is left out, and a
version 4 address in disguise is shown as one. -/
def v6Text (gs : List Nat) : List Char :=
  match gs with
  | [0, 0, 0, 0, 0, 0xffff, x, y] =>
    "::ffff:".toList ++ v4Text (x / 256) (x % 256) (y / 256) (y % 256)
  | gs =>
    let (start, length) := longestZeros 0 gs
    if 1 < length then
      groupsText (gs.take start) ++ "::".toList ++ groupsText (gs.drop (start + length))
    else groupsText gs

def Address.text (address : Address) : List Char :=
  let port := ':' :: Nat.toDigits 10 address.port
  match address.host with
  | .v4 a b c d => v4Text a b c d ++ port
  | .v6 gs =>
    let scope := if address.scope = 0 then [] else '%' :: Nat.toDigits 10 address.scope
    '[' :: v6Text gs ++ scope ++ ']' :: port

end CameraRelay.Net
