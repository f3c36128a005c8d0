import CameraRelay.Number.Binary64

/-!
# JSON values

A number keeps the kind that its text gives it: a natural below 2^64, a negative integer down to
-2^63, or a binary fraction. An object keeps its members as written, repeats included.
-/

namespace CameraRelay

inductive JsonNumber where
  | natural (n : Nat)
  | negative (n : Nat)
  | floating (isNegative : Bool) (magnitude : Binary64)
deriving DecidableEq

inductive Json where
  | null
  | bool (b : Bool)
  | number (n : JsonNumber)
  | string (s : List Char)
  | array (items : List Json)
  | object (members : List (List Char × Json))

end CameraRelay
