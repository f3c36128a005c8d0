/-!
# Searching and replacing in text

Text is taken as a list of characters. Every search is for the first or the last place where a
pattern stands, read from the left.
-/

namespace CameraRelay.Text

/-- What stands before and after the first place where `pattern` occurs. -/
def splitFirst? (pattern : List Char) : List Char → Option (List Char × List Char)
  | [] => if pattern.isEmpty then some ([], []) else none
  | c :: r =>
    match pattern.isPrefixOf? (c :: r) with
    | some after => some ([], after)
    | none => (splitFirst? pattern r).map fun (before, after) => (c :: before, after)

def splitLast? (mark : Char) : List Char → Option (List Char × List Char)
  | [] => none
  | c :: r =>
    match splitLast? mark r with
    | some (before, after) => some (c :: before, after)
    | none => if c = mark then some ([], r) else none

def occurs (pattern text : List Char) : Bool := (splitFirst? pattern text).isSome

/-- Walks the text with `skip` characters of an occurrence still to be passed over. -/
def replaceFrom (pattern new : List Char) : Nat → List Char → List Char
  | _, [] => []
  | skip + 1, _ :: r => replaceFrom pattern new skip r
  | 0, c :: r =>
    if pattern.isPrefixOf (c :: r) then new ++ replaceFrom pattern new (pattern.length - 1) r
    else c :: replaceFrom pattern new 0 r

/-- Every occurrence of a non-empty `pattern`, taken from the left without overlap, becomes `new`;
what was put in is not searched again. -/
def replaceAll (pattern new text : List Char) : List Char := replaceFrom pattern new 0 text

end CameraRelay.Text
