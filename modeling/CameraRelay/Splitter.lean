import CameraRelay.Event

/-!
# Cutting a decoder's output into frames

A decoder writes an endless run of bytes; the splitter cuts it into units. By size, everything held
becomes one unit as soon as it is more than a threshold, whatever it holds. By image, a unit ends
with each end-of-image marker and begins with the first start-of-image marker before it.

What was searched for an end marker is not searched again: the splitter keeps count of it, and goes
on one byte earlier, where a marker may begin that the next chunk completes.
-/

namespace CameraRelay

inductive Framing where
  | bySize
  | byImage
deriving DecidableEq

namespace Image

def startMarker : Bytes := [0xff, 0xd8]

def endMarker : Bytes := [0xff, 0xd9]

/-- The first place where a marker stands; `place` is the place of the first byte. -/
def find? (marker : Bytes) (place : Nat) : Bytes → Option Nat
  | [] => none
  | byte :: rest =>
    if marker.isPrefixOf (byte :: rest) then some place else find? marker (place + 1) rest

theorem length_pos_of_find? {marker bytes : Bytes} {place found : Nat}
    (h : find? marker place bytes = some found) : 0 < bytes.length := by
  cases bytes with
  | nil => cases h
  | cons byte rest => exact Nat.zero_lt_succ _

/-- The image in a piece: what stands before its first start marker does not belong to it. -/
def ofPiece? (piece : Bytes) : Option Bytes :=
  (find? startMarker 0 piece).map piece.drop

end Image

structure Splitter where
  framing : Framing
  /-- At least 1. -/
  threshold : Nat
  /-- What is held, in order. -/
  held : Bytes := []
  /-- How much of what is held was searched for an end marker. -/
  scanned : Nat := 0
deriving DecidableEq

namespace Splitter

/-- An empty splitter. A threshold of 0 counts as 1. -/
def new (framing : Framing) (threshold : Nat) : Splitter :=
  { framing, threshold := max threshold 1 }

/-- How much is held. -/
def pending (splitter : Splitter) : Nat := splitter.held.length

/-- Cuts what is held behind each end marker; what is left, and the images of the pieces in order.
The first `scanned` bytes hold no end marker. -/
def cutImages (held : Bytes) (scanned : Nat) : Bytes × List Bytes :=
  match _ : Image.find? Image.endMarker (scanned - 1) (held.drop (scanned - 1)) with
  | none => (held, [])
  | some place =>
    let (rest, images) := cutImages (held.drop (place + 2)) 0
    match Image.ofPiece? (held.take (place + 2)) with
    | some image => (rest, image :: images)
    | none => (rest, images)
termination_by held.length
decreasing_by
  next found =>
    have nonempty := Image.length_pos_of_find? found
    simp only [List.length_drop] at nonempty ⊢
    omega

/-- Takes in a chunk; the units that it completes come out in order. -/
def push (splitter : Splitter) (chunk : Bytes) : Splitter × List Bytes :=
  let held := splitter.held ++ chunk
  match splitter.framing with
  | .bySize =>
    if splitter.threshold < held.length then ({ splitter with held := [] }, [held])
    else ({ splitter with held }, [])
  | .byImage =>
    let (rest, images) := cutImages held splitter.scanned
    ({ splitter with held := rest, scanned := rest.length }, images)

/-- Drops what is held; tells how much that was. -/
def reset (splitter : Splitter) : Splitter × Nat :=
  ({ splitter with held := [], scanned := 0 }, splitter.held.length)

end Splitter

end CameraRelay
