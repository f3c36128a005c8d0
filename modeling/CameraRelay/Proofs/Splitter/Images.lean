import CameraRelay.Splitter

/-!
# Images cut from a stream

However a stream is divided into chunks, a splitter by image returns the same images: the stream cut
behind each end marker, and of each piece what begins with its first start marker. The search goes
on where it stopped, so the proof carries that what was searched holds no end marker.
Main statement: `images_of_chunks`.
-/

namespace CameraRelay

namespace Image

/-! ### The reference -/

/-- Cuts a stream behind each of its end markers, `piece` being what came before it: the pieces, and
what follows the last marker. -/
def cutFrom (piece : Bytes) : Bytes → List Bytes × Bytes
  | [] => ([], piece)
  | byte :: rest =>
    if endMarker <:+ piece ++ [byte] then
      ((piece ++ [byte]) :: (cutFrom [] rest).1, (cutFrom [] rest).2)
    else cutFrom (piece ++ [byte]) rest

def cut (stream : Bytes) : List Bytes × Bytes := cutFrom [] stream

/-- What begins with the first start marker. -/
def fromStart? : Bytes → Option Bytes
  | [] => none
  | byte :: rest => if startMarker <+: byte :: rest then some (byte :: rest) else fromStart? rest

/-- An end marker stands at the end, and nowhere before. -/
structure EndsOnce (bytes : Bytes) : Prop where
  ends : endMarker <:+ bytes
  once : ¬ endMarker <:+: bytes.dropLast

def enclose (body : Bytes) : Bytes := startMarker ++ body ++ endMarker

/-! ### Cutting -/

theorem cutFrom_of_clear {piece bytes : Bytes} (clear : ¬ endMarker <:+: piece ++ bytes) :
    cutFrom piece bytes = ([], piece ++ bytes) := by
  induction bytes generalizing piece with
  | nil => simp [cutFrom]
  | cons byte rest ih =>
    have split : piece ++ byte :: rest = (piece ++ [byte]) ++ rest := by simp
    rw [split] at clear ⊢
    have goesOn : ¬ endMarker <:+ piece ++ [byte] := fun ends =>
      clear (ends.isInfix.trans (List.prefix_append _ rest).isInfix)
    rw [cutFrom, if_neg goesOn, ih clear]

theorem cutFrom_of_endsOnce {piece bytes : Bytes} (whole : EndsOnce (piece ++ bytes))
    (some : bytes ≠ []) (rest : Bytes) :
    cutFrom piece (bytes ++ rest) =
      ((piece ++ bytes) :: (cutFrom [] rest).1, (cutFrom [] rest).2) := by
  induction bytes generalizing piece with
  | nil => exact absurd rfl some
  | cons byte more ih =>
    have split : piece ++ byte :: more = (piece ++ [byte]) ++ more := by simp
    rw [split] at whole ⊢
    rw [List.cons_append, cutFrom]
    by_cases last : more = []
    · obtain rfl := last
      have ends : endMarker <:+ piece ++ [byte] := by simpa using whole.ends
      rw [if_pos ends]
      simp
    · have goesOn : ¬ endMarker <:+ piece ++ [byte] := by
        intro ends
        have early : piece ++ [byte] <+: (piece ++ [byte] ++ more).dropLast := by
          rw [List.dropLast_append_of_ne_nil last]
          exact List.prefix_append ..
        exact whole.once (ends.isInfix.trans early.isInfix)
      rw [if_neg goesOn]
      exact ih whole last

/-- Nothing of a stream is lost, each piece ends with its only end marker, and none is left. -/
theorem cutFrom_spec (piece stream : Bytes) (clear : ¬ endMarker <:+: piece) :
    piece ++ stream = (cutFrom piece stream).1.flatten ++ (cutFrom piece stream).2 ∧
      (∀ p ∈ (cutFrom piece stream).1, EndsOnce p) ∧
      ¬ endMarker <:+: (cutFrom piece stream).2 := by
  induction stream generalizing piece with
  | nil => exact ⟨by simp [cutFrom], by simp [cutFrom], clear⟩
  | cons byte rest ih =>
    rw [cutFrom]
    split
    · next ends =>
      obtain ⟨joined, pieces, tail⟩ := ih [] (by simp [endMarker])
      refine ⟨?_, ?_, tail⟩
      · rw [List.flatten_cons, List.append_assoc, ← joined]
        simp
      · intro p mem
        rcases List.mem_cons.mp mem with rfl | later
        · refine ⟨ends, ?_⟩
          rwa [List.dropLast_concat]
        · exact pieces p later
    · next goesOn =>
      have clear' : ¬ endMarker <:+: piece ++ [byte] := by
        rw [List.infix_concat_iff]
        exact fun either => either.elim goesOn clear
      obtain ⟨joined, pieces, tail⟩ := ih (piece ++ [byte]) clear'
      refine ⟨?_, pieces, tail⟩
      rw [← joined]
      simp

theorem cutFrom_append (piece first second : Bytes) :
    cutFrom piece (first ++ second) =
      ((cutFrom piece first).1 ++ (cutFrom (cutFrom piece first).2 second).1,
        (cutFrom (cutFrom piece first).2 second).2) := by
  induction first generalizing piece with
  | nil => rfl
  | cons byte rest ih =>
    rw [List.cons_append, cutFrom, cutFrom]
    split
    · rw [ih]
      rfl
    · exact ih _

/-- A stream may be cut part by part: what one part leaves is cut together with the next. -/
theorem cut_append (first second : Bytes) :
    cut (first ++ second) =
      ((cut first).1 ++ (cut ((cut first).2 ++ second)).1, (cut ((cut first).2 ++ second)).2) := by
  obtain ⟨_, _, clear⟩ := cutFrom_spec [] first (by simp [endMarker])
  have left : cut ((cut first).2 ++ second) = cutFrom (cut first).2 second := by
    have whole : cutFrom [] (cut first).2 = ([], (cut first).2) := cutFrom_of_clear clear
    rw [cut, cutFrom_append, whole]
    rfl
  rw [left]
  exact cutFrom_append [] first second

/-! ### Searching -/

theorem find?_here {marker : Bytes} {byte : UInt8} {rest : Bytes} (place : Nat)
    (here : marker <+: byte :: rest) : find? marker place (byte :: rest) = some place := by
  rw [find?, if_pos (List.isPrefixOf_iff_prefix.mpr here)]

theorem find?_later {marker : Bytes} {byte : UInt8} {rest : Bytes} (place : Nat)
    (away : ¬ marker <+: byte :: rest) :
    find? marker place (byte :: rest) = find? marker (place + 1) rest := by
  rw [find?, if_neg fun here => away (List.isPrefixOf_iff_prefix.mp here)]

/-- A search finds the first place of a marker of two bytes: up to its first byte there is none. -/
theorem find?_eq_some {marker : Bytes} (size : marker.length = 2) {bytes : Bytes}
    {place found : Nat} (h : find? marker place bytes = some found) :
    ∃ skipped, found = place + skipped ∧ marker <+: bytes.drop skipped ∧
      ¬ marker <:+: bytes.take (skipped + 1) := by
  induction bytes generalizing place with
  | nil => cases h
  | cons byte rest ih =>
    by_cases here : marker <+: byte :: rest
    · rw [find?_here place here] at h
      refine ⟨0, (Option.some.inj h).symm, here, fun inside => ?_⟩
      have length := inside.length_le
      simp [size] at length
    · rw [find?_later place here] at h
      obtain ⟨skipped, rfl, there, clear⟩ := ih h
      refine ⟨skipped + 1, by omega, there, fun inside => ?_⟩
      rw [List.take_succ_cons, List.infix_cons_iff] at inside
      rcases inside with first | later
      · exact here (first.trans (List.prefix_cons_inj byte |>.mpr (List.take_prefix ..)))
      · exact clear later

theorem find?_eq_none {marker : Bytes} (size : marker.length = 2) {bytes : Bytes} {place : Nat}
    (h : find? marker place bytes = none) : ¬ marker <:+: bytes := by
  induction bytes generalizing place with
  | nil =>
    intro inside
    have length := inside.length_le
    simp [size] at length
  | cons byte rest ih =>
    by_cases here : marker <+: byte :: rest
    · rw [find?_here place here] at h
      cases h
    · rw [find?_later place here] at h
      rw [List.infix_cons_iff]
      exact fun either => either.elim here (ih h)

/-- Where no marker stands, a search may begin one byte before the end of it. -/
theorem find?_drop {marker : Bytes} (size : marker.length = 2) {bytes : Bytes} {searched : Nat}
    (clear : ¬ marker <:+: bytes.take (searched + 1)) (place : Nat) :
    find? marker (place + searched) (bytes.drop searched) = find? marker place bytes := by
  induction searched generalizing bytes place with
  | zero => rfl
  | succ searched ih =>
    cases bytes with
    | nil => rfl
    | cons byte rest =>
      rw [List.take_succ_cons, List.infix_cons_iff, not_or] at clear
      have away : ¬ marker <+: byte :: rest := by
        intro here
        refine clear.1 (List.prefix_of_prefix_length_le here ?_ ?_)
        · exact (List.prefix_cons_inj byte).mpr (List.take_prefix ..)
        · have length := here.length_le
          simp only [List.length_cons, List.length_take, size] at length ⊢
          omega
      rw [find?_later place away, List.drop_succ_cons, ← ih clear.2,
        Nat.add_right_comm, Nat.add_assoc]

theorem ofPiece?_eq (piece : Bytes) : ofPiece? piece = fromStart? piece := by
  have general (bytes : Bytes) (place : Nat) :
      (find? startMarker place bytes).map (fun n => bytes.drop (n - place)) =
        fromStart? bytes := by
    induction bytes generalizing place with
    | nil => rfl
    | cons byte rest ih =>
      by_cases here : startMarker <+: byte :: rest
      · simp [find?_here place here, fromStart?, here]
      · rw [find?_later place here, fromStart?, if_neg here, ← ih (place + 1)]
        refine Option.map_congr fun n found => ?_
        obtain ⟨skipped, rfl, _⟩ := find?_eq_some rfl found
        have before : place + 1 + skipped - place = (place + 1 + skipped - (place + 1)) + 1 := by
          omega
        rw [before, List.drop_succ_cons]
  exact general piece 0

/-! ### Images -/

theorem fromStart?_eq_some {piece image : Bytes} (h : fromStart? piece = some image) :
    image <:+ piece ∧ startMarker <+: image := by
  induction piece with
  | nil => cases h
  | cons byte rest ih =>
    rw [fromStart?] at h
    split at h
    · next here =>
      obtain rfl := Option.some.inj h
      exact ⟨List.suffix_refl _, here⟩
    · obtain ⟨behind, begins⟩ := ih h
      exact ⟨behind.trans (List.suffix_cons ..), begins⟩

theorem EndsOnce.suffix {piece image : Bytes} (h : EndsOnce piece) (behind : image <:+ piece)
    (long : 2 ≤ image.length) : EndsOnce image where
  ends := List.suffix_of_suffix_length_le h.ends behind long
  once := by
    obtain ⟨before, rfl⟩ := behind
    have nonempty : image ≠ [] := List.ne_nil_of_length_pos (by omega)
    intro inside
    refine h.once (inside.trans ?_)
    rw [List.dropLast_append_of_ne_nil nonempty]
    exact (List.suffix_append ..).isInfix

theorem endsOnce_enclose {body : Bytes} (clear : ¬ endMarker <:+: body) :
    EndsOnce (enclose body) where
  ends := List.suffix_append ..
  once := by
    have inner : (enclose body).dropLast = 0xff :: 0xd8 :: (body ++ [0xff]) := by
      have last : enclose body = (0xff :: 0xd8 :: (body ++ [0xff])) ++ [0xd9] := by
        simp [enclose, startMarker, endMarker]
      rw [last, List.dropLast_concat]
    have behind : ¬ endMarker <:+: body ++ [0xff] := by
      rw [List.infix_concat_iff]
      refine fun either => either.elim (fun ends => ?_) clear
      have last := ends.getLast (by simp [endMarker])
      simp [endMarker] at last
    rw [inner, List.infix_cons_iff, List.infix_cons_iff]
    simpa [endMarker] using behind

theorem fromStart?_enclose (body : Bytes) : fromStart? (enclose body) = some (enclose body) := by
  have begins : startMarker <+: enclose body := by
    simp [enclose, List.append_assoc]
  rw [enclose, startMarker, List.cons_append, List.cons_append, fromStart?]
  exact if_pos begins

theorem cut_images {bodies : List Bytes} (clear : ∀ body ∈ bodies, ¬ endMarker <:+: body) :
    cut (bodies.map enclose).flatten = (bodies.map enclose, []) := by
  induction bodies with
  | nil => rfl
  | cons body rest ih =>
    have whole : EndsOnce ([] ++ enclose body) := endsOnce_enclose (clear body (by simp))
    have others := ih fun body mem => clear body (List.mem_cons_of_mem _ mem)
    rw [cut] at others ⊢
    rw [List.map_cons, List.flatten_cons,
      cutFrom_of_endsOnce whole (by simp [enclose, startMarker]), others]
    rfl

end Image

namespace Splitter

open Image (endMarker startMarker cut fromStart? EndsOnce)

theorem cutImages_of_none {held : Bytes} {scanned : Nat}
    (h : Image.find? endMarker (scanned - 1) (held.drop (scanned - 1)) = none) :
    cutImages held scanned = (held, []) := by
  rw [cutImages]
  split
  · rfl
  · next found =>
    rw [h] at found
    cases found

theorem cutImages_of_some {held : Bytes} {scanned place : Nat}
    (h : Image.find? endMarker (scanned - 1) (held.drop (scanned - 1)) = some place) :
    cutImages held scanned =
      ((cutImages (held.drop (place + 2)) 0).1,
        (Image.ofPiece? (held.take (place + 2))).toList ++
          (cutImages (held.drop (place + 2)) 0).2) := by
  rw [cutImages]
  split
  · next found =>
    rw [h] at found
    cases found
  · next other found =>
    rw [h] at found
    obtain rfl := Option.some.inj found
    cases Image.ofPiece? (held.take (place + 2)) <;> rfl

theorem cut_eq_cons {held : Bytes} {size : Nat} (piece : EndsOnce (held.take size)) :
    cut held = (held.take size :: (cut (held.drop size)).1, (cut (held.drop size)).2) := by
  have some : held.take size ≠ [] := by
    intro empty
    have ends := piece.ends
    rw [empty] at ends
    simp [endMarker] at ends
  have whole : EndsOnce ([] ++ held.take size) := piece
  have first := Image.cutFrom_of_endsOnce whole some (held.drop size)
  rwa [List.take_append_drop] at first

/-- Behind what was searched, the search cuts what is held as the reference does. -/
theorem cutImages_eq {held : Bytes} {scanned : Nat}
    (clear : ¬ endMarker <:+: held.take scanned) :
    cutImages held scanned = ((cut held).2, (cut held).1.filterMap fromStart?) := by
  have search : Image.find? endMarker (scanned - 1) (held.drop (scanned - 1)) =
      Image.find? endMarker 0 held := by
    cases scanned with
    | zero => rfl
    | succ searched =>
      have resumed := Image.find?_drop rfl clear 0
      rwa [Nat.zero_add] at resumed
  cases found : Image.find? endMarker 0 held with
  | none =>
    have whole : cut held = ([], held) := Image.cutFrom_of_clear (Image.find?_eq_none rfl found)
    rw [cutImages_of_none (search.trans found), whole]
    rfl
  | some place =>
    obtain ⟨skipped, eq, here, before⟩ := Image.find?_eq_some rfl found
    obtain rfl : place = skipped := eq.trans (Nat.zero_add _)
    have long : place + 2 ≤ held.length := by
      have fits := here.length_le
      simp only [endMarker, List.length_cons, List.length_nil, List.length_drop] at fits
      omega
    -- The first piece goes through the marker that was found.
    have piece : EndsOnce (held.take (place + 2)) := by
      constructor
      · obtain ⟨after, eq⟩ := here
        rw [List.take_add, ← eq]
        exact List.suffix_append ..
      · have shorter : min (min (place + 2) held.length - 1) (place + 2) = place + 1 := by omega
        rwa [List.dropLast_eq_take, List.length_take, List.take_take, shorter]
    have rest : cutImages (held.drop (place + 2)) 0 =
        ((cut (held.drop (place + 2))).2,
          (cut (held.drop (place + 2))).1.filterMap fromStart?) :=
      cutImages_eq (by simp [endMarker])
    rw [cutImages_of_some (search.trans found), rest, cut_eq_cons piece, List.filterMap_cons,
      Image.ofPiece?_eq]
    cases fromStart? (held.take (place + 2)) <;> rfl
termination_by held.length
decreasing_by
  simp only [List.length_drop]
  omega

/-! ### Chunks -/

/-- Takes in chunks one after the other; all the units that they complete. -/
def feed (splitter : Splitter) : List Bytes → Splitter × List Bytes
  | [] => (splitter, [])
  | chunk :: rest =>
    let (splitter, units) := splitter.push chunk
    let (splitter, more) := splitter.feed rest
    (splitter, units ++ more)

/-- All that is held was searched, and holds no end marker. -/
structure Searched (splitter : Splitter) : Prop where
  byImage : splitter.framing = .byImage
  whole : splitter.scanned = splitter.held.length
  clear : ¬ endMarker <:+: splitter.held

theorem searched_new (threshold : Nat) : (new .byImage threshold).Searched where
  byImage := rfl
  whole := rfl
  clear := by simp [new, endMarker]

namespace Searched

variable {splitter : Splitter}

theorem push_eq (h : splitter.Searched) (chunk : Bytes) :
    splitter.push chunk =
      ({ splitter with
          held := (cut (splitter.held ++ chunk)).2
          scanned := (cut (splitter.held ++ chunk)).2.length },
        (cut (splitter.held ++ chunk)).1.filterMap fromStart?) := by
  have clear : ¬ endMarker <:+: (splitter.held ++ chunk).take splitter.scanned := by
    rw [h.whole, List.take_left]
    exact h.clear
  simp only [push, h.byImage, cutImages_eq clear]

theorem push (h : splitter.Searched) (chunk : Bytes) : (splitter.push chunk).1.Searched := by
  obtain ⟨_, _, left⟩ := Image.cutFrom_spec [] (splitter.held ++ chunk) (by simp [endMarker])
  rw [h.push_eq]
  exact ⟨h.byImage, rfl, left⟩

/-- What is held and what comes is cut as one stream. -/
theorem feed_eq (h : splitter.Searched) (chunks : List Bytes) :
    splitter.feed chunks =
      ({ splitter with
          held := (cut (splitter.held ++ chunks.flatten)).2
          scanned := (cut (splitter.held ++ chunks.flatten)).2.length },
        (cut (splitter.held ++ chunks.flatten)).1.filterMap fromStart?) := by
  induction chunks generalizing splitter with
  | nil =>
    have left : cut splitter.held = ([], splitter.held) := Image.cutFrom_of_clear h.clear
    simp [feed, left, ← h.whole]
  | cons chunk rest ih =>
    have later := ih (h.push chunk)
    rw [h.push_eq] at later
    -- What the first chunk leaves behind is cut together with the rest.
    have joined := Image.cut_append (splitter.held ++ chunk) rest.flatten
    rw [List.append_assoc] at joined
    rw [feed, h.push_eq, List.flatten_cons, joined, List.filterMap_append]
    exact congrArg (fun r => (r.1, _ ++ r.2)) later

end Searched

/-- For every division of a stream into chunks, the units of a new splitter by image are those of
the reference, and what it holds is what follows the last end marker. Each unit begins with a start
marker and ends with its only end marker; images without an end marker inside come out as they went
in; and a reset splitter is a new one. -/
theorem images_of_chunks (threshold : Nat) (chunks : List Bytes) :
    let stream := chunks.flatten
    let (splitter, units) := (new .byImage threshold).feed chunks
    units = (cut stream).1.filterMap fromStart? ∧
    splitter.held = (cut stream).2 ∧ splitter.pending = (cut stream).2.length ∧
    (stream = (cut stream).1.flatten ++ (cut stream).2 ∧
      (∀ piece ∈ (cut stream).1, EndsOnce piece) ∧ ¬ endMarker <:+: (cut stream).2) ∧
    (∀ unit ∈ units, startMarker <+: unit ∧ EndsOnce unit) ∧
    (∀ bodies : List Bytes, (∀ body ∈ bodies, ¬ endMarker <:+: body) →
      stream = (bodies.map Image.enclose).flatten →
        units = bodies.map Image.enclose ∧ splitter.held = []) ∧
    splitter.reset = (new .byImage threshold, (cut stream).2.length) := by
  intro stream
  have fed := (searched_new threshold).feed_eq chunks
  obtain ⟨joined, pieces, left⟩ := Image.cutFrom_spec [] stream (by simp [endMarker])
  rw [fed]
  refine ⟨rfl, rfl, rfl, ⟨joined, pieces, left⟩, ?_, ?_, rfl⟩
  · intro unit mem
    obtain ⟨piece, cut, found⟩ := List.mem_filterMap.mp mem
    obtain ⟨behind, begins⟩ := Image.fromStart?_eq_some found
    exact ⟨begins, (pieces piece cut).suffix behind begins.length_le⟩
  · intro bodies clear eq
    have images : cut stream = (bodies.map Image.enclose, []) := by
      rw [eq]
      exact Image.cut_images clear
    have kept : (bodies.map Image.enclose).filterMap fromStart? = bodies.map Image.enclose := by
      have each : fromStart? ∘ Image.enclose = some ∘ Image.enclose :=
        funext Image.fromStart?_enclose
      rw [List.filterMap_map, each, List.filterMap_eq_map]
    show (cut stream).1.filterMap fromStart? = bodies.map Image.enclose ∧ (cut stream).2 = []
    rw [images]
    exact ⟨kept, rfl⟩

end Splitter

end CameraRelay
