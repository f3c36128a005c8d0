import CameraRelay.Proofs.Base64
import CameraRelay.Proofs.Json.Values
import CameraRelay.Wire

/-!
# What is written can be read again

Every event is one line, and a reader of JSON finds in it an object with the members of the event's
kind, from which all that travels of the event is taken again. Main statement: `lines_lossless`.
-/

namespace CameraRelay

namespace Json

theorem Padded.bare {α : Type} {item : List Char → α → Prop} {text : List Char} {a : α}
    (spelled : item text a) : Padded item text a := by
  simpa using Padded.between .nil spelled .nil

end Json

namespace Wire

open Json (ValueText SeriesText MemberText Padded)

def textValue (key : String) (value : List Char) : List Char × Json := (key.toList, .string value)

/-- The members of the object that an event travels as. -/
def sent : Event → List (List Char × Json)
  | .started device =>
    [textValue "event" "streamStarted".toList, textValue "deviceId" device.name.toList]
  | .queued device position =>
    [textValue "event" "streamQueued".toList, textValue "deviceId" device.name.toList,
     ("queuePosition".toList, .number (.natural position)), textValue "message" queuedMessage]
  | .frame device frame =>
    [textValue "event" "streamFrame".toList, textValue "deviceId" device.name.toList,
     textValue "image" (dataUrl frame.data)]
  | .ended device =>
    [textValue "event" "streamEnded".toList, textValue "deviceId" device.name.toList]
  | .error (some device) message =>
    [textValue "event" "streamError".toList, textValue "deviceId" device.name.toList,
     textValue "message" message.toList]
  | .error none message =>
    [textValue "event" "streamError".toList, textValue "message" message.toList]

/-- What travels of an event is found in its members. -/
theorem read?_sent (event : Event) : read? (.object (sent event)) = some (.ofEvent event) := by
  cases event with
  | started device => rfl
  | queued device position => rfl
  | frame device content =>
    have stripped : imageMark.isPrefixOf? (dataUrl content.data) =
        some (Base64.encode content.data) := List.isPrefixOf?_eq_some_iff_append_eq.mpr rfl
    show (do
      let encoded ← imageMark.isPrefixOf? (dataUrl content.data)
      let data ← Base64.decode encoded
      some (Message.frame device.name.toList data)) = _
    rw [stripped]
    show (Base64.decode (Base64.encode content.data)).bind _ = _
    rw [Base64.decode_encode]
    rfl
  | ended device => rfl
  | error device message => cases device <;> rfl

/-! ### The object -/

/-- A member as it is written, and what it is to be read as. -/
structure Spells (written : List Char × List Char) (member : List Char × Json) : Prop where
  key : written.1 = member.1
  value : ValueText written.2 member.2

theorem spells_text (key : String) (value : List Char) :
    Spells (textMember key value) (textValue key value) :=
  ⟨rfl, .string (Json.stringText_quote value)⟩

theorem memberText_of_spells {written : List Char × List Char} {member : List Char × Json}
    (spells : Spells written member) :
    MemberText ValueText (Json.quote written.1 ++ ':' :: written.2) member := by
  rw [spells.key]
  exact .member (.bare (Json.stringText_quote _)) (.bare spells.value)

theorem seriesText_join {written : List (List Char × List Char)}
    {found : List (List Char × Json)} (spells : List.Forall₂ Spells written found)
    (some : found ≠ []) : SeriesText (MemberText ValueText) (join written) found := by
  induction spells with
  | nil => exact absurd rfl some
  | @cons first member others rest spelled following ih =>
    have front := memberText_of_spells spelled
    cases following with
    | nil => exact .last front
    | cons next more =>
      have series := SeriesText.more front (ih (List.cons_ne_nil _ _))
      simpa [join] using series

theorem spells_members {event : Event}
    (inRange : ∀ device position, event = .queued device position → position < 2 ^ 64) :
    List.Forall₂ Spells (members event) (sent event) := by
  cases event with
  | started device => exact .cons (spells_text ..) (.cons (spells_text ..) .nil)
  | queued device position =>
    have fits := inRange device position rfl
    have number : Spells (numberMember "queuePosition" position)
        ("queuePosition".toList, .number (.natural position)) :=
      ⟨rfl, .number (Json.numberText_toDigits fits)⟩
    exact .cons (spells_text ..)
      (.cons (spells_text ..) (.cons number (.cons (spells_text ..) .nil)))
  | frame device content =>
    exact .cons (spells_text ..) (.cons (spells_text ..) (.cons (spells_text ..) .nil))
  | ended device => exact .cons (spells_text ..) (.cons (spells_text ..) .nil)
  | error device message =>
    cases device with
    | none => exact .cons (spells_text ..) (.cons (spells_text ..) .nil)
    | some device =>
      exact .cons (spells_text ..) (.cons (spells_text ..) (.cons (spells_text ..) .nil))

/-- No member holds an array or an object. -/
theorem within_sent (depth : Nat) (event : Event) :
    Json.Within (depth + 1) (.object (sent event)) := by
  refine .object ?_
  cases event with
  | error device message => cases device <;> simp [sent, textValue, Json.Within.string]
  | _ => simp [sent, textValue, Json.Within.string, Json.Within.number]

theorem read?_encode {event : Event}
    (inRange : ∀ device position, event = .queued device position → position < 2 ^ 64) :
    Json.read? (encode event) = some (.object (sent event)) := by
  have some : sent event ≠ [] := by
    cases event with
    | error device message => cases device <;> exact List.cons_ne_nil _ _
    | _ => exact List.cons_ne_nil _ _
  have spelled : ValueText (encode event) (.object (sent event)) :=
    .object (seriesText_join (spells_members inRange) some)
  exact Json.read?_eq_some_iff.mpr ⟨.bare spelled, within_sent 126 event⟩

/-! ### The lines -/

/-- No control characters. -/
def Shown (text : List Char) : Prop := ∀ c ∈ text, 32 ≤ c.toNat

theorem Shown.append {first second : List Char} (front : Shown first) (back : Shown second) :
    Shown (first ++ second) := List.forall_mem_append.mpr ⟨front, back⟩

theorem Shown.cons {c : Char} {rest : List Char} (front : 32 ≤ c.toNat) (back : Shown rest) :
    Shown (c :: rest) := List.forall_mem_cons.mpr ⟨front, back⟩

theorem shown_escape (c : Char) : Shown (Json.escape c) := by
  have digit : ∀ value < 16, 32 ≤ (Json.hexDigit value).toNat := by decide
  have control (isControl : c.toNat < 32) : Shown
      ['\\', 'u', '0', '0', Json.hexDigit (c.toNat / 16), Json.hexDigit (c.toNat % 16)] := by
    have high := digit (c.toNat / 16) (by omega)
    have low := digit (c.toNat % 16) (by omega)
    simp [Shown, high, low]
  unfold Json.escape
  split_ifs with isQuote isBackslash isBack isTab isLine isForm isReturn isControl
  case neg => simpa [Shown] using isControl
  all_goals first | exact control isControl | simp [Shown]

theorem shown_quote (s : List Char) : Shown (Json.quote s) := by
  refine .append (.cons (by decide) fun c mem => ?_) (by simp [Shown])
  obtain ⟨made, _, inside⟩ := List.mem_flatMap.mp mem
  exact shown_escape made c inside

theorem shown_toDigits (n : Nat) : Shown (Nat.toDigits 10 n) := by
  intro c mem
  have digit := Nat.isDigit_of_mem_toDigits (by decide) (by decide) mem
  simp only [Char.isDigit, Bool.and_eq_true, decide_eq_true_eq] at digit
  have low : 48 ≤ c.toNat := UInt32.le_iff_toNat_le.mp digit.1
  exact Nat.le_trans (by decide) low

theorem shown_join {written : List (List Char × List Char)}
    (values : ∀ member ∈ written, Shown member.2) : Shown (join written) := by
  have member (key : List Char) {value : List Char} (shown : Shown value) :
      Shown (Json.quote key ++ ':' :: value) :=
    .append (shown_quote key) (.cons (by decide) shown)
  induction written using join.induct with
  | case1 => simp [join, Shown]
  | case2 key value => exact member key (values _ List.mem_cons_self)
  | case3 key value rest apart ih =>
    obtain ⟨first, others⟩ := List.forall_mem_cons.mp values
    rw [join]
    · exact (member key first).append (.cons (by decide) (ih others))
    · exact apart

theorem shown_encode (event : Event) : Shown (encode event) := by
  refine .cons (by decide) (.append (shown_join ?_) (by simp [Shown]))
  cases event with
  | error device message => cases device <;> simp [members, textMember, shown_quote]
  | _ => simp [members, textMember, numberMember, shown_quote, shown_toDigits]

theorem newline_not_mem (event : Event) : '\n' ∉ encode event := fun mem =>
  absurd (shown_encode event '\n' mem) (by decide)

theorem splitOn_lines (events : List Event) :
    (lines events).splitOn '\n' = events.map encode ++ [[]] := by
  induction events with
  | nil => rfl
  | cons event rest ih =>
    have first : lines (event :: rest) = encode event ++ '\n' :: lines rest := by
      simp [lines, line]
    rw [first, List.splitOn_append_cons_self_of_not_mem (newline_not_mem event), ih]
    rfl

theorem count_lines (events : List Event) : (lines events).count '\n' = events.length := by
  induction events with
  | nil => rfl
  | cons event rest ih =>
    have first : lines (event :: rest) = encode event ++ '\n' :: lines rest := by
      simp [lines, line]
    rw [first, List.count_append, List.count_cons_self, ih,
      List.count_eq_zero.mpr (newline_not_mem event), List.length_cons, Nat.zero_add]

/-- The text of some events is a line for each of them, which ends with the only line end in it.
Read as JSON, the line of an event is the object with the members of its kind, and all that travels
of the event is found in it. -/
theorem lines_lossless (events : List Event)
    (inRange : ∀ device position, .queued device position ∈ events → position < 2 ^ 64) :
    (lines events).count '\n' = events.length ∧
    (lines events).splitOn '\n' = events.map encode ++ [[]] ∧
    ∀ event ∈ events, Shown (encode event) ∧
      Json.read? (encode event) = some (.object (sent event)) ∧
      read? (.object (sent event)) = some (.ofEvent event) := by
  refine ⟨count_lines events, splitOn_lines events, fun event mem => ?_⟩
  refine ⟨shown_encode event, read?_encode fun device position same => ?_, read?_sent event⟩
  exact inRange device position (same ▸ mem)

theorem lines_lossless_queued_frame :
    let events : List Event :=
      [.queued ⟨"door \"1\"\n"⟩ 2, .frame ⟨"gate"⟩ ⟨0, [0xff, 0xd8, 0xff, 0xd9]⟩]
    (∀ device position, .queued device position ∈ events → position < 2 ^ 64) ∧
    (lines events).count '\n' = 2 ∧
    (lines events).splitOn '\n' = events.map encode ++ [[]] ∧
    ∀ event ∈ events, Shown (encode event) ∧
      Json.read? (encode event) = some (.object (sent event)) ∧
      read? (.object (sent event)) = some (.ofEvent event) := by
  intro events
  have inRange : ∀ device position, .queued device position ∈ events → position < 2 ^ 64 := by
    intro device position mem
    simp only [events, List.mem_cons, List.not_mem_nil, or_false, reduceCtorEq,
      Event.queued.injEq] at mem
    rw [mem.2]
    decide
  exact ⟨inRange, lines_lossless events inRange⟩

end Wire

end CameraRelay
