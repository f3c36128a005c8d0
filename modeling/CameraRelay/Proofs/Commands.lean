import CameraRelay.Connection
import CameraRelay.Proofs.Json.Values

/-!
# The lines that are commands

Which JSON values name a command, said of the members that an object has and not of the order in
which a reader meets them. A line is taken as a command exactly when it is the text of such a value;
of any other line the client is told that it breaks the protocol. Main statement: `decode_exact`.
-/

namespace CameraRelay.Command

open Json (Valid)

/-- What the members with a key hold. -/
def valuesOf (key : List Char) (members : List (List Char × Json)) : List Json :=
  (members.filter (·.1 = key)).map (·.2)

/-- What may be given for the device: nothing, null or a name. -/
inductive NamesDevice : List Json → Option (List Char) → Prop
  | missing : NamesDevice [] none
  | null : NamesDevice [.null] none
  | name (s : List Char) : NamesDevice [.string s] (some s)

/-- The values that name a command. -/
inductive Names : Json → Command → Prop
  | members {members : List (List Char × Json)} {kind : Kind} {device : Option (List Char)}
    (event : valuesOf eventKey members = [.string kind.name])
    (sent : NamesDevice (valuesOf deviceKey members) device) :
    Names (.object members) (ofKind kind device)
  | items {kind : Kind} {rest : List Json} {device : Option (List Char)}
    (sent : NamesDevice rest device) :
    Names (.array (.string kind.name :: rest)) (ofKind kind device)

variable {value : Json} {kind : Kind} {device : Option (List Char)} {command : Command}
  {members : List (List Char × Json)}

theorem valuesOf_cons (key : List Char) (member : List Char × Json)
    (rest : List (List Char × Json)) :
    valuesOf key (member :: rest) =
      if member.1 = key then member.2 :: valuesOf key rest else valuesOf key rest := by
  unfold valuesOf
  rw [List.filter_cons]
  split <;> simp_all

theorem kindOf_eq_ok_iff : kindOf value = .ok kind ↔ value = .string kind.name := by
  constructor
  · intro named
    unfold kindOf at named
    split at named
    · next s =>
      split at named
      · next start =>
        cases named
        rw [start]
      · split at named
        · next stop =>
          cases named
          rw [stop]
        · cases named
    · cases named
  · rintro rfl
    cases kind <;> rfl

theorem deviceOf_eq_ok_iff : deviceOf value = .ok device ↔ NamesDevice [value] device := by
  constructor
  · intro named
    unfold deviceOf at named
    split at named <;> cases named
    · exact .null
    · exact .name _
  · rintro (_ | _) <;> rfl

theorem eventAmong_some {found : Kind} :
    eventAmong (some found) members = .ok kind ↔ valuesOf eventKey members = [] ∧ found = kind := by
  induction members with
  | nil => simp [eventAmong, valuesOf]
  | cons member rest ih =>
    obtain ⟨key, value⟩ := member
    rw [eventAmong, valuesOf_cons]
    split <;> simp_all

theorem eventAmong_none :
    eventAmong none members = .ok kind ↔ valuesOf eventKey members = [.string kind.name] := by
  induction members with
  | nil => simp [eventAmong, valuesOf]
  | cons member rest ih =>
    obtain ⟨key, value⟩ := member
    rw [eventAmong, valuesOf_cons]
    by_cases isEvent : key = eventKey
    · rw [if_pos isEvent, if_pos isEvent, List.cons.injEq, ← kindOf_eq_ok_iff]
      cases named : kindOf value with
      | ok first => simp [eventAmong_some, and_comm]
      | error fault => simp
    · rw [if_neg isEvent, if_neg isEvent]
      exact ih

theorem deviceAmong_some {found : Option (List Char)} :
    deviceAmong (some found) members = .ok device ↔
      valuesOf deviceKey members = [] ∧ found = device := by
  induction members with
  | nil => simp [deviceAmong, valuesOf]
  | cons member rest ih =>
    obtain ⟨key, value⟩ := member
    rw [deviceAmong, valuesOf_cons]
    split <;> simp_all

theorem namesDevice_nil : NamesDevice [] device ↔ device = none := by
  constructor
  · rintro ⟨⟩
    rfl
  · rintro rfl
    exact .missing

theorem namesDevice_cons {others : List Json} :
    NamesDevice (value :: others) device ↔ others = [] ∧ deviceOf value = .ok device := by
  rw [deviceOf_eq_ok_iff]
  constructor
  · rintro (_ | _)
    · exact ⟨rfl, .null⟩
    · exact ⟨rfl, .name _⟩
  · rintro ⟨rfl, named⟩
    exact named

theorem deviceAmong_none :
    deviceAmong none members = .ok device ↔ NamesDevice (valuesOf deviceKey members) device := by
  induction members with
  | nil => simp [deviceAmong, valuesOf, namesDevice_nil, eq_comm]
  | cons member rest ih =>
    obtain ⟨key, value⟩ := member
    rw [deviceAmong, valuesOf_cons]
    by_cases isDevice : key = deviceKey
    · rw [if_pos isDevice, if_pos isDevice, namesDevice_cons]
      cases named : deviceOf value with
      | ok first => simp [deviceAmong_some]
      | error fault => simp
    · rw [if_neg isDevice, if_neg isDevice]
      exact ih

theorem ofJson_object :
    ofJson (.object members) = .ok command ↔
      ∃ kind device, valuesOf eventKey members = [.string kind.name] ∧
        NamesDevice (valuesOf deviceKey members) device ∧ ofKind kind device = command := by
  simp only [← eventAmong_none, ← deviceAmong_none, ofJson]
  cases eventAmong none members with
  | error fault => simp
  | ok kind =>
    cases deviceAmong none members with
    | error fault => simp
    | ok device => simp

theorem ofJson_array {first : Json} {rest : List Json} :
    ofJson (.array (first :: rest)) = .ok command ↔
      ∃ kind device, first = .string kind.name ∧ NamesDevice rest device ∧
        ofKind kind device = command := by
  simp only [← kindOf_eq_ok_iff, ofJson]
  cases kindOf first with
  | error fault => simp
  | ok kind =>
    cases rest with
    | nil => simp [namesDevice_nil]
    | cons value others =>
      simp only [namesDevice_cons]
      cases deviceOf value with
      | error fault => simp
      | ok device => cases others <;> simp

theorem ofJson_eq_ok_iff : ofJson value = .ok command ↔ Names value command := by
  constructor
  · intro named
    match value, named with
    | .object members, named =>
      obtain ⟨kind, device, event, sent, rfl⟩ := ofJson_object.mp named
      exact .members event sent
    | .array (first :: rest), named =>
      obtain ⟨kind, device, rfl, sent, rfl⟩ := ofJson_array.mp named
      exact .items sent
  · rintro (⟨event, sent⟩ | sent)
    · exact ofJson_object.mpr ⟨_, _, event, sent, rfl⟩
    · exact ofJson_array.mpr ⟨_, _, rfl, sent, rfl⟩

theorem decode_eq_ok_iff {line : List Char} :
    decode line = .ok command ↔ ∃ value, Valid (Text.trim line) value ∧ Names value command := by
  simp only [← Json.read?_eq_some_iff, ← ofJson_eq_ok_iff, decode]
  cases Json.read? (Text.trim line) with
  | none => simp
  | some value => simp

/-- A line is a command exactly when it is, white space at its ends apart, the text of one JSON
value that names that command. What any other line asks for is a complaint about the protocol. -/
theorem decode_exact (line : List Char) :
    (∀ command, decode line = .ok command ↔
      ∃ value, Valid (Text.trim line) value ∧ Names value command) ∧
    ((∀ value command, Valid (Text.trim line) value → ¬ Names value command) →
      ∃ fault, decode line = .error fault ∧
        ∀ bytes, Text.decodeLossy bytes = line → Text.allBlank line = false →
          LineEffect.ofLine bytes =
            .complaint (Failure.protocol (String.ofList fault.text)).text) := by
  refine ⟨fun command => decode_eq_ok_iff, fun apart => ?_⟩
  cases decoded : decode line with
  | ok command =>
    obtain ⟨value, valid, names⟩ := decode_eq_ok_iff.mp decoded
    exact absurd names (apart value command valid)
  | error fault =>
    refine ⟨fault, rfl, fun bytes read shown => ?_⟩
    simp only [LineEffect.ofLine, read, shown, decoded]
    rfl

end CameraRelay.Command
