import CameraRelay.Proofs.Text
import CameraRelay.Settings

/-!
# The arguments of a decoder

An argument is a template: letters, and marks in whose places the timeout and the locator are put.
The timeout is filled in before the locator. As no digit belongs to a mark, the first filling leaves
the marks for the second as they were, so both together come to one: every mark of the template is
replaced, and nothing that was put in is looked at again. Main statement: `arguments_filled_once`.
-/

namespace CameraRelay

namespace Template

inductive Mark where
  | timeout
  | locator
deriving DecidableEq

def Mark.text : Mark → List Char
  | timeout => timeoutMark
  | locator => locatorMark

inductive Part where
  | letter (letter : Char)
  | mark (mark : Mark)
deriving DecidableEq

/-- What a part comes to when something is put in the place of each mark. -/
def Part.filled (value : Mark → List Char) : Part → List Char
  | letter c => [c]
  | mark m => value m

def markAt? (text : List Char) : Option Mark :=
  [Mark.timeout, .locator].find? fun m => m.text.isPrefixOf text

/-- The parts of a text of which `skip` letters belong to a mark that was found. -/
def partsFrom : Nat → List Char → List Part
  | _, [] => []
  | skip + 1, _ :: rest => partsFrom skip rest
  | 0, c :: rest =>
    match markAt? (c :: rest) with
    | some m => .mark m :: partsFrom (m.text.length - 1) rest
    | none => .letter c :: partsFrom 0 rest

/-- The parts of a template, read from the left. -/
def parts (text : List Char) : List Part := partsFrom 0 text

/-- A template with all its marks filled in at once. -/
def expand (value : Mark → List Char) (text : List Char) : List Char :=
  (parts text).flatMap (Part.filled value)

/-! ### Marks -/

/-- A mark is a brace and letters that are neither braces of that kind nor digits. -/
theorem Mark.text_eq (m : Mark) :
    ∃ inner, m.text = '{' :: inner ∧ ∀ c ∈ inner, c ≠ '{' ∧ c.isDigit = false := by
  have plain : (m.text.tail.all fun c => c != '{' && !c.isDigit) = true := by
    cases m <;> decide
  refine ⟨m.text.tail, ?_, fun c mem => ?_⟩
  · cases m <;> rfl
  · simpa using List.all_eq_true.mp plain c mem

theorem markAt?_eq_none {text : List Char} (absent : ∀ m : Mark, ¬ m.text <+: text) :
    markAt? text = none := by
  refine List.find?_eq_none.mpr fun m _ found => absent m ?_
  exact List.isPrefixOf_iff_prefix.mp found

@[simp] theorem parts_nil : parts [] = [] := rfl

theorem parts_mark (m : Mark) (rest : List Char) :
    parts (m.text ++ rest) = .mark m :: parts rest := by
  cases m <;> rfl

theorem parts_letter {c : Char} {rest : List Char} (absent : ∀ m : Mark, ¬ m.text <+: c :: rest) :
    parts (c :: rest) = .letter c :: parts rest := by
  simp only [parts, partsFrom, markAt?_eq_none absent]

/-- A text is empty, or it begins with a mark, or with a letter at which no mark stands. -/
@[elab_as_elim]
theorem parts_induction {motive : List Char → Prop} (text : List Char) (nil : motive [])
    (mark : ∀ (m : Mark) rest, motive rest → motive (m.text ++ rest))
    (letter : ∀ c rest, (∀ m : Mark, ¬ m.text <+: c :: rest) → motive rest → motive (c :: rest)) :
    motive text := by
  induction size : text.length using Nat.strongRecOn generalizing text with
  | ind size' ih =>
    subst size
    cases text with
    | nil => exact nil
    | cons c rest =>
      by_cases marked : ∃ m : Mark, m.text <+: c :: rest
      · obtain ⟨m, after, split⟩ := marked
        obtain ⟨inner, eq, _⟩ := m.text_eq
        rw [← split]
        refine mark m after (ih _ ?_ after rfl)
        rw [← split, eq, List.cons_append, List.length_cons, List.length_append]
        omega
      · exact letter c rest (fun m found => marked ⟨m, found⟩) (ih _ (by simp) rest rfl)

/-! ### The parts of a template -/

theorem expand_text (text : List Char) : expand Mark.text text = text := by
  induction text using parts_induction with
  | nil => rfl
  | mark m rest ih => simpa [expand, parts_mark, Part.filled] using ih
  | letter c rest absent ih => simpa [expand, parts_letter absent, Part.filled] using ih

theorem parts_append_unbraced {letters : List Char} (unbraced : ∀ c ∈ letters, c ≠ '{')
    (rest : List Char) : parts (letters ++ rest) = letters.map .letter ++ parts rest := by
  induction letters with
  | nil => rfl
  | cons c others ih =>
    have absent (m : Mark) : ¬ m.text <+: c :: (others ++ rest) := by
      intro found
      obtain ⟨inner, eq, _⟩ := m.text_eq
      rw [eq, List.cons_prefix_cons] at found
      exact unbraced c (List.mem_cons_self ..) found.1.symm
    rw [List.cons_append, parts_letter absent, ih fun c mem => unbraced c (List.mem_cons_of_mem _ mem)]
    rfl

theorem parts_plain {text : List Char} (absent : ∀ m : Mark, ¬ m.text <:+: text) :
    parts text = text.map .letter := by
  induction text using parts_induction with
  | nil => rfl
  | mark m rest ih => exact absurd (List.prefix_append ..).isInfix (absent m)
  | letter c rest here ih =>
    rw [parts_letter here, ih fun m found => absent m (found.trans (List.suffix_cons ..).isInfix)]
    rfl

/-- No mark begins before a brace and ends behind it. -/
theorem no_mark_of_brace {c : Char} {before : List Char}
    (absent : ∀ m : Mark, ¬ m.text <+: c :: before) (after : List Char) (m : Mark) :
    ¬ m.text <+: c :: (before ++ '{' :: after) := by
  obtain ⟨inner, eq, plain⟩ := m.text_eq
  rw [eq]
  refine Text.not_prefix_append (fun mem => (plain '{' mem).1 rfl) ?_ after
  rw [← eq]
  exact absent m

/-- A mark is found wherever it stands. -/
theorem parts_append_mark (before : List Char) (m : Mark) (after : List Char) :
    parts (before ++ m.text ++ after) = parts before ++ .mark m :: parts after := by
  induction before using parts_induction with
  | nil => exact parts_mark m after
  | mark other rest ih =>
    rw [List.append_assoc, List.append_assoc, parts_mark, parts_mark, ← List.append_assoc, ih]
    rfl
  | letter c rest absent ih =>
    obtain ⟨inner, eq, _⟩ := m.text_eq
    have still : ∀ other : Mark, ¬ other.text <+: c :: (rest ++ m.text ++ after) := by
      rw [eq, List.append_assoc, List.cons_append]
      exact no_mark_of_brace absent (inner ++ after)
    rw [List.cons_append, List.cons_append, parts_letter still, parts_letter absent, ih]
    rfl

/-! ### One mark after the other -/

/-- One mark is filled in and the others are kept. -/
def only (m : Mark) (new : List Char) (other : Mark) : List Char :=
  if other = m then new else other.text

theorem replaceAll_eq_expand (m : Mark) (new text : List Char) :
    Text.replaceAll m.text new text = expand (only m new) text := by
  induction text using parts_induction with
  | nil => rfl
  | mark other rest ih =>
    have step : Text.replaceAll m.text new (other.text ++ rest) =
        only m new other ++ Text.replaceAll m.text new rest := by
      cases m <;> cases other <;> rfl
    rw [step, ih]
    simp [expand, parts_mark, Part.filled]
  | letter c rest absent ih =>
    have none : m.text.isPrefixOf (c :: rest) = false :=
      Bool.eq_false_iff.mpr fun found => absent m (List.isPrefixOf_iff_prefix.mp found)
    have step : Text.replaceAll m.text new (c :: rest) =
        c :: Text.replaceAll m.text new rest := by
      simp [Text.replaceAll, Text.replaceFrom, none]
    rw [step, ih]
    simp [expand, parts_letter absent, Part.filled]

section

variable {digits : List Char} (nonempty : digits ≠ []) (decimal : ∀ c ∈ digits, c.isDigit = true)

include nonempty decimal

/-- Letters of a mark that stand behind one another in a filled template stand so in the template. -/
theorem prefix_of_prefix_expand {inner text : List Char}
    (plain : ∀ c ∈ inner, c ≠ '{' ∧ c.isDigit = false)
    (found : inner <+: expand (only .timeout digits) text) : inner <+: text := by
  induction text using parts_induction generalizing inner with
  | nil => exact found
  | mark m rest ih =>
    cases inner with
    | nil => exact List.nil_prefix
    | cons c inner =>
      have first := plain c (List.mem_cons_self ..)
      rw [expand, parts_mark, List.flatMap_cons] at found
      cases m with
      | timeout =>
        obtain ⟨digit, others, eq⟩ := List.exists_cons_of_ne_nil nonempty
        have same : c = digit := by
          simp only [Part.filled, only, if_true, eq] at found
          exact (List.cons_prefix_cons.mp found).1
        have isDigit := decimal digit (by simp [eq])
        rw [← same, first.2] at isDigit
        cases isDigit
      | locator => exact absurd (List.cons_prefix_cons.mp found).1 first.1
  | letter d rest absent ih =>
    cases inner with
    | nil => exact List.nil_prefix
    | cons c inner =>
      rw [expand, parts_letter absent] at found
      obtain ⟨same, behind⟩ := List.cons_prefix_cons.mp found
      refine List.cons_prefix_cons.mpr ⟨same, ih (fun c mem => ?_) behind⟩
      exact plain c (List.mem_cons_of_mem _ mem)

/-- Digits in the places of the timeout make up no mark and break none. -/
theorem parts_expand (text : List Char) :
    parts (expand (only .timeout digits) text) =
      (parts text).flatMap fun part =>
        if part = .mark .timeout then digits.map .letter else [part] := by
  induction text using parts_induction with
  | nil => rfl
  | mark m rest ih =>
    have filled : expand (only .timeout digits) (m.text ++ rest) =
        only .timeout digits m ++ expand (only .timeout digits) rest := by
      rw [expand, parts_mark, List.flatMap_cons]
      rfl
    rw [filled, parts_mark, List.flatMap_cons, ← ih]
    cases m with
    | timeout =>
      refine parts_append_unbraced (fun c mem same => ?_) _
      rw [same] at mem
      exact absurd (decimal '{' mem) (by decide)
    | locator => exact parts_mark .locator _
  | letter c rest absent ih =>
    have filled : expand (only .timeout digits) (c :: rest) =
        c :: expand (only .timeout digits) rest := by
      rw [expand, parts_letter absent, List.flatMap_cons]
      rfl
    have still (m : Mark) : ¬ m.text <+: c :: expand (only .timeout digits) rest := by
      intro found
      obtain ⟨inner, eq, plain⟩ := m.text_eq
      rw [eq, List.cons_prefix_cons] at found
      refine absent m ?_
      rw [eq, List.cons_prefix_cons]
      exact ⟨found.1, prefix_of_prefix_expand nonempty decimal plain found.2⟩
    rw [filled, parts_letter still, parts_letter absent, List.flatMap_cons, ← ih]
    rfl

/-- What is put in the place of each mark. -/
def values (timeout locator : List Char) : Mark → List Char
  | .timeout => timeout
  | .locator => locator

theorem fill_eq_expand (locator text : List Char) :
    DecoderSettings.fill digits locator text = expand (values digits locator) text := by
  -- The locator is put into the parts that the first filling left.
  have second (part : Part) :
      (if part = .mark .timeout then digits.map .letter else [part]).flatMap
        (Part.filled (only .locator locator)) = part.filled (values digits locator) := by
    cases part with
    | letter c => rfl
    | mark m =>
      cases m with
      | timeout =>
        rw [if_pos rfl, List.flatMap_map]
        exact List.flatMap_singleton' digits
      | locator => exact List.append_nil _
  calc DecoderSettings.fill digits locator text
      = expand (only .locator locator) (expand (only .timeout digits) text) := by
        rw [← replaceAll_eq_expand .timeout, ← replaceAll_eq_expand .locator]
        rfl
    _ = (parts (expand (only .timeout digits) text)).flatMap
          (Part.filled (only .locator locator)) := rfl
    _ = expand (values digits locator) text := by
        rw [parts_expand nonempty decimal, List.flatMap_assoc]
        exact List.flatMap_congr fun part _ => second part

end

end Template

namespace DecoderSettings

open Template

/-- Every argument of the template gives one argument, in the same order: its marks are replaced, all
at once, by the timeout in microseconds and by the locator as it is, and everything else is kept.
Which parts an argument has is told by the argument alone: they spell it, a mark is one of them
wherever it stands, and without marks they are its letters. -/
theorem arguments_filled_once (settings : DecoderSettings) (locator : String) :
    let timeout := Nat.toDigits 10 settings.connectTimeout.micros
    settings.renderArguments locator =
      (settings.arguments.map fun argument =>
        String.ofList ((parts argument.toList).flatMap
          (Part.filled (values timeout locator.toList)))) ∧
    (∀ text, (parts text).flatMap (Part.filled Mark.text) = text) ∧
    (∀ before (m : Mark) after,
      parts (before ++ m.text ++ after) = parts before ++ .mark m :: parts after) ∧
    (∀ text, (∀ m : Mark, ¬ m.text <:+: text) → parts text = text.map .letter) := by
  intro timeout
  have nonempty : timeout ≠ [] := Nat.toDigits_ne_nil
  have decimal : ∀ c ∈ timeout, c.isDigit = true := fun c mem =>
    Nat.isDigit_of_mem_toDigits (by decide) (by decide) mem
  refine ⟨?_, expand_text, parts_append_mark, fun text absent => parts_plain absent⟩
  refine List.map_congr_left fun argument _ => congrArg String.ofList ?_
  exact fill_eq_expand nonempty decimal locator.toList argument.toList

/-- Marks in a locator are left as they are, and so are marks that come about by what is put in. -/
example :
    let settings : DecoderSettings :=
      { arguments := ["\x7blocator\x7d", "\x7bloc\x7btimeout_us\x7dator\x7d",
          "\x7b\x7blocator\x7d"] }
    settings.renderArguments "\x7btimeout_us\x7dlocator\x7d" =
      ["\x7btimeout_us\x7dlocator\x7d", "\x7bloc5000000ator\x7d",
        "\x7b\x7btimeout_us\x7dlocator\x7d"] := by
  decide

end DecoderSettings

end CameraRelay
