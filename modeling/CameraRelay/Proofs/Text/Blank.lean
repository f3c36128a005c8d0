import CameraRelay.Text.Blank
import Mathlib.Data.List.DropRight

/-!
# Trimming

Trimming takes the white space off both ends of a text, and nothing else. Main statement:
`trim_eq_iff`.
-/

namespace CameraRelay.Text

/-- A text with no white space at either end. -/
structure Bare (text : List Char) : Prop where
  first : ∀ c ∈ text.head?, isBlank c = false
  last : ∀ c ∈ text.getLast?, isBlank c = false

variable {text before after : List Char}

theorem dropWhile_of_first (first : ∀ c ∈ text.head?, isBlank c = false) :
    text.dropWhile isBlank = text := by
  cases text with
  | nil => rfl
  | cons c rest =>
    have letter : isBlank c = false := first c rfl
    rw [List.dropWhile_cons_of_neg (by simp [letter])]

theorem dropWhile_blank_append (blank : allBlank before = true) (text : List Char) :
    (before ++ text).dropWhile isBlank = text.dropWhile isBlank :=
  List.dropWhile_append_of_pos (List.all_eq_true.mp blank)

theorem rdropWhile_append_blank (last : ∀ c ∈ text.getLast?, isBlank c = false)
    (blank : allBlank after = true) : (text ++ after).rdropWhile isBlank = text := by
  have blank' : allBlank after.reverse = true := by
    rw [allBlank, List.all_reverse]
    exact blank
  have first : ∀ c ∈ text.reverse.head?, isBlank c = false := by
    rw [List.head?_reverse]
    exact last
  rw [List.rdropWhile, List.reverse_append, dropWhile_blank_append blank', dropWhile_of_first first,
    List.reverse_reverse]

theorem bare_trim (text : List Char) : Bare (trim text) := by
  constructor
  · intro c mem
    have start : trim text <+: text.dropWhile isBlank := List.rdropWhile_prefix isBlank _
    have head : (text.dropWhile isBlank).head? = some c := by
      obtain ⟨rest, whole⟩ := start
      rw [← whole, List.head?_append_of_ne_nil _ (by rintro none; simp [none] at mem)]
      exact mem
    have letter := List.head?_dropWhile_not isBlank text
    rw [head] at letter
    exact letter
  · intro c mem
    obtain ⟨nonempty, rfl⟩ := List.mem_getLast?_eq_getLast mem
    exact eq_false_of_ne_true (List.rdropWhile_last_not isBlank _ nonempty)

/-- What is left of a text are its letters from the first to the last that is no white space. -/
theorem trim_eq_iff {text core : List Char} :
    trim text = core ↔ Bare core ∧ ∃ before after, text = before ++ core ++ after ∧
      allBlank before = true ∧ allBlank after = true := by
  constructor
  · rintro rfl
    refine ⟨bare_trim text, text.takeWhile isBlank, (text.dropWhile isBlank).rtakeWhile isBlank,
      ?_, ?_, ?_⟩
    · have rest : trim text ++ (text.dropWhile isBlank).rtakeWhile isBlank =
          text.dropWhile isBlank := List.rdropWhile_append_rtakeWhile
      rw [List.append_assoc, rest, List.takeWhile_append_dropWhile]
    · exact List.all_eq_true.mpr fun c => List.mem_takeWhile_imp
    · exact List.all_eq_true.mpr fun c => List.mem_rtakeWhile_imp
  · rintro ⟨bare, before, after, rfl, blank, blank'⟩
    show ((before ++ core ++ after).dropWhile isBlank).rdropWhile isBlank = core
    rw [List.append_assoc, dropWhile_blank_append blank]
    cases core with
    | nil =>
      have nothing : after.dropWhile isBlank = [] :=
        List.dropWhile_eq_nil_iff.mpr (List.all_eq_true.mp blank')
      rw [List.nil_append, nothing]
      rfl
    | cons c rest =>
      have first : ∀ d ∈ (c :: rest ++ after).head?, isBlank d = false := bare.first
      rw [dropWhile_of_first first]
      exact rdropWhile_append_blank bare.last blank'

end CameraRelay.Text
