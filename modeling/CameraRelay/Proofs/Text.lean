import CameraRelay.Text.Search
import Mathlib.Data.List.Infix

/-!
# Where a pattern stands in a text

A pattern whose first letter does not come back in it cannot overlap another place where it begins.
So the text in front of such a place has no part in where the pattern is found, and the search for
the first place splits a text as one would expect.
-/

namespace CameraRelay.Text

variable {first : Char} {inner : List Char}

/-- No occurrence begins before another one and ends behind its first letter. -/
theorem not_prefix_append (plain : first ∉ inner) {c : Char} {before : List Char}
    (absent : ¬ first :: inner <+: c :: before) (after : List Char) :
    ¬ first :: inner <+: c :: (before ++ first :: after) := by
  intro found
  rw [← List.cons_append] at found
  rcases List.prefix_or_prefix_of_prefix found (List.prefix_append ..) with within | ⟨more, longer⟩
  · exact absent within
  · rw [← longer, List.prefix_append_right_inj] at found
    cases more with
    | nil => exact absent (by rw [← longer, List.append_nil])
    | cons d rest =>
      obtain rfl : d = first := (List.cons_prefix_cons.mp found).1
      rw [List.cons_append, List.cons.injEq] at longer
      exact plain (by rw [← longer.2]; simp)

theorem splitFirst?_of_prefix {pattern : List Char} (nonempty : pattern ≠ []) (rest : List Char) :
    splitFirst? pattern (pattern ++ rest) = some ([], rest) := by
  obtain ⟨c, others, rfl⟩ := List.exists_cons_of_ne_nil nonempty
  have found := List.isPrefixOf?_eq_some_iff_append_eq.mpr (rfl : (c :: others) ++ rest = _)
  rw [List.cons_append] at found ⊢
  simp only [splitFirst?, found]

theorem splitFirst?_cons {pattern : List Char} {c : Char} {rest : List Char}
    (absent : ¬ pattern <+: c :: rest) :
    splitFirst? pattern (c :: rest) =
      (splitFirst? pattern rest).map fun (before, after) => (c :: before, after) := by
  cases here : pattern.isPrefixOf? (c :: rest) with
  | none => simp only [splitFirst?, here]
  | some after => exact absurd ⟨after, List.isPrefixOf?_eq_some_iff_append_eq.mp here⟩ absent

theorem splitFirst?_of_absent {pattern text : List Char} (absent : ¬ pattern <:+: text) :
    splitFirst? pattern text = none := by
  induction text with
  | nil =>
    cases pattern with
    | nil => exact absurd List.nil_infix absent
    | cons c others => rfl
  | cons c rest ih =>
    rw [splitFirst?_cons fun here => absent here.isInfix,
      ih fun later => absent (List.infix_cons later), Option.map_none]

theorem splitFirst?_append (plain : first ∉ inner) {before : List Char}
    (absent : ¬ first :: inner <:+: before) (after : List Char) :
    splitFirst? (first :: inner) (before ++ (first :: inner ++ after)) = some (before, after) := by
  induction before with
  | nil => exact splitFirst?_of_prefix (List.cons_ne_nil _ _) after
  | cons c rest ih =>
    have here : ¬ first :: inner <+: c :: (rest ++ (first :: inner ++ after)) :=
      not_prefix_append plain (fun found => absent found.isInfix) (inner ++ after)
    rw [List.cons_append, splitFirst?_cons here, ih fun later => absent (List.infix_cons later),
      Option.map_some]

/-- A text in which a pattern stands has a first place where it does. -/
theorem exists_first {pattern text : List Char} (nonempty : pattern ≠ [])
    (found : pattern <:+: text) :
    ∃ before after, text = before ++ (pattern ++ after) ∧ ¬ pattern <:+: before := by
  induction text with
  | nil => exact absurd (List.infix_nil.mp found) nonempty
  | cons c rest ih =>
    by_cases here : pattern <+: c :: rest
    · obtain ⟨after, eq⟩ := here
      exact ⟨[], after, eq.symm, fun empty => nonempty (List.infix_nil.mp empty)⟩
    · have later := (List.infix_cons_iff.mp found).resolve_left here
      obtain ⟨before, after, rfl, absent⟩ := ih later
      refine ⟨c :: before, after, rfl, fun within => ?_⟩
      rcases List.infix_cons_iff.mp within with start | behind
      · exact here (start.trans (List.prefix_append (c :: before) _))
      · exact absent behind

/-- A pattern does not reach over a letter that it does not have. -/
theorem infix_of_not_mem {pattern before after : List Char} {c : Char} (absent : c ∉ pattern)
    (found : pattern <:+: before ++ c :: after) : pattern <:+: before ∨ pattern <:+: after := by
  have empty {part : List Char} (sub : part ⊆ pattern) (start : part <+: c :: after) :
      part = [] := by
    cases part with
    | nil => rfl
    | cons d rest =>
      obtain rfl : d = c := (List.cons_prefix_cons.mp start).1
      exact absurd (sub (List.mem_cons_self ..)) absent
  rcases List.infix_append_iff_ne_nil.mp found with
    within | later | ⟨left, right, _, nonempty, rfl, _, start⟩
  · exact .inl within
  · rcases List.infix_cons_iff.mp later with here | behind
    · exact .inl (empty (List.Subset.refl _) here ▸ List.nil_infix)
    · exact .inr behind
  · exact absurd (empty (List.subset_append_right ..) start) nonempty

end CameraRelay.Text
