import EngineBridge.Plan.Policy
import Mathlib.Data.List.Nodup

/-!
Names that are escaped.

A reserved word gets a low line, and every other name stays as it is. Main statement: different names
stay different unless one of them is what a reserved word among them becomes.
-/

namespace EngineBridge

theorem escapeIdentifier_of_reserved {name : String} (reserved : name ∈ reservedWords) :
    escapeIdentifier name = name ++ "_" := by
  rw [escapeIdentifier, if_pos (List.contains_iff_mem.mpr reserved)]

theorem escapeIdentifier_of_free {name : String} (free : name ∉ reservedWords) :
    escapeIdentifier name = name := by
  rw [escapeIdentifier, if_neg fun reserved => free (List.contains_iff_mem.mp reserved)]

/-- No reserved word is another one with a low line behind it. -/
theorem escaped_not_mem_reservedWords :
    ∀ word ∈ reservedWords, word ++ "_" ∉ reservedWords := by
  decide +kernel

/-- Names of which some are kept and the others are escaped. -/
def escapedUnless (kept : String → Bool) (name : String) : String :=
  if kept name then name else escapeIdentifier name

variable {kept : String → Bool} {name other : String}

theorem escapedUnless_of_escaped (reserved : name ∈ reservedWords) (escaped : kept name = false) :
    escapedUnless kept name = name ++ "_" := by
  rw [escapedUnless, escaped]
  exact escapeIdentifier_of_reserved reserved

/-- A name is what it was, or it is a reserved word that is escaped. -/
theorem escapedUnless_eq_or (kept : String → Bool) (name : String) :
    escapedUnless kept name = name ∨
      name ∈ reservedWords ∧ kept name = false ∧ escapedUnless kept name = name ++ "_" := by
  cases isKept : kept name with
  | true => exact .inl (if_pos isKept)
  | false =>
      by_cases reserved : name ∈ reservedWords
      · exact .inr ⟨reserved, rfl, escapedUnless_of_escaped reserved isKept⟩
      · rw [escapedUnless, isKept]
        exact .inl (escapeIdentifier_of_free reserved)

/-- A name with something behind it is no reserved word, so that it stays as it is. -/
theorem escapedUnless_escaped (reserved : name ∈ reservedWords) :
    escapedUnless kept (name ++ "_") = name ++ "_" := by
  rcases escapedUnless_eq_or kept (name ++ "_") with same | ⟨again, _⟩
  · exact same
  · exact absurd again (escaped_not_mem_reservedWords name reserved)

theorem append_low_line_ne (name : String) : name ++ "_" ≠ name := by
  intro same
  have longer := congrArg String.length same
  rw [String.length_append] at longer
  exact absurd longer (by simp)

/-- Different names stay different unless one of them is what another one becomes. -/
theorem nodup_map_escapedUnless_iff {names : List String} (distinct : names.Nodup) :
    (names.map (escapedUnless kept)).Nodup ↔
      ∀ name ∈ names, name ∈ reservedWords → kept name = false → name ++ "_" ∉ names := by
  constructor
  · intro apart name listed reserved escaped taken
    have alike : escapedUnless kept (name ++ "_") = escapedUnless kept name := by
      rw [escapedUnless_escaped reserved, escapedUnless_of_escaped reserved escaped]
    exact append_low_line_ne name (List.inj_on_of_nodup_map apart taken listed alike)
  · intro free
    apply List.Nodup.map_on _ distinct
    intro one isOne other isOther alike
    rcases escapedUnless_eq_or kept one with keeps | ⟨reserved, escaped, becomes⟩
    · rcases escapedUnless_eq_or kept other with keepsOther | ⟨reserved, escaped, becomes⟩
      · rw [← keeps, alike, keepsOther]
      · rw [keeps, becomes] at alike
        exact absurd (alike ▸ isOne) (free other isOther reserved escaped)
    · rcases escapedUnless_eq_or kept other with keepsOther | ⟨_, _, becomesOther⟩
      · rw [becomes, keepsOther] at alike
        exact absurd (alike ▸ isOther) (free one isOne reserved escaped)
      · rw [becomes, becomesOther] at alike
        exact (String.append_left_inj "_").mp alike

theorem escapedUnless_none : escapedUnless (fun _ => false) = escapeIdentifier :=
  rfl

theorem nodup_map_escapeIdentifier_iff {names : List String} (distinct : names.Nodup) :
    (names.map escapeIdentifier).Nodup ↔
      ∀ name ∈ names, name ∈ reservedWords → name ++ "_" ∉ names := by
  rw [← escapedUnless_none, nodup_map_escapedUnless_iff distinct]
  simp

end EngineBridge
