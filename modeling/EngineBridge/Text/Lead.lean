/-!
The beginning and the parts of a text.
-/

namespace EngineBridge.Text

/-- What follows a lead at the beginning of a text, if the lead is there. -/
def after? (lead text : String) : Option String :=
  if lead.toList.isPrefixOf text.toList then
    some (String.ofList (text.toList.drop lead.toList.length))
  else none

example : after? "enum::" "enum::Error" = some "Error" ∧ after? "enum::" "enum" = none := by
  decide +kernel

/-- What follows the lead is all that has to be put behind it to get the text. -/
theorem after?_eq_some_iff {lead text rest : String} :
    after? lead text = some rest ↔ text = lead ++ rest := by
  simp only [after?]
  constructor
  · intro found
    split at found
    · next isLead =>
        obtain ⟨remaining, split⟩ := List.isPrefixOf_iff_prefix.mp isLead
        simp only [Option.some.injEq] at found
        rw [← split, List.drop_left] at found
        apply String.toList_injective
        rw [← found, String.toList_append, String.toList_ofList, split]
    · cases found
  · intro equal
    subst equal
    have isLead : lead.toList.isPrefixOf (lead ++ rest).toList = true := by
      rw [List.isPrefixOf_iff_prefix, String.toList_append]
      exact List.prefix_append _ _
    rw [if_pos isLead, String.toList_append, List.drop_left, String.ofList_toList]

def holds (character : Char) (text : String) : Bool :=
  text.toList.contains character

end EngineBridge.Text
