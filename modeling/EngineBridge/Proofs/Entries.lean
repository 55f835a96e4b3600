import EngineBridge.Entries
import Mathlib.Data.List.Induction
import Mathlib.Data.List.Perm.Subperm

/-!
Tables that are put together of pairs.

Main statements: the keys of such a table are those of the pairs, each where it came first, and a
key has the value that came last.
-/

namespace EngineBridge

section FirstOccurrences

variable {α : Type} [BEq α] [LawfulBEq α]

/-- An item at the end counts if it did not occur before. -/
theorem eraseDups_concat (items : List α) (item : α) [Decidable (item ∈ items)] :
    (items ++ [item]).eraseDups =
      if item ∈ items then items.eraseDups else items.eraseDups ++ [item] := by
  rw [List.eraseDups_append]
  by_cases known : item ∈ items
  · simp [List.removeAll, known]
  · simp [List.removeAll, known, List.eraseDups_cons]

theorem nodup_eraseDups (items : List α) : items.eraseDups.Nodup := by
  classical
  induction items using List.reverseRecOn with
  | nil => simp
  | append_singleton items item induction =>
      rw [eraseDups_concat]
      split
      · exact induction
      · next new =>
          refine List.nodup_append.mpr ⟨induction, by simp, ?_⟩
          rintro other member last isItem rfl
          rw [List.mem_singleton.mp isItem, List.mem_eraseDups] at member
          exact new member

theorem eraseDups_subperm (items : List α) : items.eraseDups.Subperm items :=
  List.subperm_of_subset (nodup_eraseDups items) fun _ => List.mem_eraseDups.mp

theorem length_eraseDups_le (items : List α) : items.eraseDups.length ≤ items.length :=
  (eraseDups_subperm items).length_le

theorem eraseDups_of_nodup {items : List α} (distinct : items.Nodup) : items.eraseDups = items := by
  classical
  induction items using List.reverseRecOn with
  | nil => rfl
  | append_singleton items item induction =>
      have ⟨distinct, _, apart⟩ := List.nodup_append.mp distinct
      have new : item ∉ items := fun known => apart item known item List.mem_cons_self rfl
      rw [eraseDups_concat, if_neg new, induction distinct]

/-- Items are all different if none of them is left out. -/
theorem length_eraseDups_eq_iff {items : List α} :
    items.eraseDups.length = items.length ↔ items.Nodup := by
  constructor
  · intro same
    have rearranged := (eraseDups_subperm items).perm_of_length_le (Nat.le_of_eq same.symm)
    exact rearranged.nodup_iff.mp (nodup_eraseDups items)
  · intro distinct
    rw [eraseDups_of_nodup distinct]

end FirstOccurrences

namespace Entries

variable {α : Type}

theorem nodup_keys_put {entries : Entries α} (distinct : entries.keys.Nodup) (key : String)
    (value : α) : (put key value entries).keys.Nodup := by
  by_cases present : key ∈ entries.keys
  · rw [keys_put_of_mem value entries present]
    exact distinct
  · rw [keys_put_of_not_mem value entries present]
    apply List.nodup_append.mpr ⟨distinct, by simp, _⟩
    intro other member last isLast same
    rw [List.mem_singleton.mp isLast] at same
    rw [same] at member
    exact present member

theorem ofPairs_concat (pairs : List (String × α)) (key : String) (value : α) :
    ofPairs (pairs ++ [(key, value)]) = put key value (ofPairs pairs) := by
  rw [ofPairs, List.foldl_append]
  rfl

/-- A key stands where it came first. -/
theorem keys_ofPairs (pairs : List (String × α)) : (ofPairs pairs).keys = (keys pairs).eraseDups := by
  induction pairs using List.reverseRecOn with
  | nil => rfl
  | append_singleton pairs pair induction =>
      rw [ofPairs_concat, keys, keys, List.map_append]
      change _ = (keys pairs ++ [pair.1]).eraseDups
      rw [eraseDups_concat]
      split
      · next known =>
          rw [← List.mem_eraseDups, ← induction] at known
          exact (keys_put_of_mem _ _ known).trans induction
      · next new =>
          rw [← List.mem_eraseDups, ← induction] at new
          rw [← induction]
          exact keys_put_of_not_mem _ _ new

/-- A key has the value that came last. -/
theorem get?_ofPairs_of_last {key : String} (value : α) (before : List (String × α))
    {after : List (String × α)} (last : key ∉ keys after) :
    get? (ofPairs (before ++ (key, value) :: after)) key = some value := by
  induction after using List.reverseRecOn with
  | nil => rw [ofPairs_concat, get?_put_self]
  | append_singleton after pair induction =>
      rw [keys, List.map_append, List.mem_append, not_or] at last
      have different : key ≠ pair.1 := by simpa using last.2
      rw [← List.cons_append, ← List.append_assoc, ofPairs_concat, get?_put_of_ne different]
      exact induction last.1

end Entries

end EngineBridge
