import EngineBridge.Document.Json.Reader
import EngineBridge.Proofs.Entries
import EngineBridge.Proofs.Number.DigitRuns
import EngineBridge.Proofs.Running

/-!
Documents that can be written.

A document can be written if all of its parts can. Main statement: a document that was read from
JSON can be written, since no integer is read that has too many digits.
-/

namespace EngineBridge

namespace Entries

variable {α : Type}

theorem mem_put {key : String} {value : α} {entries : Entries α} {entry : String × α}
    (inside : entry ∈ put key value entries) : entry = (key, value) ∨ entry ∈ entries := by
  induction entries with
  | nil => exact .inl (List.mem_singleton.mp inside)
  | cons present rest induction =>
      obtain ⟨other, old⟩ := present
      rw [put] at inside
      split at inside
      · rcases List.mem_cons.mp inside with here | behind
        · exact .inl here
        · exact .inr (List.mem_cons_of_mem _ behind)
      · rcases List.mem_cons.mp inside with rfl | behind
        · exact .inr List.mem_cons_self
        · exact (induction behind).imp_right (List.mem_cons_of_mem _)

/-- Nothing is in a table that is not among the pairs it is put together of. -/
theorem mem_ofPairs {pairs : List (String × α)} {entry : String × α}
    (inside : entry ∈ ofPairs pairs) : entry ∈ pairs := by
  induction pairs using List.reverseRecOn with
  | nil => exact inside
  | append_singleton pairs pair induction =>
      rw [ofPairs_concat] at inside
      rcases mem_put inside with rfl | before
      · exact List.mem_append_right _ List.mem_cons_self
      · exact List.mem_append_left _ (induction before)

end Entries

namespace Document

theorem itemsAreWritable_iff {items : List Document} :
    itemsAreWritable items = true ↔ ∀ item ∈ items, item.isWritable = true := by
  induction items with
  | nil => simp [itemsAreWritable]
  | cons item rest induction => simp [itemsAreWritable, induction]

theorem entriesAreWritable_iff {entries : List (String × Document)} :
    entriesAreWritable entries = true ↔ ∀ entry ∈ entries, entry.2.isWritable = true := by
  induction entries with
  | nil => simp [entriesAreWritable]
  | cons entry rest induction => simp only [entriesAreWritable, Bool.and_eq_true, induction,
      List.forall_mem_cons]

/-- An array can be written if each of its items can. -/
theorem isWritable_array {items : List Document} :
    (array items).isWritable = true ↔ ∀ item ∈ items, item.isWritable = true :=
  itemsAreWritable_iff

/-- A table can be written if each of its values can. -/
theorem isWritable_table {entries : List (String × Document)} :
    (table entries).isWritable = true ↔ ∀ entry ∈ entries, entry.2.isWritable = true :=
  entriesAreWritable_iff

theorem isWritable_of_get? {entries : List (String × Document)} {key : String} {value : Document}
    (writable : (table entries).isWritable = true) (found : Entries.get? entries key = some value) :
    value.isWritable = true :=
  isWritable_table.mp writable (key, value) (mem_of_lookup found)

namespace Json

theorem isWritable_of_readNumber {characters rest : Rest} {document : Document}
    (read : readNumber characters = .ok (document, rest)) : document.isWritable = true := by
  unfold readNumber at read
  dsimp only at read
  split at read
  · cases read
  split at read
  · split at read
    · next number found =>
        cases read
        exact Number.isWritable_of_readInt? found
    · cases read
  · split at read
    · cases read
      rfl
    · cases read

theorem isWritable_of_readScalar {characters rest : Rest} {document : Document}
    (read : readScalar characters = .ok (document, rest)) : document.isWritable = true := by
  unfold readScalar at read
  split at read
  · next found isWord =>
      obtain ⟨word, listed, behind⟩ := List.exists_of_findSome?_eq_some isWord
      obtain ⟨remaining, -, rfl⟩ := Option.map_eq_some_iff.mp behind
      cases read
      simp only [words, List.mem_cons, List.not_mem_nil, or_false] at listed
      rcases listed with rfl | rfl | rfl | rfl | rfl | rfl <;> rfl
  · exact isWritable_of_readNumber read

mutual

theorem isWritable_of_readValue {steps room : Nat} {characters rest : Rest} {document : Document}
    (read : readValue steps room characters = .ok (document, rest)) :
    document.isWritable = true := by
  cases steps with
  | zero => cases read
  | succ steps =>
      rw [readValue.eq_def] at read
      dsimp only at read
      split at read
      · obtain ⟨_, -, read⟩ := exists_of_bind_eq_ok read
        cases read
        rfl
      · split at read
        · cases read
        · split at read
          · cases read
            rfl
          · obtain ⟨⟨values, _⟩, inside, read⟩ := exists_of_bind_eq_ok read
            cases read
            exact isWritable_array.mpr (isWritable_of_readItems inside)
      · split at read
        · cases read
        · split at read
          · cases read
            rfl
          · obtain ⟨⟨pairs, _⟩, inside, read⟩ := exists_of_bind_eq_ok read
            cases read
            exact isWritable_table.mpr fun entry listed =>
              isWritable_of_readEntries inside entry (Entries.mem_ofPairs listed)
      · exact isWritable_of_readScalar read

theorem isWritable_of_readItems {steps room : Nat} {characters rest : Rest}
    {items : List Document} (read : readItems steps room characters = .ok (items, rest)) :
    ∀ item ∈ items, item.isWritable = true := by
  cases steps with
  | zero => cases read
  | succ steps =>
      rw [readItems] at read
      obtain ⟨⟨value, behind⟩, first, read⟩ := exists_of_bind_eq_ok read
      have here := isWritable_of_readValue first
      dsimp only at read
      split at read
      · cases read
        exact List.forall_mem_singleton.mpr here
      · obtain ⟨⟨values, _⟩, others, read⟩ := exists_of_bind_eq_ok read
        cases read
        exact List.forall_mem_cons.mpr ⟨here, isWritable_of_readItems others⟩
      · cases read

theorem isWritable_of_readEntries {steps room : Nat} {characters rest : Rest}
    {pairs : List (String × Document)}
    (read : readEntries steps room characters = .ok (pairs, rest)) :
    ∀ pair ∈ pairs, pair.2.isWritable = true := by
  cases steps with
  | zero => cases read
  | succ steps =>
      rw [readEntries.eq_def] at read
      dsimp only at read
      split at read
      · obtain ⟨⟨key, behindKey⟩, -, read⟩ := exists_of_bind_eq_ok read
        dsimp only at read
        split at read
        · obtain ⟨⟨value, behind⟩, first, read⟩ := exists_of_bind_eq_ok read
          have here := isWritable_of_readValue first
          dsimp only at read
          split at read
          · cases read
            exact List.forall_mem_singleton.mpr here
          · obtain ⟨⟨others, _⟩, behind, read⟩ := exists_of_bind_eq_ok read
            cases read
            exact List.forall_mem_cons.mpr ⟨here, isWritable_of_readEntries behind⟩
          · cases read
        · cases read
      · cases read

end

/-- What was read from JSON can be written. -/
theorem isWritable_of_read {text : String} {document : Document}
    (read : read text = .ok document) : document.isWritable = true := by
  obtain ⟨⟨found, rest⟩, value, read⟩ := exists_of_bind_eq_ok read
  dsimp only at read
  split at read
  · cases read
    exact isWritable_of_readValue value
  · cases read

end Json

end Document

end EngineBridge
