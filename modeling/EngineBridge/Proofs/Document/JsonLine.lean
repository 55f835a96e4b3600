import EngineBridge.Proofs.Document.JsonReading

/-!
Documents written as JSON on one line.

Main statements: what is written of a document is a single line, whatever characters its texts have,
and a document that JSON keeps is read back from it.
-/

namespace EngineBridge

namespace Number

theorem ne_newLine_of_isDigit {character : Char} (digit : character.isDigit = true) :
    character ≠ '\n' :=
  ne_of_isDigit digit (by decide)

/-- A written decimal has digits, a point, the mark of an exponent and its sign. -/
theorem Written.IsDecimal.newLine_not_mem_text {written : Written} (decimal : written.IsDecimal) :
    '\n' ∉ written.text := by
  obtain ⟨whole, fraction, exponent⟩ := written
  have inWhole : '\n' ∉ whole := fun inside =>
    ne_newLine_of_isDigit (decimal.whole_digits _ inside) rfl
  have inFraction : '\n' ∉ fraction := fun inside =>
    ne_newLine_of_isDigit (decimal.fraction_digits _ inside) rfl
  have inPoint : '\n' ∉ point ⟨whole, fraction, exponent⟩ := by
    unfold point
    split
    · exact List.not_mem_nil
    · exact List.not_mem_cons_of_ne_of_not_mem (by decide) inFraction
  have inTail : '\n' ∉ tail ⟨whole, fraction, exponent⟩ := by
    unfold tail
    split
    · exact List.not_mem_nil
    · rename_i negative digits found
      have inDigits : '\n' ∉ digits := fun inside =>
        ne_newLine_of_isDigit (decimal.exponent_digits _ _ found _ inside) rfl
      cases negative <;> simp [inDigits]
  simp [text, inWhole, inPoint, inTail]

end Number

namespace Document.Json

/-! ## A single line -/

theorem newLine_not_mem_hexDigits (width value : Nat) : '\n' ∉ Text.hexDigits width value := by
  have printed : ∀ value < 16, '\n' ≠ Text.hexDigit value := by decide
  induction width generalizing value with
  | zero => exact List.not_mem_nil
  | succ width induction =>
      rw [Text.hexDigits, List.mem_append, List.mem_singleton, not_or]
      exact ⟨induction _, printed _ (Nat.mod_lt _ (by decide))⟩

theorem newLine_not_mem_escapedUnit (unit : Nat) : '\n' ∉ escapedUnit unit := by
  simp [escapedUnit, newLine_not_mem_hexDigits]

/-- A line feed is among the characters that are escaped in any style. -/
theorem newLine_not_mem_writeCharacter (style : Style) (character : Char) :
    '\n' ∉ writeCharacter style character := by
  unfold writeCharacter escapedUnits
  dsimp only
  by_cases isLineFeed : character.toNat = 0x0A
  · simp [isLineFeed]
  · have plain : '\n' ∉ [character] := by
      rw [List.mem_singleton]
      rintro rfl
      exact isLineFeed rfl
    split_ifs <;> first | exact plain | simp [newLine_not_mem_escapedUnit]

theorem newLine_not_mem_writeText (style : Style) (text : String) : '\n' ∉ writeText style text := by
  simp [writeText, newLine_not_mem_writeCharacter]

theorem newLine_not_mem_writeFloat (value : Float) : '\n' ∉ writeFloat value := by
  unfold writeFloat
  split
  · decide
  split
  · rename_i finite
    have ⟨written, decimal, shape, _⟩ := Number.exists_written finite
    rw [shape, List.mem_append, not_or]
    exact ⟨Number.not_mem_signCharacters (by decide) _, decimal.newLine_not_mem_text⟩
  split
  · decide
  · decide

mutual

/-- What is written of a document is a single line. -/
theorem newLine_not_mem_compact (style : Style) :
    ∀ document, '\n' ∉ compact style document
  | .null => by simp [compact]
  | .bool value => by cases value <;> simp [compact, writeBool]
  | .int value => by rw [compact]; exact Number.not_mem_writeInt rfl (by decide) value
  | .float value => by rw [compact]; exact newLine_not_mem_writeFloat value
  | .text value => by rw [compact]; exact newLine_not_mem_writeText style value
  | .moment _ written => by rw [compact]; exact newLine_not_mem_writeText style written
  | .array items => by simp [compact, newLine_not_mem_compactItems style items]
  | .table entries => by simp [compact, newLine_not_mem_compactEntries style entries]

theorem newLine_not_mem_compactItems (style : Style) :
    ∀ items, '\n' ∉ compactItems style items
  | [] => List.not_mem_nil
  | [item] => newLine_not_mem_compact style item
  | item :: next :: rest => by
      simp [compactItems, newLine_not_mem_compact style item,
        newLine_not_mem_compactItems style (next :: rest)]

theorem newLine_not_mem_compactEntries (style : Style) :
    ∀ entries, '\n' ∉ compactEntries style entries
  | [] => List.not_mem_nil
  | [(key, value)] => by
      simp [compactEntries, newLine_not_mem_writeText, newLine_not_mem_compact style value]
  | (key, value) :: next :: rest => by
      simp [compactEntries, newLine_not_mem_writeText, newLine_not_mem_compact style value,
        newLine_not_mem_compactEntries style (next :: rest)]

end

/-! ## Items on a line -/

theorem compactItems_eq (style : Style) (items : List Document) :
    compactItems style items = separated [' '] (items.map (compact style)) := by
  induction items with
  | nil => rfl
  | cons item items induction =>
      cases items with
      | nil => rfl
      | cons next items =>
          rw [compactItems, induction]
          · simp [separated]
          · exact List.cons_ne_nil next items

theorem compactEntries_eq (style : Style) (entries : List (String × Document)) :
    compactEntries style entries = separated [' '] (entries.map (entryText style (compact style))) := by
  induction entries with
  | nil => rfl
  | cons entry entries induction =>
      obtain ⟨name, value⟩ := entry
      cases entries with
      | nil => rfl
      | cons next entries =>
          rw [compactEntries, induction]
          · simp [separated, entryText]
          · exact List.cons_ne_nil next entries

/-- A document that JSON keeps is read back from wherever it is written on one line. -/
theorem readsAs_compact {room : Nat} {document : Document} (keeps : Keeps room document)
    (style : Style) (level : Nat) (whole : brokenOff? .ascii level document = none) :
    ReadsAs room (compact style document) document := by
  have space : IsGap [' '] := by simp [IsGap, isSpace]
  induction keeps generalizing level with
  | null => exact readsAs_scalar .null (isTooLong_of_brokenOff? whole) style _
  | bool value => exact readsAs_scalar (.bool value) (isTooLong_of_brokenOff? whole) style _
  | int value => exact readsAs_scalar (.int value) (isTooLong_of_brokenOff? whole) style _
  | float value => exact readsAs_scalar (.float value) (isTooLong_of_brokenOff? whole) style _
  | text value => exact readsAs_scalar (.text value) (isTooLong_of_brokenOff? whole) style _
  | array inside induction =>
      rename_i items
      cases items with
      | nil => exact readsAs_empty_array _
      | cons item items =>
          have each := brokenOff?_of_brokenItems? whole
          have read := readsAs_array (List.cons_ne_nil item items)
            (fun item inside => induction item inside (level + 1) (each item inside))
            isGap_nil space isGap_nil
          rw [← compactItems_eq] at read
          simpa [compact] using read
  | table distinct inside induction =>
      rename_i entries
      cases entries with
      | nil => exact readsAs_empty_table _
      | cons entry entries =>
          have each := brokenOff?_of_brokenEntries? whole
          have read := @readsAs_table _ _ style _ _ _ _ (List.cons_ne_nil entry entries) distinct
            (fun entry inside => induction entry inside (level + 1) (each entry inside))
            isGap_nil space isGap_nil
          rw [← compactEntries_eq] at read
          simpa [compact] using read

/-- What a line holds of a document that JSON keeps is this document. -/
theorem read_compact {document : Document} (keeps : Keeps nestingRoom document)
    (writable : isWritable document = true) (style : Style) :
    read (String.ofList (compact style document)) = .ok document := by
  have whole : brokenOff? .ascii 0 document = none := Option.isNone_iff_eq_none.mp writable
  rw [Json.read, String.toList_ofList, ← List.append_nil (compact style document)]
  exact (readsAs_compact keeps style 0 whole).readCharacters_eq isGap_nil

/-! ## Integers that can be written -/

section Whole

variable {level : Nat} {lead : List Char}

theorem brokenItems?_of_brokenOff? {items : List Document}
    (whole : ∀ item ∈ items, brokenOff? .ascii level item = none) :
    brokenItems? .ascii level lead items = none := by
  induction items generalizing lead with
  | nil => rfl
  | cons item items induction =>
      rw [brokenItems?, whole item List.mem_cons_self]
      exact Option.map_eq_none_iff.mpr
        (induction fun other inside => whole other (List.mem_cons_of_mem _ inside))

theorem brokenEntries?_of_brokenOff? {entries : List (String × Document)}
    (whole : ∀ entry ∈ entries, brokenOff? .ascii level entry.2 = none) :
    brokenEntries? .ascii level lead entries = none := by
  induction entries generalizing lead with
  | nil => rfl
  | cons entry entries induction =>
      have first : brokenOff? .ascii level entry.2 = none := whole entry List.mem_cons_self
      simp only [brokenEntries?, first]
      exact Option.map_eq_none_iff.mpr
        (induction fun other inside => whole other (List.mem_cons_of_mem _ inside))

/-- What is written to its end inside some levels is so inside any number of them. -/
theorem brokenOff?_of_keeps {room : Nat} {document : Document} (keeps : Keeps room document)
    (whole : brokenOff? .ascii level document = none) (other : Nat) :
    brokenOff? .ascii other document = none := by
  induction keeps generalizing level other with
  | null => rfl
  | bool value => rfl
  | int value => exact whole
  | float value => rfl
  | text value => rfl
  | array inside induction =>
      have each := brokenOff?_of_brokenItems? whole
      exact brokenItems?_of_brokenOff? fun item inside =>
        induction item inside (each item inside) (other + 1)
  | table distinct inside induction =>
      have each := brokenOff?_of_brokenEntries? whole
      exact brokenEntries?_of_brokenOff? fun entry inside =>
        induction entry inside (each entry inside) (other + 1)

end Whole

/-- A table is read back from a line if all its values can be. -/
theorem read_compact_table {room : Nat} (fits : nestingRoom = room + 1)
    {entries : List (String × Document)} (distinct : (Entries.keys entries).Nodup)
    (each : ∀ entry ∈ entries, Keeps room entry.2 ∧ isWritable entry.2 = true) (style : Style) :
    read (String.ofList (compact style (.table entries))) = .ok (.table entries) := by
  have keeps : Keeps nestingRoom (.table entries) := by
    rw [fits]
    exact .table distinct fun entry inside => (each entry inside).1
  have whole : brokenOff? .ascii 0 (.table entries) = none :=
    brokenEntries?_of_brokenOff? fun entry inside =>
      brokenOff?_of_keeps (each entry inside).1
        (Option.isNone_iff_eq_none.mp (each entry inside).2) 1
  exact read_compact keeps (Option.isNone_iff_eq_none.mpr whole) style

end Document.Json

end EngineBridge
