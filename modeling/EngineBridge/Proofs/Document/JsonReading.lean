import EngineBridge.Proofs.Document.JsonNumber
import EngineBridge.Proofs.Document.JsonText

/-!
Documents written as JSON over several lines and read back.

JSON has no dates and times, a key counts once in a table, and what is nested too deep is not read.
Main statement: a document without these is read from its file as it was, if none of its integers
is too long to be written.
-/

namespace EngineBridge

namespace Entries

variable {α : Type}

theorem put_of_not_mem {key : String} (value : α) {entries : Entries α}
    (absent : key ∉ entries.keys) : put key value entries = entries ++ [(key, value)] := by
  induction entries with
  | nil => rfl
  | cons entry rest induction =>
      obtain ⟨other, present⟩ := entry
      simp only [keys, List.map_cons, List.mem_cons, not_or] at absent
      have differs : ¬ other = key := fun same => absent.1 same.symm
      rw [put, if_neg differs, induction absent.2, List.cons_append]

/-- Keys that are all different keep their places and their values. -/
theorem ofPairs_of_nodup {entries : Entries α} (distinct : entries.keys.Nodup) :
    ofPairs entries = entries := by
  have added (before : Entries α) (behind : List (String × α))
      (apart : (before.keys ++ keys behind).Nodup) :
      behind.foldl (fun entries pair => entries.put pair.1 pair.2) before = before ++ behind := by
    induction behind generalizing before with
    | nil => rw [List.foldl_nil, List.append_nil]
    | cons entry rest induction =>
        obtain ⟨key, value⟩ := entry
        have absent : key ∉ before.keys := by
          intro present
          exact (List.nodup_append.mp apart).2.2 key present key List.mem_cons_self rfl
        rw [List.foldl_cons, put_of_not_mem value absent, induction, List.append_assoc]
        · rfl
        · simpa [keys] using apart
  exact added [] entries distinct

end Entries

namespace Document.Json

/-- Whether JSON keeps a document, with so much room for brackets and braces. -/
inductive Keeps : Nat → Document → Prop where
  | null {room : Nat} : Keeps room .null
  | bool {room : Nat} (value : Bool) : Keeps room (.bool value)
  | int {room : Nat} (value : Int) : Keeps room (.int value)
  | float {room : Nat} (value : Float) : Keeps room (.float value)
  | text {room : Nat} (value : String) : Keeps room (.text value)
  | array {room : Nat} {items : List Document} (inside : ∀ item ∈ items, Keeps room item) :
      Keeps (room + 1) (.array items)
  | table {room : Nat} {entries : List (String × Document)} (distinct : (Entries.keys entries).Nodup)
      (inside : ∀ entry ∈ entries, Keeps room entry.2) : Keeps (room + 1) (.table entries)

attribute [simp] Keeps.null Keeps.bool Keeps.int Keeps.float Keeps.text

/-- Whether a text consists of spaces. -/
def IsGap (gap : List Char) : Prop :=
  ∀ character ∈ gap, isSpace character = true

section Space

variable {gap : List Char}

theorem skipSpace_of_head {character : Char} (other : isSpace character = false) (rest : Rest) :
    skipSpace (character :: rest) = character :: rest := by
  simp [skipSpace, other]

theorem IsGap.skipSpace_eq (spaces : IsGap gap) (rest : Rest) :
    skipSpace (gap ++ rest) = skipSpace rest :=
  List.dropWhile_append_of_pos spaces

/-- Spaces end a number, and what ends a number does so behind them. -/
theorem IsGap.endsNumber (spaces : IsGap gap) {rest : Rest} (ends : EndsNumber rest) :
    EndsNumber (gap ++ rest) := by
  cases gap with
  | nil => exact ends
  | cons space gap =>
      intro character found
      have isSpace := spaces space List.mem_cons_self
      simp only [Json.isSpace, Bool.or_eq_true, beq_iff_eq] at isSpace
      cases found
      rcases isSpace with ((rfl | rfl) | rfl) | rfl <;> decide

theorem endsNumber_mark {mark : Char} (isMark : mark ∈ [']', '\x7d', ',']) (rest : Rest) :
    EndsNumber (mark :: rest) := by
  intro character found
  cases found
  simp only [List.mem_cons, List.not_mem_nil, or_false] at isMark
  rcases isMark with rfl | rfl | rfl <;> decide

theorem isGap_nil : IsGap [] :=
  fun _ inside => absurd inside List.not_mem_nil

theorem isGap_newLine (level : Nat) : IsGap (newLine level) := by
  simp [IsGap, newLine, isSpace]

end Space

/-- Whether a text begins with a character that is neither a space nor a closing bracket. -/
def BeginsItem (characters : List Char) : Prop :=
  ∃ (first : Char) (rest : List Char), characters = first :: rest ∧ isSpace first = false ∧
    first ≠ ']'

namespace BeginsItem

variable {characters : List Char}

theorem append (begins : BeginsItem characters) (rest : List Char) :
    BeginsItem (characters ++ rest) := by
  have ⟨first, behind, shape, noSpace, noBracket⟩ := begins
  exact ⟨first, behind ++ rest, by rw [shape, List.cons_append], noSpace, noBracket⟩

theorem skipSpace_eq (begins : BeginsItem characters) : skipSpace characters = characters := by
  have ⟨first, behind, shape, noSpace, _⟩ := begins
  rw [shape, skipSpace_of_head noSpace]

end BeginsItem

/-- Whether a text begins like a number. -/
def BeginsNumber (characters : List Char) : Prop :=
  ∃ (first : Char) (rest : List Char), characters = first :: rest ∧
    (first.isDigit = true ∨ first ∈ ['-', 'N', 'I'])

namespace BeginsNumber

variable {characters : List Char}

theorem of_isDigit (negative : Bool) (nonempty : characters ≠ [])
    (digit : ∀ character, characters.head? = some character → character.isDigit = true) :
    BeginsNumber (Number.signCharacters negative ++ characters) := by
  cases negative with
  | true => exact ⟨'-', characters, rfl, Or.inr (by decide)⟩
  | false =>
      cases characters with
      | nil => exact absurd rfl nonempty
      | cons character behind => exact ⟨character, behind, rfl, Or.inl (digit character rfl)⟩

theorem ne_of_begins {first : Char} (begins : first.isDigit = true ∨ first ∈ ['-', 'N', 'I'])
    {known : Char} (other : known.isDigit = false) (apart : known ∉ ['-', 'N', 'I']) :
    first ≠ known := by
  intro same
  rw [same] at begins
  rcases begins with digit | sign
  · rw [other] at digit
    cases digit
  · exact apart sign

theorem beginsItem (begins : BeginsNumber characters) : BeginsItem characters := by
  have ⟨first, rest, shape, start⟩ := begins
  refine ⟨first, rest, shape, ?_, ne_of_begins start (by decide) (by decide)⟩
  simp [isSpace, ne_of_begins start]

/-- What begins like a number is read as a scalar. -/
theorem readValue_eq (begins : BeginsNumber characters) (steps room : Nat) (rest : Rest) :
    readValue (steps + 1) room (characters ++ rest) = readScalar (characters ++ rest) := by
  have ⟨first, behind, shape, start⟩ := begins
  rw [shape, List.cons_append, readValue]
  · intro _ same
    exact ne_of_begins start (by decide) (by decide) (List.cons.inj same).1
  · intro _ same
    exact ne_of_begins start (by decide) (by decide) (List.cons.inj same).1
  · intro _ same
    exact ne_of_begins start (by decide) (by decide) (List.cons.inj same).1

end BeginsNumber

theorem beginsNumber_writeInt (number : Int) :
    BeginsNumber (Number.writeInt number).toList := by
  rw [Number.toList_writeInt]
  exact BeginsNumber.of_isDigit _ (Number.decimalDigits_ne_nil _)
    fun _ found => Number.isDigit_decimalDigits (List.mem_of_head? found)

theorem beginsNumber_writeFloat (number : Float) : BeginsNumber (writeFloat number) := by
  unfold writeFloat
  split
  · exact ⟨'N', _, rfl, Or.inr (by decide)⟩
  split
  · rename_i finite
    have ⟨written, decimal, shape, _⟩ := Number.exists_written finite
    rw [shape]
    exact BeginsNumber.of_isDigit _ decimal.hasDigitEnds.nonempty decimal.hasDigitEnds.first
  split
  · exact ⟨'-', _, rfl, Or.inr (by decide)⟩
  · exact ⟨'I', _, rfl, Or.inr (by decide)⟩

/-- Whether a text is read as a document, in front of whatever ends a number. -/
structure ReadsAs (room : Nat) (characters : List Char) (document : Document) : Prop where
  begins : BeginsItem characters
  reads : ∀ steps rest, EndsNumber rest → 2 * characters.length ≤ steps →
    readValue steps room (characters ++ rest) = .ok (document, rest)

/-- For what begins a text there is a step to be had. -/
theorem ReadsAs.of_step {room : Nat} {characters : List Char} {document : Document}
    (begins : BeginsItem characters)
    (reads : ∀ steps rest, EndsNumber rest → 2 * characters.length ≤ steps + 1 →
      readValue (steps + 1) room (characters ++ rest) = .ok (document, rest)) :
    ReadsAs room characters document where
  begins
  reads steps rest ends enough := by
    have ⟨first, behind, shape, _⟩ := begins
    have some : 0 < characters.length := by
      rw [shape]
      exact Nat.succ_pos _
    obtain ⟨steps, rfl⟩ : ∃ before, steps = before + 1 := ⟨steps - 1, by omega⟩
    exact reads steps rest ends enough

section Steps

variable {steps room : Nat} {characters behind rest remaining : Rest} {value : Document}
  {values : List Document} {key : String} {pairs : List (String × Document)}

theorem readItems_last (read : readValue steps room characters = .ok (value, behind))
    (closed : skipSpace behind = ']' :: rest) :
    readItems (steps + 1) room characters = .ok ([value], rest) := by
  rw [readItems, read]
  simp only [bind, Except.bind, closed]
  rfl

theorem readItems_comma (read : readValue steps room characters = .ok (value, behind))
    (comma : skipSpace behind = ',' :: rest)
    (more : readItems steps room (skipSpace rest) = .ok (values, remaining)) :
    readItems (steps + 1) room characters = .ok (value :: values, remaining) := by
  rw [readItems, read]
  simp only [bind, Except.bind, comma, more]
  rfl

theorem readEntries_last (style : Style) (name : String)
    (read : readValue steps room (skipSpace characters) = .ok (value, behind))
    (closed : skipSpace behind = '\x7d' :: rest) :
    readEntries (steps + 1) room (writeText style name ++ ':' :: characters) =
      .ok ([(name, value)], rest) := by
  rw [writeText_eq, List.cons_append, readEntries]
  simp only [bind, Except.bind, readText_writeText,
    skipSpace_of_head (by decide : isSpace ':' = false), read, closed, String.ofList_toList]
  rfl

theorem readEntries_comma (style : Style) (name : String)
    (read : readValue steps room (skipSpace characters) = .ok (value, behind))
    (comma : skipSpace behind = ',' :: rest)
    (more : readEntries steps room (skipSpace rest) = .ok (pairs, remaining)) :
    readEntries (steps + 1) room (writeText style name ++ ':' :: characters) =
      .ok ((name, value) :: pairs, remaining) := by
  rw [writeText_eq, List.cons_append, readEntries]
  simp only [bind, Except.bind, readText_writeText,
    skipSpace_of_head (by decide : isSpace ':' = false), read, comma, more, String.ofList_toList]
  rfl

theorem readValue_array (begins : BeginsItem (skipSpace characters))
    (read : readItems steps room (skipSpace characters) = .ok (values, remaining)) :
    readValue (steps + 1) (room + 1) ('[' :: characters) = .ok (.array values, remaining) := by
  have ⟨first, behind, shape, _, noBracket⟩ := begins
  rw [shape] at read
  rw [readValue]
  simp only [shape]
  split
  · rename_i same
    exact absurd (List.cons.inj same).1 noBracket
  · simp only [bind, Except.bind, read]
    rfl

theorem readValue_table (begins : skipSpace characters = '\x22' :: behind)
    (distinct : (Entries.keys pairs).Nodup)
    (read : readEntries steps room (skipSpace characters) = .ok (pairs, remaining)) :
    readValue (steps + 1) (room + 1) ('\x7b' :: characters) = .ok (.table pairs, remaining) := by
  rw [begins] at read
  rw [readValue]
  simp only [begins]
  change (readEntries steps room ('\x22' :: behind) >>= _) = _
  simp only [bind, Except.bind, read, Entries.ofPairs_of_nodup distinct]
  rfl

end Steps

/-- Texts with commas in between, and a gap behind each comma. -/
def separated (gap : List Char) : List (List Char) → List Char
  | [] => []
  | [part] => part
  | part :: rest => part ++ ',' :: gap ++ separated gap rest

theorem separated_cons_cons (gap part next : List Char) (rest : List (List Char)) :
    separated gap (part :: next :: rest) = part ++ ',' :: gap ++ separated gap (next :: rest) :=
  rfl

theorem separated_eq_append (gap part : List Char) (rest : List (List Char)) :
    ∃ behind, separated gap (part :: rest) = part ++ behind := by
  cases rest with
  | nil => exact ⟨[], (List.append_nil part).symm⟩
  | cons next rest => exact ⟨_, List.append_assoc _ _ _⟩

/-- An entry of a table. -/
def entryText (style : Style) (write : Document → List Char) (entry : String × Document) :
    List Char :=
  writeText style entry.1 ++ ':' :: ' ' :: write entry.2

section Items

variable {room : Nat} {write : Document → List Char} {style : Style} {gap before outer : List Char}
  {items : List Document} {entries : List (String × Document)}

theorem beginsItem_separated (nonempty : items ≠ [])
    (each : ∀ item ∈ items, ReadsAs room (write item) item) (gap : List Char) :
    BeginsItem (separated gap (items.map write)) := by
  cases items with
  | nil => exact absurd rfl nonempty
  | cons item items =>
      have ⟨behind, shape⟩ := separated_eq_append gap (write item) (items.map write)
      rw [List.map_cons, shape]
      exact (each item List.mem_cons_self).begins.append behind

theorem separated_entries_eq (style : Style) (write : Document → List Char) (gap : List Char)
    (nonempty : entries ≠ []) :
    ∃ rest, separated gap (entries.map (entryText style write)) = '\x22' :: rest := by
  cases entries with
  | nil => exact absurd rfl nonempty
  | cons entry entries =>
      have ⟨behind, shape⟩ :=
        separated_eq_append gap (entryText style write entry) (entries.map (entryText style write))
      exact ⟨_, shape⟩

theorem readItems_separated (nonempty : items ≠ [])
    (each : ∀ item ∈ items, ReadsAs room (write item) item) (spaces : IsGap gap)
    (closing : IsGap outer) (rest : Rest) {steps : Nat}
    (enough : 2 * (separated gap (items.map write)).length + 1 ≤ steps) :
    readItems steps room (separated gap (items.map write) ++ (outer ++ ']' :: rest)) =
      .ok (items, rest) := by
  induction items generalizing steps with
  | nil => exact absurd rfl nonempty
  | cons item items induction =>
      cases steps with
      | zero => omega
      | succ steps =>
          have first := (each item List.mem_cons_self).reads
          cases items with
          | nil =>
              apply readItems_last
              · apply first steps _ (closing.endsNumber (endsNumber_mark (by decide) rest))
                change 2 * (write item).length + 1 ≤ steps + 1 at enough
                omega
              · rw [closing.skipSpace_eq, skipSpace_of_head (by decide)]
          | cons next items =>
              have others : ∀ item ∈ next :: items, ReadsAs room (write item) item :=
                fun item inside => each item (List.mem_cons_of_mem _ inside)
              have begins := (beginsItem_separated (List.cons_ne_nil next items) others gap).append
                (outer ++ ']' :: rest)
              rw [List.map_cons, List.map_cons, separated_cons_cons, ← List.map_cons] at enough ⊢
              simp only [List.length_append, List.length_cons] at enough
              simp only [List.append_assoc, List.cons_append]
              apply readItems_comma
              · exact first steps _ (endsNumber_mark (by decide) _) (by omega)
              · exact skipSpace_of_head (by decide) _
              · rw [spaces.skipSpace_eq, begins.skipSpace_eq]
                exact induction (List.cons_ne_nil next items) others (by omega)

theorem readEntries_separated (nonempty : entries ≠ [])
    (each : ∀ entry ∈ entries, ReadsAs room (write entry.2) entry.2) (spaces : IsGap gap)
    (closing : IsGap outer) (rest : Rest) {steps : Nat}
    (enough : 2 * (separated gap (entries.map (entryText style write))).length + 1 ≤ steps) :
    readEntries steps room
        (separated gap (entries.map (entryText style write)) ++ (outer ++ '\x7d' :: rest)) =
      .ok (entries, rest) := by
  induction entries generalizing steps with
  | nil => exact absurd rfl nonempty
  | cons entry entries induction =>
      cases steps with
      | zero => omega
      | succ steps =>
          obtain ⟨name, value⟩ := entry
          have first : ReadsAs room (write value) value := each (name, value) List.mem_cons_self
          have begins (behind : Rest) :
              skipSpace (' ' :: (write value ++ behind)) = write value ++ behind :=
            (first.begins.append behind).skipSpace_eq
          cases entries with
          | nil =>
              change 2 * (writeText style name ++ ':' :: ' ' :: write value).length + 1 ≤ steps + 1
                at enough
              simp only [List.length_append, List.length_cons] at enough
              simp only [List.map_cons, List.map_nil, separated, entryText, List.append_assoc,
                List.cons_append]
              apply readEntries_last
              · rw [begins]
                exact first.reads steps _ (closing.endsNumber (endsNumber_mark (by decide) rest))
                  (by omega)
              · rw [closing.skipSpace_eq, skipSpace_of_head (by decide)]
          | cons next entries =>
              have ⟨behind, shape⟩ :=
                separated_entries_eq style write gap (List.cons_ne_nil next entries)
              rw [List.map_cons, List.map_cons, separated_cons_cons, ← List.map_cons, entryText]
                at enough ⊢
              simp only [List.length_append, List.length_cons] at enough
              simp only [List.append_assoc, List.cons_append]
              apply readEntries_comma
              · rw [begins]
                exact first.reads steps _ (endsNumber_mark (by decide) _) (by omega)
              · exact skipSpace_of_head (by decide) _
              · rw [spaces.skipSpace_eq, shape, List.cons_append, skipSpace_of_head (by decide),
                  ← List.cons_append, ← shape]
                apply induction (List.cons_ne_nil next entries) _ (by omega)
                exact fun entry inside => each entry (List.mem_cons_of_mem _ inside)

theorem readsAs_array (nonempty : items ≠ [])
    (each : ∀ item ∈ items, ReadsAs room (write item) item) (opening : IsGap before)
    (spaces : IsGap gap) (closing : IsGap outer) :
    ReadsAs (room + 1) ('[' :: (before ++ (separated gap (items.map write) ++ (outer ++ [']']))))
      (.array items) := by
  have begins := beginsItem_separated nonempty each gap
  apply ReadsAs.of_step ⟨'[', _, rfl, by decide, by decide⟩
  intro steps rest ends enough
  simp only [List.length_append, List.length_cons] at enough
  simp only [List.cons_append, List.append_assoc]
  apply readValue_array
  · rw [opening.skipSpace_eq, (begins.append _).skipSpace_eq]
    exact begins.append _
  · rw [opening.skipSpace_eq, (begins.append _).skipSpace_eq]
    exact readItems_separated nonempty each spaces closing rest (by omega)

theorem readsAs_table (nonempty : entries ≠ []) (distinct : (Entries.keys entries).Nodup)
    (each : ∀ entry ∈ entries, ReadsAs room (write entry.2) entry.2) (opening : IsGap before)
    (spaces : IsGap gap) (closing : IsGap outer) :
    ReadsAs (room + 1)
      ('\x7b' ::
        (before ++ (separated gap (entries.map (entryText style write)) ++ (outer ++ ['\x7d']))))
      (.table entries) := by
  have ⟨behind, begins⟩ := separated_entries_eq style write gap nonempty
  have opened (remaining : Rest) : skipSpace (before ++
      (separated gap (entries.map (entryText style write)) ++ remaining)) =
      separated gap (entries.map (entryText style write)) ++ remaining := by
    rw [opening.skipSpace_eq, begins, List.cons_append, skipSpace_of_head (by decide)]
  apply ReadsAs.of_step ⟨'\x7b', _, rfl, by decide, by decide⟩
  intro steps rest ends enough
  simp only [List.length_append, List.length_cons] at enough
  simp only [List.cons_append, List.append_assoc]
  apply readValue_table _ distinct
  · rw [opened]
    exact readEntries_separated nonempty each spaces closing rest (by omega)
  · exact behind ++ (outer ++ '\x7d' :: rest)
  · rw [opened, begins]
    rfl

end Items

/-- What is neither an array nor a table is read back, if it is no integer that is too long. -/
theorem readsAs_scalar {document : Document} (keeps : Keeps 0 document)
    (short : ∀ value, document = .int value → isTooLong value = false) (style : Style)
    (room : Nat) : ReadsAs room (compact style document) document := by
  cases keeps with
  | null => exact .of_step ⟨'n', _, rfl, by decide, by decide⟩ fun _ _ _ _ => rfl
  | bool value =>
      cases value with
      | true => exact .of_step ⟨'t', _, rfl, by decide, by decide⟩ fun _ _ _ _ => rfl
      | false => exact .of_step ⟨'f', _, rfl, by decide, by decide⟩ fun _ _ _ _ => rfl
  | int value =>
      apply ReadsAs.of_step (beginsNumber_writeInt value).beginsItem
      intro steps rest ends _
      exact ((beginsNumber_writeInt value).readValue_eq _ _ _).trans
        (readScalar_writeInt ends (short value rfl))
  | float value =>
      apply ReadsAs.of_step (beginsNumber_writeFloat value).beginsItem
      intro steps rest ends _
      exact ((beginsNumber_writeFloat value).readValue_eq _ _ _).trans
        (readScalar_writeFloat value ends)
  | text value =>
      apply ReadsAs.of_step ⟨'\x22', _, rfl, by decide, by decide⟩
      intro steps rest _ _
      change readValue (steps + 1) _ (writeText style value ++ rest) = _
      rw [writeText_eq, List.cons_append, readValue]
      simp only [bind, Except.bind, readText_writeText, String.ofList_toList]
      rfl

/-! ## Where items are set apart -/

theorem indentedItems_eq (style : Style) (level : Nat) (items : List Document) :
    indentedItems style level items =
      separated (newLine level) (items.map (indented style level)) := by
  induction items with
  | nil => rfl
  | cons item items induction =>
      cases items with
      | nil => rfl
      | cons next items =>
          rw [indentedItems, induction]
          · rfl
          · exact List.cons_ne_nil next items

theorem indentedEntries_eq (style : Style) (level : Nat) (entries : List (String × Document)) :
    indentedEntries style level entries =
      separated (newLine level) (entries.map (entryText style (indented style level))) := by
  induction entries with
  | nil => rfl
  | cons entry entries induction =>
      obtain ⟨name, value⟩ := entry
      cases entries with
      | nil => rfl
      | cons next entries =>
          rw [indentedEntries, induction]
          · rfl
          · exact List.cons_ne_nil next entries

section Broken

variable {level : Nat} {lead : List Char}

theorem brokenOff?_of_brokenItems? {items : List Document}
    (whole : brokenItems? .ascii level lead items = none) :
    ∀ item ∈ items, brokenOff? .ascii level item = none := by
  induction items generalizing lead with
  | nil => exact fun _ inside => absurd inside List.not_mem_nil
  | cons item items induction =>
      rw [brokenItems?] at whole
      split at whole
      · cases whole
      · rename_i first
        have others := induction (Option.map_eq_none_iff.mp whole)
        intro other inside
        rcases List.mem_cons.mp inside with same | behind
        · rw [same]
          exact first
        · exact others other behind

theorem brokenOff?_of_brokenEntries? {entries : List (String × Document)}
    (whole : brokenEntries? .ascii level lead entries = none) :
    ∀ entry ∈ entries, brokenOff? .ascii level entry.2 = none := by
  induction entries generalizing lead with
  | nil => exact fun _ inside => absurd inside List.not_mem_nil
  | cons entry entries induction =>
      obtain ⟨key, value⟩ := entry
      simp only [brokenEntries?] at whole
      split at whole
      · cases whole
      · rename_i first
        have others := induction (Option.map_eq_none_iff.mp whole)
        intro other inside
        rcases List.mem_cons.mp inside with same | behind
        · rw [same]
          exact first
        · exact others other behind

end Broken

/-- No integer of a document is too long that is written to its end. -/
theorem isTooLong_of_brokenOff? {level : Nat} {document : Document}
    (whole : brokenOff? .ascii level document = none) :
    ∀ value, document = .int value → isTooLong value = false := by
  rintro value rfl
  simpa [brokenOff?] using whole

theorem readsAs_empty_array (room : Nat) : ReadsAs (room + 1) ['[', ']'] (.array []) :=
  .of_step ⟨'[', _, rfl, by decide, by decide⟩ fun _ _ _ _ => rfl

theorem readsAs_empty_table (room : Nat) : ReadsAs (room + 1) ['\x7b', '\x7d'] (.table []) :=
  .of_step ⟨'\x7b', _, rfl, by decide, by decide⟩ fun _ _ _ _ => rfl

/-- A document that JSON keeps is read back from wherever it is written over several lines. -/
theorem readsAs_indented {room : Nat} {document : Document} (keeps : Keeps room document)
    (level : Nat) (whole : brokenOff? .ascii level document = none) :
    ReadsAs room (indented .ascii level document) document := by
  induction keeps generalizing level with
  | null => exact readsAs_scalar .null (isTooLong_of_brokenOff? whole) .ascii _
  | bool value => exact readsAs_scalar (.bool value) (isTooLong_of_brokenOff? whole) .ascii _
  | int value => exact readsAs_scalar (.int value) (isTooLong_of_brokenOff? whole) .ascii _
  | float value => exact readsAs_scalar (.float value) (isTooLong_of_brokenOff? whole) .ascii _
  | text value => exact readsAs_scalar (.text value) (isTooLong_of_brokenOff? whole) .ascii _
  | array inside induction =>
      rename_i items
      cases items with
      | nil => exact readsAs_empty_array _
      | cons item items =>
          have each := brokenOff?_of_brokenItems? whole
          have read := readsAs_array (List.cons_ne_nil item items)
            (fun item inside => induction item inside (level + 1) (each item inside))
            (isGap_newLine (level + 1)) (isGap_newLine (level + 1)) (isGap_newLine level)
          rw [← indentedItems_eq] at read
          simpa [indented] using read
  | table distinct inside induction =>
      rename_i entries
      cases entries with
      | nil => exact readsAs_empty_table _
      | cons entry entries =>
          have each := brokenOff?_of_brokenEntries? whole
          have read := @readsAs_table _ _ .ascii _ _ _ _ (List.cons_ne_nil entry entries) distinct
            (fun entry inside => induction entry inside (level + 1) (each entry inside))
            (isGap_newLine (level + 1)) (isGap_newLine (level + 1)) (isGap_newLine level)
          rw [← indentedEntries_eq] at read
          simpa [indented] using read

/-- A text that is read as a document holds it, also in front of spaces. -/
theorem ReadsAs.readCharacters_eq {characters gap : List Char} {document : Document}
    (read : ReadsAs nestingRoom characters document) (spaces : IsGap gap) :
    readCharacters (characters ++ gap) = .ok document := by
  have ends : EndsNumber (gap ++ []) := spaces.endsNumber fun _ found => by cases found
  rw [List.append_nil] at ends
  have found := read.reads (2 * (characters ++ gap).length + 2) gap ends
    (by rw [List.length_append]; omega)
  have none : skipSpace gap = [] := by
    rw [← List.append_nil gap, spaces.skipSpace_eq]
    rfl
  rw [readCharacters, (read.begins.append gap).skipSpace_eq]
  simp only [found, bind, Except.bind, none]
  rfl

/-- What a file holds of a document that JSON keeps is this document. -/
theorem read_writeFile {document : Document} (keeps : Keeps nestingRoom document)
    (writable : isWritable document = true) : read (writeFile document) = .ok document := by
  have whole : brokenOff? .ascii 0 document = none := Option.isNone_iff_eq_none.mp writable
  rw [Json.read, writeFile, whole, Option.getD_none, String.toList_ofList]
  exact (readsAs_indented keeps 0 whole).readCharacters_eq (isGap_newLine 0)

end Document.Json

end EngineBridge
