import EngineBridge.Proofs.Entries
import EngineBridge.Proofs.Files.Bundled
import EngineBridge.Proofs.TypeClass.SizeLines

/-!
Size tables as they are written.

`IsWritten` says which texts are tables of given names and sizes: blanks may stand around the parts
of an entry, blank lines and comments between entries, and any line ending behind a line. Main
statement: such a table is read back as these names and sizes in their order, and a name that occurs
again has the size that it was given last.
-/

namespace EngineBridge

namespace SizeTable

/-- Whether a name can stand in a table. -/
structure IsName (name : List Char) : Prop where
  nonempty : name ≠ []
  first : ∀ character ∈ name.head?, Text.isBlank character = false ∧ character ≠ '#'
  last : ∀ character ∈ name.getLast?, Text.isBlank character = false
  undivided : '=' ∉ name
  plain : ∀ character ∈ name, Text.isLineBoundary character = false

/-- Whether a name and a size can stand in a table: the size has no more digits than can be read. -/
structure IsWritable (pair : String × Nat) : Prop where
  name : IsName pair.1.toList
  size : (Number.decimalDigits pair.2).length ≤ Number.digitLimit

instance (name : List Char) : Decidable (IsName name) :=
  decidable_of_iff (name ≠ [] ∧
      (name.head?.all fun character => !Text.isBlank character && character != '#') = true ∧
      (name.getLast?.all fun character => !Text.isBlank character) = true ∧ '=' ∉ name ∧
      (name.all fun character => !Text.isLineBoundary character) = true)
    ⟨fun ⟨nonempty, first, last, undivided, plain⟩ =>
        ⟨nonempty, by simpa [Option.all_eq_true] using first,
          by simpa [Option.all_eq_true] using last, undivided, by simpa using plain⟩,
      fun ⟨nonempty, first, last, undivided, plain⟩ =>
        ⟨nonempty, by simpa [Option.all_eq_true] using first,
          by simpa [Option.all_eq_true] using last, undivided, by simpa using plain⟩⟩

instance (pair : String × Nat) : Decidable (IsWritable pair) :=
  decidable_of_iff (IsName pair.1.toList ∧ _) ⟨fun ⟨name, size⟩ => ⟨name, size⟩,
    fun ⟨name, size⟩ => ⟨name, size⟩⟩

/-- Blanks that do not end a line, such as spaces and tabs. -/
def IsMargin (characters : List Char) : Prop :=
  ∀ character ∈ characters,
    Text.isBlank character = true ∧ Text.isLineBoundary character = false

instance (characters : List Char) : Decidable (IsMargin characters) :=
  List.decidableBAll _ characters

example : IsMargin " \t".toList := by decide

/-- An entry without the blanks around it, but with those around its equals sign. -/
def bareEntry (pair : String × Nat) (before behind : List Char) : List Char :=
  pair.1.toList ++ before ++ '=' :: (behind ++ Number.decimalDigits pair.2)

/-- How a line of a table is written: nothing, a comment or an entry. -/
inductive IsRow : List Char → List (String × Nat) → Prop
  | blank {margin : List Char} (isMargin : IsMargin margin) : IsRow margin []
  | comment {margin text : List Char} (isMargin : IsMargin margin)
      (plain : ∀ character ∈ text, Text.isLineBoundary character = false) :
      IsRow (margin ++ '#' :: text) []
  | entry {pair : String × Nat} (writable : IsWritable pair) {left before behind right : List Char}
      (isLeft : IsMargin left) (isBefore : IsMargin before) (isBehind : IsMargin behind)
      (isRight : IsMargin right) :
      IsRow (left ++ bareEntry pair before behind ++ right) [pair]

/-- How a table is written: line by line, where the last line need not be ended. -/
inductive IsWritten : List Char → List (String × Nat) → Prop
  | last {row : List Char} {pairs : List (String × Nat)} (isRow : IsRow row pairs) :
      IsWritten row pairs
  | line {row ending rest : List Char} {pairs others : List (String × Nat)} (isRow : IsRow row pairs)
      (ends : Text.IsLineEnding ending) (written : IsWritten rest others) :
      IsWritten (row ++ ending ++ rest) (pairs ++ others)

/-- An entry as it is written without more ado. -/
def entryLine (pair : String × Nat) : String :=
  String.ofList (bareEntry pair [' '] [' '])

example : entryLine ("Vector2", 8) = "Vector2 = 8" := by decide +kernel

/-- The plain way to write a table. -/
def write (pairs : List (String × Nat)) : String :=
  String.join ((pairs.map entryLine).map fun line => line ++ "\n")

/-- The table of the sizes that a text gives. -/
def sizesOf (text : String) : Except Failure SizeTable :=
  return Entries.ofPairs (← read text)

/-- A size as it is read. -/
def sized (pair : String × Nat) : String × Size :=
  (pair.1, .bytes pair.2)

variable {line text : List Char} {pairs : List (String × Nat)}

/-! ## Lines -/

/-- A line of a table has no boundary in it. -/
theorem IsRow.plain (isRow : IsRow line pairs) :
    ∀ character ∈ line, Text.isLineBoundary character = false := by
  cases isRow with
  | blank isMargin => exact fun character inside => (isMargin character inside).2
  | comment isMargin plain =>
      simp only [List.forall_mem_append, List.forall_mem_cons]
      exact ⟨fun character inside => (isMargin character inside).2, by decide, plain⟩
  | entry writable isLeft isBefore isBehind isRight =>
      simp only [bareEntry, List.forall_mem_append, List.forall_mem_cons]
      exact ⟨⟨fun character inside => (isLeft character inside).2,
        ⟨writable.name.plain, fun character inside => (isBefore character inside).2⟩, by decide,
        fun character inside => (isBehind character inside).2,
        fun digit inside => Number.isLineBoundary_of_isDigit (Number.isDigit_decimalDigits inside)⟩,
        fun character inside => (isRight character inside).2⟩

theorem IsMargin.isBlank {margin : List Char} (isMargin : IsMargin margin) :
    ∀ character ∈ margin, Text.isBlank character = true :=
  fun character inside => (isMargin character inside).1

theorem IsMargin.isIdle {margin : List Char} (isMargin : IsMargin margin) : IsIdle margin := by
  have trimmed : Text.trim (margin ++ [] ++ []) = [] :=
    Text.trimWhere_surrounded isMargin.isBlank (by simp) (by simp) (by simp)
  rw [List.append_nil, List.append_nil] at trimmed
  exact .inl trimmed

theorem isIdle_comment {margin : List Char} (isMargin : IsMargin margin) (text : List Char) :
    IsIdle (margin ++ '#' :: text) :=
  .inr (Text.head?_trimWhere_append isMargin.isBlank (by decide))

theorem isBlank_of_mem_decimalDigits {number : Nat} {digit : Char}
    (inside : digit ∈ Number.decimalDigits number) : Text.isBlank digit = false :=
  Text.isBlank_of_isDigitLike
    (Number.isDigitLike_of_isDigit (Number.isDigit_decimalDigits inside))

section

variable {pair : String × Nat} {left before behind right : List Char}

/-- The parts of an entry are what is left of it without the blanks around them. -/
theorem trim_entry (writable : IsWritable pair) (isLeft : IsMargin left) (isRight : IsMargin right)
    (before behind : List Char) :
    Text.trim (left ++ bareEntry pair before behind ++ right) = bareEntry pair before behind := by
  unfold bareEntry
  refine Text.trimWhere_surrounded isLeft.isBlank isRight.isBlank ?_ ?_
  · intro character found
    rw [List.append_assoc, List.head?_append_of_ne_nil _ writable.name.nonempty] at found
    exact (writable.name.first character found).1
  · intro character found
    rw [List.getLast?_append_of_ne_nil _ (by simp), ← List.cons_append,
      List.getLast?_append_of_ne_nil _ (Number.decimalDigits_ne_nil _)] at found
    exact isBlank_of_mem_decimalDigits (List.mem_of_getLast? found)

theorem not_isIdle_entry (writable : IsWritable pair) (isLeft : IsMargin left)
    (isRight : IsMargin right) (before behind : List Char) :
    ¬IsIdle (left ++ bareEntry pair before behind ++ right) := by
  rw [IsIdle, trim_entry writable isLeft isRight, bareEntry, List.append_assoc,
    List.head?_append_of_ne_nil _ writable.name.nonempty]
  rintro (blank | comment)
  · exact writable.name.nonempty (List.append_eq_nil_iff.mp blank).1
  · exact (writable.name.first '#' comment).2 rfl

theorem divides_entry (writable : IsWritable pair) (isLeft : IsMargin left)
    (isBefore : IsMargin before) (isBehind : IsMargin behind) (isRight : IsMargin right) :
    Divides (left ++ bareEntry pair before behind ++ right) pair.1.toList
      (Number.decimalDigits pair.2) := by
  have undivided : '=' ∉ pair.1.toList ++ before := by
    rw [List.mem_append, not_or]
    exact ⟨writable.name.undivided, fun inside => absurd (isBefore _ inside).1 (by decide)⟩
  have divides := Divides.intro (trim_entry writable isLeft isRight before behind) undivided
  have name : Text.trim ([] ++ pair.1.toList ++ before) = pair.1.toList :=
    Text.trimWhere_surrounded (by simp) isBefore.isBlank
      (fun character found => (writable.name.first character found).1) writable.name.last
  have size : Text.trim (behind ++ Number.decimalDigits pair.2 ++ []) =
      Number.decimalDigits pair.2 :=
    Text.trimWhere_surrounded isBehind.isBlank (by simp)
      (fun _ found => isBlank_of_mem_decimalDigits (List.mem_of_head? found))
      (fun _ found => isBlank_of_mem_decimalDigits (List.mem_of_getLast? found))
  rw [List.nil_append] at name
  rw [List.append_nil] at size
  rwa [name, size] at divides

end

/-- What a line of a table adds to what is read. -/
theorem IsRow.readLines_eq (isRow : IsRow line pairs) (number : Nat) (rest : List (List Char)) :
    readLines number (line :: rest) =
      (readLines (number + 1) rest).map (pairs.map sized ++ ·) := by
  have nothing : readLines (number + 1) rest = (readLines (number + 1) rest).map ([] ++ ·) := by
    cases readLines (number + 1) rest <;> rfl
  cases isRow with
  | blank isMargin => rwa [readLines_of_isIdle number rest isMargin.isIdle]
  | comment isMargin _ => rwa [readLines_of_isIdle number rest (isIdle_comment isMargin _)]
  | @entry pair writable left before behind right isLeft isBefore isBehind isRight =>
      have digits : ∀ digit ∈ Number.decimalDigits pair.2, digit.isDigit = true :=
        fun _ inside => Number.isDigit_decimalDigits inside
      have run : IsRunOf Text.isDigitLike (Number.decimalDigits pair.2) :=
        ⟨Number.decimalDigits_ne_nil _, fun digit inside =>
          Number.isDigitLike_of_isDigit (digits digit inside)⟩
      have reads : Number.readInt? (Number.decimalDigits pair.2) = some (pair.2 : Int) := by
        simpa [Number.signCharacters] using
          Number.readInt?_of_digits false run.1 digits writable.size
      rw [readLines_of_divides number rest (not_isIdle_entry writable isLeft isRight before behind)
        (divides_entry writable isLeft isBefore isBehind isRight) writable.name.nonempty run, reads,
        String.ofList_toList]
      rfl

/-- A table is read line by line, wherever the count of its lines begins. -/
theorem IsWritten.readLines_eq (written : IsWritten text pairs) (number : Nat) :
    readLines number (Text.splitLines text) = .ok (pairs.map sized) := by
  induction written generalizing number with
  | @last row pairs isRow =>
      have single : readLines number [row] = .ok (pairs.map sized ++ []) :=
        isRow.readLines_eq number []
      rw [List.append_nil] at single
      rw [Text.splitLines_of_plain isRow.plain]
      split
      · next empty =>
          rwa [empty, readLines_of_isIdle number [] (.inl rfl)] at single
      · exact single
  | @line row ending rest pairs others isRow ends written induction =>
      rcases Text.splitLines_line_append isRow.plain ends rest with apart | ⟨behind, feed, joined⟩
      · rw [apart, isRow.readLines_eq, induction, List.map_append]
        rfl
      · -- the line feed that was meant to end a line of its own counts for nothing
        have same : readLines (number + 1) (Text.splitLines behind) = .ok (others.map sized) := by
          rw [← induction number, feed, Text.splitLines_feed, readLines_of_isIdle number _ (.inl rfl)]
        rw [joined, isRow.readLines_eq, same, List.map_append]
        rfl

theorem isRow_entryLine {pair : String × Nat} (writable : IsWritable pair) :
    IsRow (entryLine pair).toList [pair] := by
  have space : IsMargin [' '] := by decide
  have nothing : IsMargin [] := by decide
  rw [entryLine, String.toList_ofList]
  have isRow := IsRow.entry writable nothing space space nothing
  rwa [List.nil_append, List.append_nil] at isRow

/-- Whatever can be written is written in the plain way. -/
theorem isWritten_write (writable : ∀ pair ∈ pairs, IsWritable pair) :
    IsWritten (write pairs).toList pairs := by
  rw [write, Settings.toList_join_lines]
  induction pairs with
  | nil => exact .last (.blank (by decide))
  | cons pair pairs induction =>
      have ⟨here, others⟩ := List.forall_mem_cons.mp writable
      have feed : Text.IsLineEnding ['\n'] := .single (by decide)
      exact .line (isRow_entryLine here) feed (induction others)

set_option maxRecDepth 20000 in
/-- The bundled entries are those of the bundled text. -/
theorem read_bundledText : read bundledText = .ok bundled := by
  rw [read, bundledText, Settings.toList_join_lines]
  with_unfolding_all rfl

/-- Names and sizes that are written as a table, in whatever layout, are read back as they are. In
the table of sizes, which comes of the bundled text in the same way, each name stands where it came
first, with the size that it was given last. -/
theorem read_of_isWritten (pairs : List (String × Nat))
    (writable : ∀ pair ∈ pairs, IsWritable pair) :
    IsWritten (write pairs).toList pairs ∧
    (∀ text : String, IsWritten text.toList pairs →
      read text = .ok (pairs.map sized) ∧
      ∃ sizes, sizesOf text = .ok sizes ∧ sizes.keys = (pairs.map (·.1)).eraseDups ∧
        ∀ (before : List (String × Nat)) (name : String) (size : Nat) (after : List (String × Nat)),
          pairs = before ++ (name, size) :: after → name ∉ after.map (·.1) →
            sizes.get? name = some (.bytes size)) ∧
    configured .null = sizesOf bundledText := by
  refine ⟨isWritten_write writable, fun text written => ?_, ?_⟩
  · have reads : read text = .ok (pairs.map sized) := written.readLines_eq 1
    refine ⟨reads, .ofPairs (pairs.map sized), ?_, ?_, ?_⟩
    · rw [sizesOf, reads]
      rfl
    · rw [Entries.keys_ofPairs, Entries.keys, List.map_map]
      rfl
    · intro before name size after split last
      rw [split, List.map_append, List.map_cons]
      apply Entries.get?_ofPairs_of_last
      rwa [Entries.keys, List.map_map]
  · rw [sizesOf, read_bundledText]
    rfl

/-- A table with a name that occurs again, in which every line is laid out and ended in another
way. -/
theorem read_of_isWritten_of_layouts :
    let pairs := [("Vector2", 8), ("a b", 0), ("Vector2", 16)]
    let text := "\t# sizes = 1\r\nVector2\t=8 \u2028\n a b = 0\r \r\n\x0bVector2 = 16\t"
    (∀ pair ∈ pairs, IsWritable pair) ∧ IsWritten text.toList pairs ∧
      read text = .ok [("Vector2", .bytes 8), ("a b", .bytes 0), ("Vector2", .bytes 16)] ∧
      ∃ sizes, sizesOf text = .ok sizes ∧ sizes.get? "Vector2" = some (.bytes 16) := by
  intro pairs text
  have writable : ∀ pair ∈ pairs, IsWritable pair := by decide +kernel
  have nothing : IsMargin [] := by decide
  have space : IsMargin [' '] := by decide
  have written : IsWritten text.toList pairs := by
    have plain : (" sizes = 1".toList.all fun character => !Text.isLineBoundary character) = true :=
      by decide
    have comment : ∀ character ∈ " sizes = 1".toList, Text.isLineBoundary character = false := by
      intro character inside
      simpa using List.all_eq_true.mp plain character inside
    have tab : IsMargin ['\t'] := by decide
    have lines : IsWritten _ pairs :=
      .line (.comment tab comment) .both
      (.line (.entry (writable ("Vector2", 8) (by decide)) nothing tab nothing space)
        (.single (by decide : Text.isLineBoundary '\u2028' = true))
      (.line (.blank nothing) (.single (by decide : Text.isLineBoundary '\n' = true))
      (.line (.entry (writable ("a b", 0) (by decide)) space space space nothing)
        (.single (by decide : Text.isLineBoundary '\r' = true))
      (.line (.blank space) .both
      (.line (.blank nothing) (.single (by decide : Text.isLineBoundary '\x0b' = true))
      (.last (.entry (writable ("Vector2", 16) (by decide)) nothing space space tab)))))))
    convert lines using 1
    decide +kernel
  have ⟨_, layouts, _⟩ := read_of_isWritten pairs writable
  have ⟨reads, sizes, given, _, sized⟩ := layouts text written
  exact ⟨writable, written, reads, sizes, given,
    sized [("Vector2", 8), ("a b", 0)] "Vector2" 16 [] rfl (by simp)⟩

end SizeTable

end EngineBridge
