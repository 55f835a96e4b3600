import EngineBridge.Log.Layout
import EngineBridge.Proofs.Number.Digits

/-!
The color codes of a line.

A line that is colored has a code in front of its level column and one behind it. Main statement:
without these codes it is the plain line of the record.
-/

namespace EngineBridge.Log

/-! ## The stamp in front of the column -/

/-- A directive that is a letter and nothing else. -/
def Directive.bare (letter : Char) : Directive where
  filling := none
  isUpper := false
  isSwapped := false
  width := 0
  modifier := none
  letter := some letter
  written := ['%', letter]

theorem Directive.split_letter {letter : Char} (flag : Flags.isFlag letter = false)
    (digit : letter.isDigit = false) (modifier : isModifier letter = false) (rest : List Char) :
    split (letter :: rest) = (.bare letter, rest) := by
  simp [split, bare, flag, digit, Option.filter, modifier]

namespace Moment

variable {moment : Moment} {letter : Char} {digits : Nat} {value : Int}

theorem written_bare (numbered : moment.part? letter = some (.number digits value false))
    (write : String → List Char) :
    moment.written write (.bare letter) =
      TimePart.writeNumber (.bare letter) digits value false := by
  simp [written, Directive.bare, Directive.isModifiable, numbered, TimePart.write]

/-- A number of a stamp has digits, and a minus sign at most. -/
theorem bar_not_mem_writeNumber (letter : Char) (digits : Nat) (value : Int) :
    '|' ∉ TimePart.writeNumber (.bare letter) digits value false := by
  have padded (width number : Nat) : '|' ∉ Number.padded width number := by
    intro inside
    rcases List.mem_append.mp inside with zero | digit
    · exact absurd (List.eq_of_mem_replicate zero) (by decide)
    · exact Number.ne_of_isDigit (Number.isDigit_decimalDigits digit) (by decide) rfl
  simp only [TimePart.writeNumber, Directive.bare]
  split
  · exact List.not_mem_cons_of_ne_of_not_mem (by decide) (padded _ _)
  · exact padded _ _

/-- A stamp is numbers with marks between them, and a bar is none of these marks. -/
theorem bar_not_mem_stamp (moment : Moment) : '|' ∉ moment.stamp.toList := by
  have number (letter : Char) (digits : Nat) (value : Int) (rest : List Char) (steps : Nat)
      (flag : Flags.isFlag letter = false) (digit : letter.isDigit = false)
      (modifier : Directive.isModifier letter = false)
      (numbered : moment.part? letter = some (.number digits value false))
      (behind : '|' ∉ moment.writtenWithin (fun _ => []) steps rest) :
      '|' ∉ moment.writtenWithin (fun _ => []) (steps + 1) ('%' :: letter :: rest) := by
    simp only [writtenWithin]
    rw [Directive.split_letter flag digit modifier, written_bare numbered, List.mem_append, not_or]
    exact ⟨bar_not_mem_writeNumber letter digits value, behind⟩
  have mark (character : Char) (rest : List Char) (steps : Nat) (differs : '|' ≠ character)
      (stands : character ≠ '%')
      (behind : '|' ∉ moment.writtenWithin (fun _ => []) steps rest) :
      '|' ∉ moment.writtenWithin (fun _ => []) (steps + 1) (character :: rest) := by
    rw [writtenWithin]
    · exact List.not_mem_cons_of_ne_of_not_mem differs behind
    · exact stands
  rw [stamp, String.toList_ofList]
  change '|' ∉ moment.writtenWithin (fun _ => []) 18 _
  apply number 'Y' 1 moment.year _ _ rfl rfl rfl rfl
  apply mark '-' _ _ (by decide) (by decide)
  apply number 'm' 2 moment.month _ _ rfl rfl rfl rfl
  apply mark '-' _ _ (by decide) (by decide)
  apply number 'd' 2 moment.day _ _ rfl rfl rfl rfl
  apply mark ' ' _ _ (by decide) (by decide)
  apply number 'H' 2 moment.hour _ _ rfl rfl rfl rfl
  apply mark ':' _ _ (by decide) (by decide)
  apply number 'M' 2 moment.minute _ _ rfl rfl rfl rfl
  apply mark ':' _ _ (by decide) (by decide)
  apply number 'S' 2 moment.second _ _ rfl rfl rfl rfl
  exact List.not_mem_nil

end Moment

/-! ## Taking the codes off a line -/

/-- What follows the code that the characters begin with. A code ends with the letter `m`. -/
def behindCode (characters : List Char) : List Char :=
  (characters.dropWhile (· != 'm')).drop 1

/-- A line without the color codes around its second column. Codes elsewhere in it stay. -/
def withoutColor (line : String) : String :=
  let stamp := line.toList.takeWhile (· != '|')
  match line.toList.drop stamp.length with
  | '|' :: ' ' :: '\x1b' :: code =>
      let colored := behindCode code
      let column := colored.takeWhile (· != '\x1b')
      String.ofList (stamp ++ '|' :: ' ' :: (column ++ behindCode (colored.drop column.length)))
  | _ => line

/-- Whether a text is a color code. -/
def IsCode (code : String) : Prop :=
  ∃ body, code.toList = '\x1b' :: (body ++ ['m']) ∧ 'm' ∉ body

section

variable {mark : Char} {first rest : List Char}

theorem bne_of_not_mem (unmarked : mark ∉ first) :
    ∀ character ∈ first, (character != mark) = true := by
  intro character inside
  rw [bne_iff_ne]
  rintro rfl
  exact unmarked inside

theorem takeWhile_of_not_mem (unmarked : mark ∉ first) (rest : List Char) :
    (first ++ mark :: rest).takeWhile (· != mark) = first := by
  rw [List.takeWhile_append_of_pos (bne_of_not_mem unmarked), List.takeWhile_cons_of_neg (by simp),
    List.append_nil]

theorem behindCode_append (unended : 'm' ∉ first) (rest : List Char) :
    behindCode (first ++ 'm' :: rest) = rest := by
  rw [behindCode, List.dropWhile_append_of_pos (bne_of_not_mem unended),
    List.dropWhile_cons_of_neg (by simp)]
  rfl

end

section

variable {stamp column begins ends : String}

theorem withoutColor_of_codes (unbarred : '|' ∉ stamp.toList) (uncoded : '\x1b' ∉ column.toList)
    (beginsCode : IsCode begins) (endsCode : IsCode ends) (tail : String) :
    withoutColor (stamp ++ " | " ++ (begins ++ column ++ ends) ++ tail) =
      stamp ++ " | " ++ column ++ tail := by
  obtain ⟨body, isFirst, unended⟩ := beginsCode
  obtain ⟨other, isLast, unendedToo⟩ := endsCode
  have line : (stamp ++ " | " ++ (begins ++ column ++ ends) ++ tail).toList =
      (stamp.toList ++ [' ']) ++ '|' :: ' ' :: '\x1b' ::
        (body ++ 'm' :: (column.toList ++ '\x1b' :: (other ++ 'm' :: tail.toList))) := by
    simp [isFirst, isLast]
  have head : '|' ∉ stamp.toList ++ [' '] := by
    simp [unbarred]
  have behind : behindCode ('\x1b' :: (other ++ 'm' :: tail.toList)) = tail.toList :=
    @behindCode_append ('\x1b' :: other)
      (List.not_mem_cons_of_ne_of_not_mem (by decide) unendedToo) _
  rw [withoutColor, line, takeWhile_of_not_mem head, List.drop_left]
  simp only
  rw [behindCode_append unended, takeWhile_of_not_mem uncoded, List.drop_left, behind]
  apply String.toList_injective
  simp

theorem withoutColor_of_plain (unbarred : '|' ∉ stamp.toList) (uncoded : '\x1b' ∉ column.toList)
    (nonempty : column ≠ "") (tail : String) :
    withoutColor (stamp ++ " | " ++ column ++ tail) = stamp ++ " | " ++ column ++ tail := by
  have line : (stamp ++ " | " ++ column ++ tail).toList =
      (stamp.toList ++ [' ']) ++ '|' :: ' ' :: (column.toList ++ tail.toList) := by
    simp
  have head : '|' ∉ stamp.toList ++ [' '] := by
    simp [unbarred]
  rw [withoutColor, line, takeWhile_of_not_mem head, List.drop_left]
  dsimp only
  split
  · rename_i code same
    cases shown : column.toList with
    | nil => exact absurd (String.toList_eq_nil_iff.mp shown) nonempty
    | cons character others =>
        rw [shown] at same uncoded
        simp only [List.cons_append, List.cons.injEq, true_and] at same
        exact absurd (same.1 ▸ List.mem_cons_self) uncoded
  · rfl

end

/-! ## The lines of records -/

namespace Record

variable {record : Record}

theorem isCode_of_mem_colors {level : Int} {color : String} (inside : (level, color) ∈ colors) :
    IsCode color := by
  simp only [colors, List.mem_cons, Prod.mk.injEq, List.not_mem_nil, or_false] at inside
  rcases inside with ⟨_, rfl⟩ | ⟨_, rfl⟩ | ⟨_, rfl⟩ | ⟨_, rfl⟩ | ⟨_, rfl⟩
  · exact ⟨"[90".toList, rfl, by decide⟩
  · exact ⟨"[36".toList, rfl, by decide⟩
  · exact ⟨"[33".toList, rfl, by decide⟩
  · exact ⟨"[31".toList, rfl, by decide⟩
  · exact ⟨"[41".toList, rfl, by decide⟩

theorem isCode_colorEnd : IsCode colorEnd :=
  ⟨"[0".toList, rfl, by decide⟩

/-- A level column is plain, or it stands between two codes. -/
theorem levelColumn_cases (record : Record) (isColored : Bool) :
    record.levelColumn isColored = column record.levelName ∨
      ∃ color, IsCode color ∧
        record.levelColumn isColored = color ++ column record.levelName ++ colorEnd := by
  unfold levelColumn
  split
  · rename_i color found
    rw [Option.ite_none_right_eq_some] at found
    exact .inr ⟨color, isCode_of_mem_colors (mem_of_lookup found.2), rfl⟩
  · exact .inl rfl

theorem levelColumn_plain (record : Record) :
    record.levelColumn false = column record.levelName := rfl

theorem columnWidth_le_length (levelName : String) : columnWidth ≤ (column levelName).length := by
  rw [column, String.length_append, String.length_ofList, List.length_replicate]
  omega

theorem column_ne_empty (levelName : String) : column levelName ≠ "" := by
  intro empty
  have wide := columnWidth_le_length levelName
  rw [empty] at wide
  exact absurd wide (by decide)

/-- What is behind the level column in the text of a record. -/
def behindLevel (record : Record) : String :=
  record.withFailure
    (" | " ++ record.logger ++ ":" ++ Number.writeInt record.line ++ " | " ++ record.message)

theorem withFailure_append (record : Record) (first : String) {last : String}
    (nonempty : last ≠ "") :
    record.withFailure (first ++ last) = first ++ record.withFailure last := by
  have ending : (first ++ last).toList.getLast? = last.toList.getLast? := by
    rw [String.toList_append]
    apply List.getLast?_append_of_ne_nil
    exact fun empty => nonempty (String.toList_eq_nil_iff.mp empty)
  unfold withFailure
  rw [ending]
  split
  · rfl
  · split
    · rfl
    · split
      · exact String.append_assoc
      · simp only [String.append_assoc]

/-- Nothing of a line but its level column has to do with color. -/
theorem text_eq (record : Record) (isColored : Bool) :
    record.text isColored =
      record.stamp ++ " | " ++ record.levelColumn isColored ++ record.behindLevel := by
  have head : record.headline isColored =
      record.stamp ++ " | " ++ record.levelColumn isColored ++ (" | " ++ record.logger ++ ":" ++
        Number.writeInt record.line ++ " | " ++ record.message) := by
    simp only [headline, String.append_assoc]
  rw [text, head, withFailure_append, behindLevel]
  intro empty
  have length := congrArg String.length empty
  simp at length

/-- Without the codes around its level column the colored line of a record is the plain one. -/
theorem withoutColor_text (uncoded : '\x1b' ∉ record.levelName.toList) (isColored : Bool)
    (tail : String) :
    withoutColor (record.text isColored ++ tail) = record.text false ++ tail := by
  have unbarred : '|' ∉ record.stamp.toList := Moment.bar_not_mem_stamp _
  have uncodedColumn : '\x1b' ∉ (column record.levelName).toList := by
    simp [column, uncoded]
  have line (isColored : Bool) : record.text isColored ++ tail =
      record.stamp ++ " | " ++ record.levelColumn isColored ++ (record.behindLevel ++ tail) := by
    rw [text_eq, String.append_assoc]
  rw [line, line, levelColumn_plain]
  rcases record.levelColumn_cases isColored with plain | ⟨color, isCode, colored⟩
  · rw [plain]
    exact withoutColor_of_plain unbarred uncodedColumn (column_ne_empty _) _
  · rw [colored]
    exact withoutColor_of_codes unbarred uncodedColumn isCode isCode_colorEnd _

end Record

/-- No level has a color code in its name. -/
theorem Level.escape_not_mem_name (level : Int) : '\x1b' ∉ (Level.name level).toList := by
  have numbered : '\x1b' ∉ ("Level " ++ Number.writeInt level).toList := by
    rw [String.toList_append, List.mem_append, not_or]
    exact ⟨by decide, Number.not_mem_writeInt rfl (by decide) level⟩
  have named : ∀ entry ∈ Level.names, '\x1b' ∉ entry.2.toList := by
    simp [Level.names]
  unfold Level.name
  cases found : Level.names.lookup level with
  | none => exact numbered
  | some name => exact named (level, name) (mem_of_lookup found)

end EngineBridge.Log
