import EngineBridge.Proofs.Number.DigitRuns
import EngineBridge.TypeClass.Sizes

/-!
What the lines of a size table say, and which line a table fails at.

A line is idle, or it divides at its first equals sign into a name and a size. Whether it is refused
is decided by characters that stand for digits, and whether its size can be read by decimal digits.
Main statement: a table fails exactly at the first line that is not idle and has no size that can be
read. The failure tells which line that is, unless the size passes for a number without being one
that can be read.
-/

namespace EngineBridge

namespace SizeTable

variable {line name size : List Char} {number : Nat} {failure : Failure}

/-! ## What one line says -/

/-- Whether a line says nothing: it is blank, or a comment. -/
def IsIdle (line : List Char) : Prop :=
  Text.trim line = [] ∨ (Text.trim line).head? = some '#'

instance (line : List Char) : Decidable (IsIdle line) :=
  inferInstanceAs (Decidable (_ ∨ _))

/-- What stands before and behind the first equals sign of a line. Blanks around the line and around
either side do not count. -/
inductive Divides (line : List Char) : List Char → List Char → Prop
  | intro {left right : List Char} (split : Text.trim line = left ++ '=' :: right)
      (first : '=' ∉ left) : Divides line (Text.trim left) (Text.trim right)

/-- A run of characters of a class is not empty. -/
def IsRunOf (isDigit : Char → Bool) (size : List Char) : Prop :=
  size ≠ [] ∧ ∀ digit ∈ size, isDigit digit = true

/-- Whether a line gives a name, and a size of some form. -/
def Gives (IsSize : List Char → Prop) (line : List Char) : Prop :=
  ¬IsIdle line ∧ ∃ name size, Divides line name size ∧ name ≠ [] ∧ IsSize size

/-- Whether a line is an entry: its size is a run of decimal digits. -/
def IsEntry : List Char → Prop :=
  Gives (IsRunOf Text.isDecimalDigit)

/-- Whether a line passes for an entry: its size is a run of characters that stand for digits. -/
def PassesForEntry : List Char → Prop :=
  Gives (IsRunOf Text.isDigitLike)

/-- Whether a line is an entry whose size has no more digits than can be read. -/
def IsReadable : List Char → Prop :=
  Gives fun size => IsRunOf Text.isDecimalDigit size ∧ size.length ≤ Number.digitLimit

instance (isDigit : Char → Bool) (size : List Char) : Decidable (IsRunOf isDigit size) :=
  decidable_of_iff (size ≠ [] ∧ size.all isDigit = true) (and_congr_right' List.all_eq_true)

theorem Gives.mono {IsSize IsOther : List Char → Prop} (gives : Gives IsSize line)
    (weaker : ∀ size, IsSize size → IsOther size) : Gives IsOther line := by
  have ⟨speaks, name, size, divides, named, sized⟩ := gives
  exact ⟨speaks, name, size, divides, named, weaker size sized⟩

theorem IsEntry.passesForEntry (entry : IsEntry line) : PassesForEntry line :=
  entry.mono fun _ run => ⟨run.1, fun digit inside => by
    rw [Text.isDigitLike, run.2 digit inside, Bool.true_or]⟩

theorem IsReadable.isEntry (readable : IsReadable line) : IsEntry line :=
  readable.mono fun _ sized => sized.1

theorem isDigitRun_iff : Text.isDigitRun size = true ↔ IsRunOf Text.isDigitLike size := by
  simp [Text.isDigitRun, IsRunOf]

theorem Divides.mem (divides : Divides line name size) : '=' ∈ Text.trim line := by
  cases divides with
  | intro split first =>
      rw [split]
      exact List.mem_append_right _ List.mem_cons_self

/-- A line divides in one way. -/
theorem Divides.eq (divides : Divides line name size) :
    name = Text.trim ((Text.trim line).takeWhile (· != '=')) ∧
      size = Text.trim (((Text.trim line).dropWhile (· != '=')).drop 1) := by
  cases divides with
  | @intro left right split first =>
      have before : ∀ character ∈ left, (character != '=') = true := by
        intro character inside
        rw [bne_iff_ne]
        rintro rfl
        exact first inside
      rw [split, List.takeWhile_append_of_pos before, List.dropWhile_append_of_pos before]
      simp

theorem exists_divides (mem : '=' ∈ Text.trim line) : ∃ name size, Divides line name size := by
  have ⟨left, right, split, first⟩ := List.eq_append_cons_of_mem mem
  exact ⟨_, _, .intro split first⟩

theorem gives_iff {IsSize : List Char → Prop} : Gives IsSize line ↔
    ¬IsIdle line ∧ '=' ∈ Text.trim line ∧
      Text.trim ((Text.trim line).takeWhile (· != '=')) ≠ [] ∧
      IsSize (Text.trim (((Text.trim line).dropWhile (· != '=')).drop 1)) := by
  refine and_congr_right fun _ => ⟨?_, ?_⟩
  · rintro ⟨name, size, divides, named, sized⟩
    have ⟨isName, isSize⟩ := divides.eq
    exact ⟨divides.mem, isName ▸ named, isSize ▸ sized⟩
  · rintro ⟨mem, named, sized⟩
    have ⟨name, size, divides⟩ := exists_divides mem
    have ⟨isName, isSize⟩ := divides.eq
    exact ⟨name, size, divides, isName ▸ named, isSize ▸ sized⟩

instance (IsSize : List Char → Prop) [DecidablePred IsSize] (line : List Char) :
    Decidable (Gives IsSize line) :=
  decidable_of_iff' _ gives_iff

instance : DecidablePred IsEntry :=
  inferInstanceAs (DecidablePred (Gives _))

instance : DecidablePred PassesForEntry :=
  inferInstanceAs (DecidablePred (Gives _))

instance : DecidablePred IsReadable :=
  inferInstanceAs (DecidablePred (Gives _))

example : IsEntry "a = ٣ ".toList ∧ PassesForEntry "a = ²".toList ∧ ¬IsEntry "a = ²".toList ∧
    ¬PassesForEntry "= 8".toList := by decide +kernel

theorem readLine_of_isIdle (idle : IsIdle line) : readLine line = .skipped := by
  unfold readLine
  rcases idle with blank | comment
  · simp [blank]
  · simp [comment]

theorem readLine_of_divides (speaks : ¬IsIdle line) (divides : Divides line name size) :
    readLine line = if name.isEmpty || !Text.isDigitRun size then .malformed
      else .entry (String.ofList name) size := by
  have ⟨blank, comment⟩ := not_or.mp speaks
  have ⟨isName, isSize⟩ := divides.eq
  unfold readLine
  dsimp only
  rw [← isName, ← isSize]
  simp [blank, comment, divides.mem]

/-- A line that is not idle is refused unless it passes for an entry. -/
theorem readLine_of_not_passesForEntry (speaks : ¬IsIdle line) (refused : ¬PassesForEntry line) :
    readLine line = .malformed := by
  by_cases mem : '=' ∈ Text.trim line
  · have ⟨name, size, divides⟩ := exists_divides mem
    rw [readLine_of_divides speaks divides, if_pos]
    rw [Bool.or_eq_true, List.isEmpty_iff, Bool.not_eq_true', Bool.eq_false_iff, ne_eq,
      isDigitRun_iff, or_iff_not_imp_left]
    exact fun named run => refused ⟨speaks, name, size, divides, named, run⟩
  · have ⟨blank, comment⟩ := not_or.mp speaks
    unfold readLine
    simp [blank, comment, mem]

/-! ## What the lines of a table come to -/

/-- What a table fails with at a line, if it fails there. -/
inductive FailsAt (number : Nat) (line : List Char) : Failure → Prop
  | refused (speaks : ¬IsIdle line) (malformed : ¬PassesForEntry line) :
      FailsAt number line (.badValue (.sizeTableLine number (String.ofList line)))
  | unreadable (passes : PassesForEntry line) (beyond : ¬IsReadable line) :
      FailsAt number line .unreadable

theorem exists_failsAt (number : Nat) (speaks : ¬IsIdle line) (beyond : ¬IsReadable line) :
    ∃ failure, FailsAt number line failure := by
  by_cases passes : PassesForEntry line
  · exact ⟨_, .unreadable passes beyond⟩
  · exact ⟨_, .refused speaks passes⟩

section

variable (number : Nat) (rest : List (List Char))

theorem readLines_of_isIdle (idle : IsIdle line) :
    readLines number (line :: rest) = readLines (number + 1) rest := by
  rw [readLines, readLine_of_isIdle idle]

theorem readLines_of_divides (speaks : ¬IsIdle line) (divides : Divides line name size)
    (named : name ≠ []) (run : IsRunOf Text.isDigitLike size) :
    readLines number (line :: rest) = match Number.readInt? size with
      | none => .error .unreadable
      | some count =>
          (readLines (number + 1) rest).map ((String.ofList name, Size.bytes count) :: ·) := by
  rw [readLines, readLine_of_divides speaks divides, if_neg (by simp [named, isDigitRun_iff.mpr run])]
  dsimp only
  cases Number.readInt? size with
  | none => rfl
  | some count => cases readLines (number + 1) rest <;> rfl

theorem readLines_of_isReadable (readable : IsReadable line) :
    ∃ entry, readLines number (line :: rest) = (readLines (number + 1) rest).map (entry :: ·) := by
  have ⟨speaks, name, size, divides, named, decimal, short⟩ := readable
  have ⟨_, _, _, other, _, run⟩ := readable.isEntry.passesForEntry
  rw [other.eq.2, ← divides.eq.2] at run
  have reads := (Number.isSome_readInt?_iff run.1 run.2).mpr ⟨decimal.2, short⟩
  have ⟨count, same⟩ := Option.isSome_iff_exists.mp reads
  rw [readLines_of_divides number rest speaks divides named run, same]
  exact ⟨_, rfl⟩

theorem readLines_of_failsAt (fails : FailsAt number line failure) :
    readLines number (line :: rest) = .error failure := by
  cases fails with
  | refused speaks malformed => rw [readLines, readLine_of_not_passesForEntry speaks malformed]
  | unreadable passes beyond =>
      have ⟨speaks, name, size, divides, named, run⟩ := passes
      have unread : Number.readInt? size = none := by
        rw [← Option.not_isSome_iff_eq_none, Number.isSome_readInt?_iff run.1 run.2]
        exact fun ⟨decimal, short⟩ => beyond ⟨speaks, name, size, divides, named,
          ⟨run.1, decimal⟩, short⟩
      rw [readLines_of_divides number rest speaks divides named run, unread]

end

/-- A failure of some lines is that of the first line that is neither idle nor readable. -/
theorem readLines_eq_error_iff {lines : List (List Char)} :
    readLines number lines = .error failure ↔
      ∃ before line after, lines = before ++ line :: after ∧
        (∀ earlier ∈ before, IsIdle earlier ∨ IsReadable earlier) ∧
        FailsAt (number + before.length) line failure := by
  constructor
  · intro failed
    induction lines generalizing number with
    | nil => cases failed
    | cons line rest induction =>
        by_cases goes : IsIdle line ∨ IsReadable line
        · have failedBehind : readLines (number + 1) rest = .error failure := by
            rcases goes with idle | readable
            · rwa [readLines_of_isIdle number rest idle] at failed
            · have ⟨entry, same⟩ := readLines_of_isReadable number rest readable
              rw [same] at failed
              cases behind : readLines (number + 1) rest with
              | ok entries =>
                  rw [behind] at failed
                  cases failed
              | error other =>
                  rw [behind] at failed
                  exact failed
          have ⟨before, last, after, split, fine, fails⟩ := induction failedBehind
          refine ⟨line :: before, last, after, by rw [split]; rfl,
            List.forall_mem_cons.mpr ⟨goes, fine⟩, ?_⟩
          rwa [List.length_cons, Nat.add_comm before.length, ← Nat.add_assoc]
        · have ⟨speaks, beyond⟩ := not_or.mp goes
          have ⟨other, fails⟩ := exists_failsAt number speaks beyond
          rw [readLines_of_failsAt number rest fails] at failed
          cases failed
          exact ⟨[], line, rest, rfl, by simp, fails⟩
  · rintro ⟨before, line, after, rfl, fine, fails⟩
    induction before generalizing number with
    | nil => exact readLines_of_failsAt number after fails
    | cons earlier before induction =>
        have ⟨goes, others⟩ := List.forall_mem_cons.mp fine
        rw [List.length_cons, Nat.add_comm before.length, ← Nat.add_assoc] at fails
        have failed := induction others fails
        rw [List.cons_append]
        rcases goes with idle | readable
        · rw [readLines_of_isIdle _ _ idle, failed]
        · have ⟨entry, same⟩ := readLines_of_isReadable number (before ++ line :: after) readable
          rw [same, failed]
          rfl

/-- A table fails at the first line that is neither idle nor readable, and only there. Where every
size that passes for a number can be read, this is the first line that is neither idle nor an entry,
and the failure tells its number and what it is. -/
theorem read_failures (text : String) :
    (∀ failure, read text = .error failure ↔
      ∃ before line after, Text.splitLines text.toList = before ++ line :: after ∧
        (∀ earlier ∈ before, IsIdle earlier ∨ IsReadable earlier) ∧
        FailsAt (before.length + 1) line failure) ∧
    ((∀ line ∈ Text.splitLines text.toList, PassesForEntry line → IsReadable line) →
      ∀ failure, read text = .error failure →
        ∃ before line after, Text.splitLines text.toList = before ++ line :: after ∧
          (∀ earlier ∈ before, IsIdle earlier ∨ IsEntry earlier) ∧
          ¬IsIdle line ∧ ¬IsEntry line ∧
          failure = .badValue (.sizeTableLine (before.length + 1) (String.ofList line)) ∧
          failure.message = some ("Invalid entry in builtin_sizes.txt on line " ++
            Number.writeInt (before.length + 1) ++ ": '" ++ String.ofList line ++ "'")) := by
  have fails_iff (failure : Failure) : read text = .error failure ↔
      ∃ before line after, Text.splitLines text.toList = before ++ line :: after ∧
        (∀ earlier ∈ before, IsIdle earlier ∨ IsReadable earlier) ∧
        FailsAt (before.length + 1) line failure := by
    simp only [read, readLines_eq_error_iff, Nat.add_comm 1]
  refine ⟨fails_iff, fun readable failure failed => ?_⟩
  have ⟨before, line, after, split, fine, fails⟩ := (fails_iff failure).mp failed
  have fineEntries : ∀ earlier ∈ before, IsIdle earlier ∨ IsEntry earlier :=
    fun earlier member => (fine earlier member).imp_right IsReadable.isEntry
  cases fails with
  | refused speaks malformed =>
      exact ⟨before, line, after, split, fineEntries, speaks, mt IsEntry.passesForEntry malformed,
        rfl, rfl⟩
  | unreadable passes beyond =>
      have inside : line ∈ Text.splitLines text.toList := by
        rw [split]
        exact List.mem_append_right _ List.mem_cons_self
      exact absurd (readable line inside passes) beyond

/-- A table whose third line has no equals sign. -/
theorem read_failures_of_colon :
    let text := "# sizes\n a = ١٢ \r\n b: 8\nc = 1"
    (∀ line ∈ Text.splitLines text.toList, PassesForEntry line → IsReadable line) ∧
      ∃ failure, read text = .error failure ∧
        failure.message = some "Invalid entry in builtin_sizes.txt on line 3: ' b: 8'" ∧
        ∃ before line after, Text.splitLines text.toList = before ++ line :: after ∧
          ¬IsIdle line ∧ ¬IsEntry line ∧
          failure = .badValue (.sizeTableLine (before.length + 1) (String.ofList line)) := by
  intro text
  have readable : ∀ line ∈ Text.splitLines text.toList, PassesForEntry line → IsReadable line := by
    decide +kernel
  have failed : read text = .error (.badValue (.sizeTableLine 3 (String.ofList " b: 8".toList))) :=
    ((read_failures text).1 _).mpr ⟨["# sizes".toList, " a = ١٢ ".toList], " b: 8".toList,
      ["c = 1".toList], by decide +kernel, by decide +kernel,
      .refused (by decide +kernel) (by decide +kernel)⟩
  have ⟨before, line, after, split, _, speaks, noEntry, same, _⟩ :=
    (read_failures text).2 readable _ failed
  exact ⟨readable, _, failed, rfl, before, line, after, split, speaks, noEntry, same⟩

/-- A superscript stands for a digit and is not a decimal one: the only line of a table is not an
entry, and the failure does not tell which line it is. -/
theorem superscript_not_located :
    let text := "a = ²"
    let line := text.toList
    Text.splitLines text.toList = [line] ∧ ¬IsIdle line ∧ ¬IsEntry line ∧
      read text ≠ .error (.badValue (.sizeTableLine 1 (String.ofList line))) ∧
      read text = .error .unreadable := by
  intro text line
  have unreadable : read text = .error .unreadable := by
    rw [read, readLines_eq_error_iff]
    exact ⟨[], line, [], by decide +kernel, by simp,
      .unreadable (by decide +kernel) (by decide +kernel)⟩
  refine ⟨by decide +kernel, by decide +kernel, by decide +kernel, ?_, unreadable⟩
  rw [unreadable]
  exact nofun

end SizeTable

end EngineBridge
