import EngineBridge.Document.Json.Printer
import EngineBridge.Document.Json.Reader
import EngineBridge.Proofs.Number.Written

/-!
Numbers written as JSON and read back.

A number goes on as far as it can, so it is read back in front of anything that cannot go on with
it. Main statements: so are an integer that is not too long, and every float.
-/

namespace EngineBridge.Document.Json

open EngineBridge.Number

/-- Whether nothing at the head of a text can go on with a number. -/
def EndsNumber (rest : Rest) : Prop :=
  ∀ character, rest.head? = some character →
    character.isDigit = false ∧ character ≠ '.' ∧ character ≠ 'e' ∧ character ≠ 'E'

variable {rest : Rest} {digits : List Char}

theorem splitDigits_of_digits (decimal : ∀ digit ∈ digits, digit.isDigit = true)
    (ends : ∀ character, rest.head? = some character → character.isDigit = false) :
    splitDigits (digits ++ rest) = (digits, rest) := by
  have taken : rest.takeWhile Char.isDigit = [] := by
    cases rest with
    | nil => rfl
    | cons character behind => simp [ends character rfl]
  have dropped : rest.dropWhile Char.isDigit = rest := by
    cases rest with
    | nil => rfl
    | cons character behind => simp [ends character rfl]
  rw [splitDigits, List.takeWhile_append_of_pos decimal, List.dropWhile_append_of_pos decimal,
    taken, dropped, List.append_nil]

theorem splitWhole_of_digits (nonempty : digits ≠ [])
    (leading : digits = ['0'] ∨ digits.head? ≠ some '0')
    (decimal : ∀ digit ∈ digits, digit.isDigit = true)
    (ends : ∀ character, rest.head? = some character → character.isDigit = false) :
    splitWhole (digits ++ rest) = some (digits, rest) := by
  rcases leading with zero | other
  · rw [zero]
    rfl
  · have split := splitDigits_of_digits decimal ends
    cases digits with
    | nil => exact absurd rfl nonempty
    | cons digit behind =>
        have notZero : digit ≠ '0' := by
          simpa using other
        rw [List.cons_append] at split ⊢
        rw [splitWhole]
        · rw [if_pos (decimal digit List.mem_cons_self), split]
        · exact notZero

namespace EndsNumber

variable {written : Written}

theorem digit (ends : EndsNumber rest) :
    ∀ character, rest.head? = some character → character.isDigit = false :=
  fun character found => (ends character found).1

theorem splitFraction_eq (ends : EndsNumber rest) : splitFraction rest = none := by
  cases rest with
  | nil => rfl
  | cons character behind =>
      rw [splitFraction]
      intro _ same
      exact (ends character rfl).2.1 (List.cons.inj same).1

theorem splitExponent_eq (ends : EndsNumber rest) : splitExponent rest = none := by
  cases rest with
  | nil => rfl
  | cons character behind =>
      have ⟨_, _, small, big⟩ := ends character rfl
      simp [splitExponent, small, big]

theorem not_digit_tail (ends : EndsNumber rest) (written : Written) :
    ∀ character, (written.tail ++ rest).head? = some character → character.isDigit = false := by
  unfold Written.tail
  split
  · exact ends.digit
  · intro character found
    cases found
    rfl

theorem not_point_tail (ends : EndsNumber rest) (written : Written) :
    ∀ character, (written.tail ++ rest).head? = some character → character ≠ '.' := by
  unfold Written.tail
  split
  · exact fun character found => (ends character found).2.1
  · intro character found
    cases found
    decide

theorem splitFraction_point (ends : EndsNumber rest) (decimal : written.IsDecimal) :
    (splitFraction (written.point ++ (written.tail ++ rest))).getD
        ([], written.point ++ (written.tail ++ rest)) =
      (written.point, written.tail ++ rest) := by
  cases shape : written.fraction with
  | nil =>
      have none : splitFraction (written.tail ++ rest) = none := by
        cases found : written.tail ++ rest with
        | nil => rfl
        | cons character behind =>
            rw [splitFraction]
            intro _ same
            exact ends.not_point_tail written character (by rw [found]; rfl) (List.cons.inj same).1
      simp [Written.point, shape, none]
  | cons digit behind =>
      have digits := decimal.fraction_digits
      rw [shape] at digits
      have split := splitDigits_of_digits digits (ends.not_digit_tail written)
      rw [List.cons_append] at split
      simp [Written.point, shape, splitFraction, split]

theorem splitExponent_tail (ends : EndsNumber rest) (decimal : written.IsDecimal) :
    (splitExponent (written.tail ++ rest)).getD ([], written.tail ++ rest) =
      (written.tail, rest) := by
  unfold Written.tail
  cases found : written.exponent with
  | none => simp [ends.splitExponent_eq]
  | some exponent =>
      obtain ⟨negative, digits⟩ := exponent
      have nonempty : digits.isEmpty = false := by
        cases digits with
        | nil => exact absurd found (decimal.exponent_ne negative)
        | cons digit behind => rfl
      have split := splitDigits_of_digits (decimal.exponent_digits negative digits found) ends.digit
      cases negative with
      | true => simp [splitExponent, split, nonempty]
      | false => simp [splitExponent, split, nonempty]

theorem not_digit_point (ends : EndsNumber rest) (written : Written) :
    ∀ character, (written.point ++ (written.tail ++ rest)).head? = some character →
      character.isDigit = false := by
  unfold Written.point
  split
  · exact ends.not_digit_tail written
  · intro character found
    cases found
    rfl

end EndsNumber

/-- The sign of a number is split off from its digits. -/
theorem splitMinus_eq {characters : Rest} (negative : Bool)
    (first : ∀ character, characters.head? = some character → character ≠ '-') :
    splitMinus (signCharacters negative ++ characters) = (signCharacters negative, characters) := by
  cases negative with
  | true => rfl
  | false =>
      cases characters with
      | nil => rfl
      | cons character behind =>
          change splitMinus (character :: behind) = _
          rw [splitMinus]
          · rfl
          · intro _ same
            exact first character rfl (List.cons.inj same).1

theorem ne_minus_of_isDigit {characters : Rest}
    (first : ∀ character, characters.head? = some character → character.isDigit = true) :
    ∀ character, characters.head? = some character → character ≠ '-' :=
  fun character found => ne_of_isDigit (first character found) (by decide)

/-- A written float is read as a float, up to where it ends. -/
theorem readNumber_written {written : Written} {number : Float} (decimal : written.IsDecimal)
    (negative : Bool) (ends : EndsNumber rest)
    (read : readFloat? (signCharacters negative ++ written.text) = some number) :
    readNumber (signCharacters negative ++ written.text ++ rest) = .ok (.float number, rest) := by
  have first : ∀ character, (written.text ++ rest).head? = some character → character ≠ '-' := by
    rw [List.head?_append_of_ne_nil _ decimal.hasDigitEnds.nonempty]
    exact ne_minus_of_isDigit decimal.hasDigitEnds.first
  have whole := splitWhole_of_digits decimal.whole_ne decimal.leading decimal.whole_digits
    (ends.not_digit_point written)
  have broken : (written.point.isEmpty && written.tail.isEmpty) = false := by
    rcases decimal.broken with fraction | exponent
    · simp [Written.point, fraction]
    · cases found : written.exponent with
      | none => simp [found] at exponent
      | some _ => simp [Written.tail, found]
  rw [List.append_assoc]
  rw [readNumber, splitMinus_eq negative first]
  simp only [Written.text, List.append_assoc, whole, ends.splitFraction_point decimal,
    ends.splitExponent_tail decimal, broken] at read ⊢
  simp [read]

/-- Digits are read as an integer, up to where they end. -/
theorem readNumber_digits {number : Int} (nonempty : digits ≠ [])
    (leading : digits = ['0'] ∨ digits.head? ≠ some '0')
    (decimal : ∀ digit ∈ digits, digit.isDigit = true) (negative : Bool) (ends : EndsNumber rest)
    (read : readInt? (signCharacters negative ++ digits) = some number) :
    readNumber (signCharacters negative ++ digits ++ rest) = .ok (.int number, rest) := by
  have first : ∀ character, (digits ++ rest).head? = some character → character ≠ '-' := by
    rw [List.head?_append_of_ne_nil _ nonempty]
    exact ne_minus_of_isDigit fun digit found => decimal digit (List.mem_of_head? found)
  have whole := splitWhole_of_digits nonempty leading decimal ends.digit
  rw [List.append_assoc, readNumber, splitMinus_eq negative first]
  simp only [whole, ends.splitFraction_eq, ends.splitExponent_eq, Option.getD_none,
    List.isEmpty_nil, Bool.and_self, if_true, read]

theorem readNumber_intCharacters {number : Int} (ends : EndsNumber rest)
    (short : (decimalDigits number.natAbs).length ≤ digitLimit) :
    readNumber (intCharacters number ++ rest) = .ok (.int number, rest) := by
  have leading : decimalDigits number.natAbs = ['0'] ∨
      (decimalDigits number.natAbs).head? ≠ some '0' := by
    rcases Nat.eq_zero_or_pos number.natAbs with zero | positive
    · rw [zero]
      exact Or.inl rfl
    · exact Or.inr (head?_decimalDigits positive)
  exact readNumber_digits (decimalDigits_ne_nil _) leading (fun _ => isDigit_decimalDigits) _ ends
    (readInt?_intCharacters short)

/-- What begins with a digit, a sign apart, is none of the words. -/
theorem findSome?_words {characters : Rest} (negative : Bool) (nonempty : characters ≠ [])
    (first : ∀ character, characters.head? = some character → character.isDigit = true) :
    (words.findSome? fun entry =>
      (afterWord? entry.1 (signCharacters negative ++ characters)).map fun rest =>
        (entry.2, rest)) = none := by
  cases characters with
  | nil => exact absurd rfl nonempty
  | cons digit behind =>
      have isDigit := first digit rfl
      have other {letter : Char} (isLetter : letter.isDigit = false) : digit ≠ letter :=
        ne_of_isDigit isDigit isLetter
      cases negative with
      | true => simp [words, afterWord?, signCharacters, other]
      | false => simp [words, afterWord?, signCharacters, other]

theorem readScalar_of_digits {characters : Rest} (negative : Bool) (nonempty : characters ≠ [])
    (first : ∀ character, characters.head? = some character → character.isDigit = true) :
    readScalar (signCharacters negative ++ characters) =
      readNumber (signCharacters negative ++ characters) := by
  rw [readScalar, findSome?_words negative nonempty first]

theorem readScalar_writeInt {number : Int} (ends : EndsNumber rest)
    (short : isTooLong number = false) :
    readScalar ((writeInt number).toList ++ rest) = .ok (.int number, rest) := by
  have within : (decimalDigits number.natAbs).length ≤ digitLimit := by
    simpa [isTooLong, Number.isWritable] using short
  rw [toList_writeInt, ← readNumber_intCharacters ends within, intCharacters, List.append_assoc]
  apply readScalar_of_digits
  · simp [decimalDigits_ne_nil]
  · rw [List.head?_append_of_ne_nil _ (decimalDigits_ne_nil _)]
    exact fun _ found => isDigit_decimalDigits (List.mem_of_head? found)

/-- Every float is read back, also one that has no digits. -/
theorem readScalar_writeFloat (number : Float) (ends : EndsNumber rest) :
    readScalar (writeFloat number ++ rest) = .ok (.float number, rest) := by
  unfold writeFloat
  split
  · rename_i none
    rw [eq_nan_of_isNotANumber none]
    rfl
  split
  · rename_i finite
    have ⟨written, decimal, shape, _⟩ := exists_written finite
    have read := readFloat?_writeFloat finite
    rw [shape] at read ⊢
    rw [← readNumber_written decimal _ ends read, List.append_assoc]
    apply readScalar_of_digits
    · simp [decimal.hasDigitEnds.nonempty]
    · rw [List.head?_append_of_ne_nil _ decimal.hasDigitEnds.nonempty]
      exact decimal.hasDigitEnds.first
  · rename_i numeric infinite
    have value := eq_infinity_of_infinite (Bool.eq_false_iff.mpr infinite)
      (Bool.eq_false_iff.mpr numeric)
    split
    · rename_i negative
      rw [if_pos negative] at value
      rw [value]
      rfl
    · rename_i positive
      rw [if_neg positive] at value
      rw [value]
      rfl

end EngineBridge.Document.Json
