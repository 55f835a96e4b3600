import EngineBridge.Proofs.Number.Digits
import EngineBridge.Proofs.Number.Shortest

/-!
Written decimals.

A written decimal has digits before the point, and behind it a fraction, an exponent or both. Main
statement: every float is read back from its written form.
-/

namespace EngineBridge.Number

open EngineBridge.Text

structure Written where
  whole : List Char
  fraction : List Char
  /-- Whether the exponent is negative, and its digits. -/
  exponent : Option (Bool × List Char)

namespace Written

def point (written : Written) : List Char :=
  if written.fraction.isEmpty then [] else '.' :: written.fraction

theorem point_eq (written : Written) :
    written.point = match written.fraction with
      | [] => []
      | rest => '.' :: rest := by
  unfold point
  cases written.fraction with
  | nil => rfl
  | cons digit rest => rfl

def tail (written : Written) : List Char :=
  match written.exponent with
  | none => []
  | some (negative, digits) => 'e' :: (if negative then '-' else '+') :: digits

def text (written : Written) : List Char :=
  written.whole ++ written.point ++ written.tail

/-- All digits in a row. -/
def digits (written : Written) : Nat :=
  Nat.ofDigitChars 10 (written.whole ++ written.fraction) 0

def shift (written : Written) : Int :=
  match written.exponent with
  | none => 0
  | some (negative, digits) =>
      if negative then -(Nat.ofDigitChars 10 digits 0 : Int) else Nat.ofDigitChars 10 digits 0

/-- The exponent of the last digit. -/
def scale (written : Written) : Int :=
  written.shift - written.fraction.length

structure IsDecimal (written : Written) : Prop where
  whole_ne : written.whole ≠ []
  leading : written.whole = ['0'] ∨ written.whole.head? ≠ some '0'
  whole_digits : ∀ digit ∈ written.whole, digit.isDigit = true
  fraction_digits : ∀ digit ∈ written.fraction, digit.isDigit = true
  exponent_ne : ∀ negative, written.exponent ≠ some (negative, [])
  exponent_digits : ∀ negative digits, written.exponent = some (negative, digits) →
    ∀ digit ∈ digits, digit.isDigit = true
  broken : written.fraction ≠ [] ∨ written.exponent.isSome = true

variable {written : Written}

namespace IsDecimal

theorem head?_text (decimal : written.IsDecimal) :
    written.text.head? = written.whole.head? := by
  rw [text, List.append_assoc, List.head?_append_of_ne_nil _ decimal.whole_ne]

theorem hasDigitEnds (decimal : written.IsDecimal) : HasDigitEnds written.text where
  nonempty := by
    simp [text, decimal.whole_ne]
  first character found := by
    rw [decimal.head?_text] at found
    exact decimal.whole_digits character (List.mem_of_head? found)
  last character found := by
    obtain ⟨whole, fraction, exponent⟩ := written
    cases exponent with
    | none =>
        rcases decimal.broken with some | ⟨⟨⟩⟩
        have shape : text ⟨whole, fraction, none⟩ = whole ++ ['.'] ++ fraction := by
          simp_all [text, point, tail]
        rw [shape, List.getLast?_append_of_ne_nil _ some] at found
        exact decimal.fraction_digits character (List.mem_of_getLast? found)
    | some exponent =>
        obtain ⟨negative, digits⟩ := exponent
        have some : digits ≠ [] := by
          intro none
          exact decimal.exponent_ne negative (by rw [none])
        have shape : text ⟨whole, fraction, Option.some (negative, digits)⟩ =
            whole ++ point ⟨whole, fraction, Option.some (negative, digits)⟩ ++
              ['e', if negative then '-' else '+'] ++ digits := by
          simp [text, tail]
        rw [shape, List.getLast?_append_of_ne_nil _ some] at found
        exact decimal.exponent_digits negative digits rfl character (List.mem_of_getLast? found)

theorem not_mark (decimal : written.IsDecimal) :
    ∀ character ∈ written.whole ++ written.point,
      (!(character == 'e' || character == 'E')) = true := by
  have digit {character : Char} (isDigit : character.isDigit = true) :
      (!(character == 'e' || character == 'E')) = true := by
    simp [ne_of_isDigit isDigit (by decide : 'e'.isDigit = false),
      ne_of_isDigit isDigit (by decide : 'E'.isDigit = false)]
  intro character inside
  rcases List.mem_append.mp inside with inWhole | inPoint
  · exact digit (decimal.whole_digits character inWhole)
  · unfold point at inPoint
    split at inPoint
    · cases inPoint
    · rcases List.mem_cons.mp inPoint with rfl | inFraction
      · rfl
      · exact digit (decimal.fraction_digits character inFraction)

theorem takeWhile_text (decimal : written.IsDecimal) :
    written.text.takeWhile (fun character => !(character == 'e' || character == 'E')) =
      written.whole ++ written.point := by
  rw [text, List.takeWhile_append_of_pos decimal.not_mark]
  unfold tail
  split
  · simp
  · simp

theorem readExponent?_tail (decimal : written.IsDecimal) :
    (match written.tail with
      | [] => some 0
      | _ :: rest => readExponent? rest) = some written.shift := by
  unfold tail shift
  cases found : written.exponent with
  | none => rfl
  | some exponent =>
      obtain ⟨negative, digits⟩ := exponent
      have nonempty : digits ≠ [] := by
        intro none
        exact decimal.exponent_ne negative (by rw [found, none])
      have read := ungroupedDigits?_of_digits nonempty (decimal.exponent_digits _ _ found)
      have sign : splitSign ((if negative then '-' else '+') :: digits) = (negative, digits) := by
        cases negative <;> rfl
      simp only [readExponent?, sign, read, Option.bind_eq_bind, Option.bind_some,
        valueInBase_digits]
      rfl

theorem takeWhile_point (decimal : written.IsDecimal) :
    (written.whole ++ written.point).takeWhile (· != '.') = written.whole := by
  rw [List.takeWhile_append_of_pos]
  · unfold point
    split
    · simp
    · simp
  · intro character inside
    simp [ne_of_isDigit (decimal.whole_digits character inside) (by decide : '.'.isDigit = false)]

theorem drop_point (written : Written) :
    (written.whole ++ written.point).drop (written.whole.length + 1) = written.fraction := by
  rw [← List.drop_drop, List.drop_left]
  unfold point
  split
  · rename_i none
    rw [List.isEmpty_iff.mp none]
    rfl
  · rfl

theorem toLower_of_isDigit {digit : Char} (decimal : digit.isDigit = true) :
    digit.toLower = digit := by
  simp only [Char.isDigit, Bool.and_eq_true, decide_eq_true_eq] at decimal
  have high : digit.val ≤ 57 := decimal.2
  rw [Char.toLower, dif_neg]
  intro upper
  have letter : (65 : UInt32) ≤ digit.val := upper.1
  exact absurd (UInt32.le_trans letter high) (by decide)

theorem groupedDigits?_of_digits {digits : List Char}
    (decimal : ∀ digit ∈ digits, digit.isDigit = true) :
    groupedDigits? digits = some (digits.map fun digit => digit.toNat - '0'.toNat) := by
  cases digits with
  | nil => rfl
  | cons digit rest => exact ungroupedDigits?_of_digits (by simp) decimal

theorem not_word (decimal : written.IsDecimal) {word : String}
    (letter : word.toList.head?.any Char.isDigit = false) :
    (String.ofList (written.text.map Char.toLower) == word) = false := by
  rw [beq_eq_false_iff_ne]
  intro same
  have heads : (written.text.map Char.toLower).head? = word.toList.head? := by
    rw [← same, String.toList_ofList]
  rw [List.head?_map, decimal.head?_text] at heads
  cases shape : written.whole with
  | nil => exact decimal.whole_ne shape
  | cons digit rest =>
      have isDigit := decimal.whole_digits digit (by rw [shape]; simp)
      rw [shape, List.head?_cons, Option.map_some, toLower_of_isDigit isDigit] at heads
      rw [← heads, Option.any_some, isDigit] at letter
      cases letter

theorem readMagnitude?_text (decimal : written.IsDecimal) :
    readMagnitude? written.text = some (floatOfDecimal written.digits written.scale) := by
  have exponent := decimal.readExponent?_tail
  have rest : written.text.drop (written.whole ++ written.point).length = written.tail := by
    rw [text, List.drop_left]
  have infinite : (String.ofList (written.text.map Char.toLower) == "inf") = false :=
    decimal.not_word (by decide)
  have infinity : (String.ofList (written.text.map Char.toLower) == "infinity") = false :=
    decimal.not_word (by decide)
  have noNumber : (String.ofList (written.text.map Char.toLower) == "nan") = false :=
    decimal.not_word (by decide)
  have someDigits : (written.whole.map fun digit => digit.toNat - '0'.toNat).isEmpty = false := by
    simp [decimal.whole_ne]
  have value : valueInBase 10 ((written.whole.map fun digit => digit.toNat - '0'.toNat) ++
      written.fraction.map fun digit => digit.toNat - '0'.toNat) = written.digits := by
    rw [← List.map_append, valueInBase_digits]
    rfl
  simp only [readMagnitude?, infinite, infinity, noNumber, Bool.or_self, Bool.false_eq_true,
    if_false, decimal.takeWhile_text, rest, decimal.takeWhile_point, drop_point,
    groupedDigits?_of_digits decimal.whole_digits,
    groupedDigits?_of_digits decimal.fraction_digits]
  cases found : written.tail with
  | nil =>
      rw [found] at exponent
      have none : written.shift = 0 := (Option.some.inj exponent).symm
      simp only [Option.bind_eq_bind, Option.bind_some, someDigits, Bool.false_and,
        Bool.false_eq_true, if_false, value, List.length_map, scale, none]
      rfl
  | cons mark behind =>
      rw [found] at exponent
      simp only at exponent
      simp only [exponent, Option.bind_eq_bind, Option.bind_some, someDigits, Bool.false_and,
        Bool.false_eq_true, if_false, value, List.length_map, scale]
      rfl

end IsDecimal

end Written

theorem isDecimal_of_digits {whole fraction : List Char} (nonempty : whole ≠ [])
    (leading : whole = ['0'] ∨ whole.head? ≠ some '0')
    (decimal : ∀ digit ∈ whole ++ fraction, digit.isDigit = true) (broken : fraction ≠ []) :
    Written.IsDecimal ⟨whole, fraction, none⟩ where
  whole_ne := nonempty
  leading := leading
  whole_digits digit inside := decimal digit (List.mem_append_left _ inside)
  fraction_digits digit inside := decimal digit (List.mem_append_right _ inside)
  exponent_ne := by simp
  exponent_digits := by simp
  broken := Or.inl broken

theorem text_of_fraction {whole fraction : List Char} (broken : fraction ≠ []) :
    Written.text ⟨whole, fraction, none⟩ = whole ++ '.' :: fraction := by
  simp [Written.text, Written.point, Written.tail, broken]

theorem isDigit_of_zeros {digits : List Char} (decimal : ∀ digit ∈ digits, digit.isDigit = true)
    (count : ℕ) : ∀ digit ∈ List.replicate count '0' ++ digits, digit.isDigit = true := by
  intro digit inside
  rcases List.mem_append.mp inside with zero | behind
  · rw [List.eq_of_mem_replicate zero]
    rfl
  · exact decimal digit behind

/-- A text has the parts of a decimal and stands for its value. -/
def Writes (text : List Char) (decimal : Decimal) : Prop :=
  ∃ written : Written, written.IsDecimal ∧ written.text = text ∧
    (written.digits : ℚ) * 10 ^ written.scale = decimal.value

section

variable {decimal : Decimal} {leading : ℤ}

/-- A decimal below one is written with its zeros in front. -/
theorem writes_below (below : leading < 0)
    (ends : leading = decimal.exponent + (decimalDigits decimal.digits).length - 1) :
    Writes ('0' :: '.' :: List.replicate (-leading - 1).toNat '0' ++ decimalDigits decimal.digits)
      decimal := by
  let fraction := List.replicate (-leading - 1).toNat '0' ++ decimalDigits decimal.digits
  have digits : ∀ digit ∈ fraction, digit.isDigit = true :=
    isDigit_of_zeros (fun _ inside => isDigit_decimalDigits inside) _
  have some : fraction ≠ [] := by
    simp [fraction, decimalDigits_ne_nil]
  refine ⟨⟨['0'], fraction, none⟩, ?_, ?_, ?_⟩
  · exact isDecimal_of_digits (by simp) (Or.inl rfl) (isDigit_of_zeros digits 1) some
  · rw [text_of_fraction some]
    rfl
  · have value : Written.digits ⟨['0'], fraction, none⟩ = decimal.digits := by
      simp [Written.digits, fraction, Nat.ofDigitChars_cons, Nat.ofDigitChars_append]
    have scale : Written.scale ⟨['0'], fraction, none⟩ = decimal.exponent := by
      simp [Written.scale, Written.shift, fraction]
      omega
    rw [value, scale, Decimal.value]

/-- A whole decimal is written with its zeros behind it, and with one behind the point. -/
theorem writes_above {count : ℕ} (positive : 0 < decimal.digits)
    (ends : decimal.exponent = count) :
    Writes (decimalDigits decimal.digits ++ List.replicate count '0' ++ ['.', '0']) decimal := by
  let whole := decimalDigits decimal.digits ++ List.replicate count '0'
  have digits : ∀ digit ∈ whole ++ ['0'], digit.isDigit = true := by
    intro digit inside
    simp only [whole, List.append_assoc, List.mem_append] at inside
    rcases inside with front | zero | last
    · exact isDigit_decimalDigits front
    · rw [List.eq_of_mem_replicate zero]
      rfl
    · rw [List.mem_singleton.mp last]
      rfl
  have head : whole.head? = (decimalDigits decimal.digits).head? := by
    rw [List.head?_append_of_ne_nil _ (decimalDigits_ne_nil _)]
  refine ⟨⟨whole, ['0'], none⟩, ?_, ?_, ?_⟩
  · apply isDecimal_of_digits _ _ digits (by simp)
    · simp [whole, decimalDigits_ne_nil]
    · right
      rw [head]
      exact head?_decimalDigits positive
  · rw [text_of_fraction (by simp)]
  · have value : Written.digits ⟨whole, ['0'], none⟩ = 10 * (10 ^ count * decimal.digits) := by
      simp [Written.digits, whole, Nat.ofDigitChars_cons, Nat.ofDigitChars_append]
    have scale : Written.scale ⟨whole, ['0'], none⟩ = -1 := by
      simp [Written.scale, Written.shift]
    rw [value, scale, Decimal.value, ends, zpow_natCast]
    push_cast
    rw [zpow_neg_one]
    ring

/-- The point stands among the digits. -/
theorem writes_inside {count : ℕ} (positive : 0 < decimal.digits) (some : 0 < count)
    (short : count < (decimalDigits decimal.digits).length)
    (ends : decimal.exponent = count - (decimalDigits decimal.digits).length) :
    Writes ((decimalDigits decimal.digits).take count ++ '.' ::
      (decimalDigits decimal.digits).drop count) decimal := by
  let whole := (decimalDigits decimal.digits).take count
  let fraction := (decimalDigits decimal.digits).drop count
  have all : whole ++ fraction = decimalDigits decimal.digits := List.take_append_drop ..
  have behind : fraction ≠ [] := by
    simp [fraction]
    omega
  refine ⟨⟨whole, fraction, none⟩, ?_, ?_, ?_⟩
  · apply isDecimal_of_digits _ _ _ behind
    · simp [whole, decimalDigits_ne_nil]
      omega
    · right
      rw [List.head?_take, if_neg (by omega)]
      exact head?_decimalDigits positive
    · rw [all]
      exact fun _ inside => isDigit_decimalDigits inside
  · exact text_of_fraction behind
  · have value : Written.digits ⟨whole, fraction, none⟩ = decimal.digits := by
      rw [Written.digits, all, ofDigitChars_decimalDigits]
    have scale : Written.scale ⟨whole, fraction, none⟩ = decimal.exponent := by
      simp [Written.scale, Written.shift, fraction]
      omega
    rw [value, scale, Decimal.value]

theorem writes_scientific (positive : 0 < decimal.digits)
    (ends : leading = decimal.exponent + (decimalDigits decimal.digits).length - 1) :
    Writes (writeScientific (decimalDigits decimal.digits) leading) decimal := by
  let whole := (decimalDigits decimal.digits).take 1
  let fraction := (decimalDigits decimal.digits).drop 1
  let exponent := padded 2 leading.natAbs
  have all : whole ++ fraction = decimalDigits decimal.digits := List.take_append_drop ..
  have digits : ∀ digit ∈ whole ++ fraction, digit.isDigit = true := by
    rw [all]
    exact fun _ inside => isDigit_decimalDigits inside
  have exponentDigits : ∀ digit ∈ exponent, digit.isDigit = true :=
    isDigit_of_zeros (fun _ inside => isDigit_decimalDigits inside) _
  have exponentValue : Nat.ofDigitChars 10 exponent 0 = leading.natAbs := by
    simp [exponent, padded, Nat.ofDigitChars_append]
  refine ⟨⟨whole, fraction, some (leading < 0, exponent)⟩, ?_, ?_, ?_⟩
  · constructor
    · simp [whole, decimalDigits_ne_nil]
    · right
      rw [List.head?_take, if_neg (by omega)]
      exact head?_decimalDigits positive
    · exact fun digit inside => digits digit (List.mem_append_left _ inside)
    · exact fun digit inside => digits digit (List.mem_append_right _ inside)
    · simp [exponent, padded, decimalDigits_ne_nil]
    · intro _ _ same
      cases same
      exact exponentDigits
    · exact Or.inr rfl
  · rw [Written.text, Written.point_eq]
    simp only [Written.tail, decide_eq_true_eq]
    rfl
  · have value : Written.digits ⟨whole, fraction, some (leading < 0, exponent)⟩ =
        decimal.digits := by
      rw [Written.digits, all, ofDigitChars_decimalDigits]
    have lengthPos := List.length_pos_iff.mpr (decimalDigits_ne_nil decimal.digits)
    have shift : Written.shift ⟨whole, fraction, some (leading < 0, exponent)⟩ = leading := by
      simp only [Written.shift, exponentValue, decide_eq_true_eq]
      split <;> omega
    have scale : Written.scale ⟨whole, fraction, some (leading < 0, exponent)⟩ =
        decimal.exponent := by
      rw [Written.scale, shift]
      simp [fraction]
      omega
    rw [value, scale, Decimal.value]

end

/-- Every decimal above zero is written with the parts of a decimal of the same value. -/
theorem writes_writeDecimal {decimal : Decimal} (positive : 0 < decimal.digits) :
    Writes (writeDecimal decimal) decimal := by
  have lengthPos := List.length_pos_iff.mpr (decimalDigits_ne_nil decimal.digits)
  unfold writeDecimal
  simp only
  split
  · unfold writePositional
    split
    · rename_i below
      exact writes_below below rfl
    · rename_i above
      simp only
      split
      · apply writes_above positive
        omega
      · apply writes_inside positive
        · omega
        · omega
        · omega
  · exact writes_scientific positive rfl

/-- The parts of a float that is written with digits. -/
theorem exists_written {number : Float} (finite : isFinite number = true) :
    ∃ written : Written, written.IsDecimal ∧
      (writeFloat number).toList = signCharacters (isNegative number) ++ written.text ∧
      (if isNegative number then -floatOfDecimal written.digits written.scale
        else floatOfDecimal written.digits written.scale) = number := by
  have notNone : isNotANumber number = false := by
    simp [isNotANumber, finite]
  by_cases zero : (Binary.ofFloat number).mantissa = 0
  · refine ⟨⟨['0'], ['0'], none⟩, ?_, ?_, ?_⟩
    · exact isDecimal_of_digits (by simp) (Or.inl rfl) (by simp) (by simp)
    · simp [writeFloat, notNone, finite, zero, signCharacters, Written.text, Written.point,
        Written.tail]
    · exact (eq_zero_of_mantissa zero).symm
  · have canonical := isCanonical_ofBits number.toBits ((isFinite_iff number).mp finite) zero
    obtain ⟨written, decimal, text, value⟩ := writes_writeDecimal (digits_shortest_pos canonical)
    have near := isNear_shortest canonical
    rw [← value] at near
    refine ⟨written, decimal, ?_, ?_⟩
    · simp [writeFloat, notNone, finite, zero, signCharacters, text]
      rfl
    · have packed := Binary.withSign_ofFloat canonical
      rw [floatOfDecimal_of_isNear canonical near, Binary.neg_withSign]
      rw [signOfBits_eq] at packed
      by_cases negative : isNegative number = true
      · rw [if_pos negative] at packed ⊢
        exact packed
      · rw [if_neg negative] at packed ⊢
        exact packed

/-- A float that is written with digits is read back. -/
theorem readFloat?_writeFloat {number : Float} (finite : isFinite number = true) :
    readFloat? (writeFloat number).toList = some number := by
  have ⟨written, decimal, text, value⟩ := exists_written finite
  rw [text, readFloat?, decimal.hasDigitEnds.trimmed, decimal.hasDigitEnds.splitSign_eq]
  simp only [decimal.readMagnitude?_text, Option.bind_eq_bind, Option.bind_some, value]
  rfl

end EngineBridge.Number
