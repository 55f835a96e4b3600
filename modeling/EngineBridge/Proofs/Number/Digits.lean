import EngineBridge.Number.Numeral
import EngineBridge.Number.Reading
import EngineBridge.Proofs.Text.Lines
import Mathlib.Data.List.Basic

/-!
Runs of decimal digits.

Main statement: an integer is read back from its written form, if it has no more digits than can
be read.
-/

namespace EngineBridge.Number

open EngineBridge.Text

theorem ne_of_isDigit {digit other : Char} (decimal : digit.isDigit = true)
    (notDecimal : other.isDigit = false) : digit ≠ other := by
  intro same
  rw [same, notDecimal] at decimal
  cases decimal

theorem digitValue?_of_isDigit {digit : Char} (decimal : digit.isDigit = true) :
    digitValue? digit = some (digit.toNat - '0'.toNat) := by
  simp only [Char.isDigit, Bool.and_eq_true, decide_eq_true_eq] at decimal
  have low : 0x30 ≤ digit.toNat := decimal.1
  have high : digit.toNat ≤ 0x39 := decimal.2
  have found : digitZeros.find? (fun start => start ≤ digit.toNat && digit.toNat < start + 10) =
      some 0x30 := by
    apply List.find?_cons_of_pos
    simp
    omega
  rw [digitValue?, found]
  rfl

theorem isNumberEdge_of_isDigit {digit : Char} (decimal : digit.isDigit = true) :
    isNumberEdge digit = false := by
  have notSpace : digit ≠ ' ' := ne_of_isDigit decimal rfl
  simp only [Char.isDigit, Bool.and_eq_true, decide_eq_true_eq] at decimal
  have low : 0x30 ≤ digit.toNat := decimal.1
  have high : digit.toNat ≤ 0x39 := decimal.2
  rw [isNumberEdge, if_pos (by omega)]
  simp [notSpace]
  omega

/-- A run without underscores is read character by character. -/
theorem ungroupedDigits?_of_ungrouped {digitValue : Char → Option Nat} {run : List Char}
    (nonempty : run ≠ []) (ungrouped : '_' ∉ run) :
    ungroupedDigits? digitValue run =
      if run.all fun digit => (digitValue digit).isSome then some (run.filterMap digitValue)
      else none := by
  induction run with
  | nil => exact absurd rfl nonempty
  | cons digit rest induction =>
      cases rest with
      | nil => cases value : digitValue digit <;> simp [ungroupedDigits?, value]
      | cons next rest =>
          have behind := induction (by simp) fun inside => ungrouped (List.mem_cons_of_mem _ inside)
          rw [ungroupedDigits?, behind]
          · cases value : digitValue digit with
            | none => simp [value]
            | some number =>
                rw [List.filterMap_cons_some value]
                generalize next :: rest = others
                cases all : others.all fun digit => (digitValue digit).isSome <;> simp [value, all]
          · simp
          · intro _ line
            simp [(List.cons.inj line).1] at ungrouped

/-- Digits without anything between them. -/
theorem ungroupedDigits?_of_digits {digits : List Char} (nonempty : digits ≠ [])
    (decimal : ∀ digit ∈ digits, digit.isDigit = true) :
    ungroupedDigits? digitValue? digits =
      some (digits.map fun digit => digit.toNat - '0'.toNat) := by
  have values : ∀ digit ∈ digits, digitValue? digit = some (digit.toNat - '0'.toNat) :=
    fun digit inside => digitValue?_of_isDigit (decimal digit inside)
  have ungrouped : '_' ∉ digits := fun inside => ne_of_isDigit (decimal _ inside) rfl rfl
  rw [ungroupedDigits?_of_ungrouped nonempty ungrouped, if_pos, List.filterMap_congr values,
    List.filterMap_eq_map']
  rw [List.all_eq_true]
  intro digit inside
  rw [values digit inside, Option.isSome_some]

theorem valueInBase_digits (digits : List Char) :
    valueInBase 10 (digits.map fun digit => digit.toNat - '0'.toNat) =
      Nat.ofDigitChars 10 digits 0 := by
  rw [valueInBase, List.foldl_map, Nat.ofDigitChars_eq_foldl]

theorem isDigit_decimalDigits {number : Nat} {digit : Char}
    (inside : digit ∈ decimalDigits number) : digit.isDigit = true :=
  Nat.isDigit_of_mem_toDigits (by decide) (by decide) inside

theorem decimalDigits_ne_nil (number : Nat) : decimalDigits number ≠ [] :=
  Nat.toDigits_ne_nil

theorem head?_decimalDigits {number : Nat} (positive : 0 < number) :
    (decimalDigits number).head? ≠ some '0' := by
  induction number using Nat.strongRecOn with
  | ind number induction =>
      by_cases single : number < 10
      · rw [decimalDigits, Nat.toDigits_of_lt_base single, List.head?_cons, ne_eq,
          Option.some.injEq, Nat.digitChar_eq_zero]
        omega
      · have shape : decimalDigits number =
            decimalDigits (number / 10) ++ [(number % 10).digitChar] :=
          Nat.toDigits_of_base_le (by decide) (Nat.le_of_not_lt single)
        have front := List.head?_eq_some_head (decimalDigits_ne_nil (number / 10))
        rw [shape, List.head?_append, front, Option.some_or, ← front]
        exact induction (number / 10) (by omega) (by omega)

@[simp] theorem ofDigitChars_decimalDigits (number : Nat) :
    Nat.ofDigitChars 10 (decimalDigits number) 0 = number :=
  Nat.ofDigitChars_ten_toDigits

def signCharacters (negative : Bool) : List Char :=
  if negative then ['-'] else []

/-- A number in characters begins and ends with a digit, its sign apart. -/
structure HasDigitEnds (characters : List Char) : Prop where
  nonempty : characters ≠ []
  first : ∀ character, characters.head? = some character → character.isDigit = true
  last : ∀ character, characters.getLast? = some character → character.isDigit = true

theorem hasDigitEnds_of_digits {digits : List Char} (nonempty : digits ≠ [])
    (decimal : ∀ digit ∈ digits, digit.isDigit = true) : HasDigitEnds digits where
  nonempty := nonempty
  first character found := decimal character (List.mem_of_head? found)
  last character found := decimal character (List.mem_of_getLast? found)

namespace HasDigitEnds

variable {characters : List Char}

theorem trimmed (ends : HasDigitEnds characters) (negative : Bool) :
    trimWhere isNumberEdge (signCharacters negative ++ characters) =
      signCharacters negative ++ characters := by
  apply trimWhere_of_ends
  · intro character found
    cases negative with
    | false => exact isNumberEdge_of_isDigit (ends.first character found)
    | true =>
        cases found
        decide
  · intro character found
    rw [List.getLast?_append_of_ne_nil _ ends.nonempty] at found
    exact isNumberEdge_of_isDigit (ends.last character found)

theorem splitSign_eq (ends : HasDigitEnds characters) (negative : Bool) :
    splitSign (signCharacters negative ++ characters) = (negative, characters) := by
  cases negative with
  | true => rfl
  | false =>
      cases characters with
      | nil => exact absurd rfl ends.nonempty
      | cons character rest =>
          have isDigit := ends.first character rfl
          change splitSign (character :: rest) = _
          rw [splitSign]
          · intro _ minus
            exact ne_of_isDigit isDigit rfl (List.cons.inj minus).1
          · intro _ plus
            exact ne_of_isDigit isDigit rfl (List.cons.inj plus).1

end HasDigitEnds

/-- A sign and digits are read as they stand. -/
theorem readInt?_of_digits {digits : List Char} (negative : Bool) (nonempty : digits ≠ [])
    (decimal : ∀ digit ∈ digits, digit.isDigit = true) (short : digits.length ≤ digitLimit) :
    readInt? (signCharacters negative ++ digits) =
      some (if negative then -(Nat.ofDigitChars 10 digits 0 : Int)
        else Nat.ofDigitChars 10 digits 0) := by
  have ends := hasDigitEnds_of_digits nonempty decimal
  have read : natOfDigits? (digits.map fun digit => digit.toNat - '0'.toNat) =
      some (Nat.ofDigitChars 10 digits 0) := by
    rw [natOfDigits?, List.length_map, if_pos short, valueInBase_digits]
  simp only [readInt?, ends.trimmed, ends.splitSign_eq,
    ungroupedDigits?_of_digits nonempty decimal, Option.bind_eq_bind, Option.bind_some, read]
  rfl

/-- The characters of an integer. -/
def intCharacters (number : Int) : List Char :=
  signCharacters (number < 0) ++ decimalDigits number.natAbs

theorem toList_writeInt (number : Int) : (writeInt number).toList = intCharacters number := by
  cases number with
  | ofNat natural => simp [writeInt, intCharacters, signCharacters]
  | negSucc natural => simp [writeInt, intCharacters, signCharacters, Int.negSucc_lt_zero]

theorem not_mem_signCharacters {character : Char} (notMinus : character ≠ '-') (negative : Bool) :
    character ∉ signCharacters negative := by
  cases negative <;> simp [signCharacters, notMinus]

/-- An integer is written with digits, and a minus sign at most. -/
theorem not_mem_writeInt {character : Char} (notDecimal : character.isDigit = false)
    (notMinus : character ≠ '-') (number : Int) : character ∉ (writeInt number).toList := by
  rw [toList_writeInt, intCharacters, List.mem_append, not_or]
  exact ⟨not_mem_signCharacters notMinus _,
    fun inside => ne_of_isDigit (isDigit_decimalDigits inside) notDecimal rfl⟩

theorem readInt?_intCharacters {number : Int}
    (short : (decimalDigits number.natAbs).length ≤ digitLimit) :
    readInt? (intCharacters number) = some number := by
  rw [intCharacters, readInt?_of_digits _ (decimalDigits_ne_nil _)
    (fun _ inside => isDigit_decimalDigits inside) short, ofDigitChars_decimalDigits]
  simp only [decide_eq_true_eq, Option.some.injEq]
  split <;> omega

end EngineBridge.Number
