import EngineBridge.Proofs.Number.Digits
import Mathlib.Algebra.Group.Nat.Defs
import Mathlib.Data.List.Induction

/-!
Runs of characters that stand for digits.

Such a character may belong to any script, and it need not be a decimal digit: superscripts and
circled digits stand for digits too.

Main statements: an integer is read from a run of them exactly if all of them are decimal digits and
there are no more than can be read, and whatever text an integer was read from, it can be written.
-/

namespace EngineBridge

namespace Text

/-- The ranges of the characters that stand for digits. -/
def digitLikeRanges : List CodeRange :=
  digitZeros.map (fun start => ⟨start, start + 9⟩) ++ otherDigitRanges

variable {character : Char}

theorem isDigitLike_eq (character : Char) :
    isDigitLike character = inRanges digitLikeRanges character := by
  have decimal : isDecimalDigit character =
      digitZeros.any fun start => start ≤ character.toNat && character.toNat < start + 10 := by
    rw [isDecimalDigit, digitValue?, Option.isSome_map, Bool.eq_iff_iff, List.find?_isSome,
      List.any_eq_true]
  rw [isDigitLike, decimal, inRanges, inRanges, digitLikeRanges, List.any_append, List.any_map]
  congr 2
  funext start
  simp [CodeRange.contains, Nat.lt_succ_iff]

/-- Where characters stand that stand for digits: behind those that are signs, and apart from the
blank ones. -/
theorem digitLikeRanges_apart : ∀ range ∈ digitLikeRanges, 0x30 ≤ range.first ∧
    ∀ blank ∈ blankRanges, blank.last < range.first ∨ range.last < blank.first := by
  decide +kernel

theorem le_of_isDigitLike (digit : isDigitLike character = true) : 0x30 ≤ character.toNat := by
  rw [isDigitLike_eq, inRanges, List.any_eq_true] at digit
  have ⟨range, member, inside⟩ := digit
  have ⟨low, _⟩ := digitLikeRanges_apart range member
  simp only [CodeRange.contains, Bool.and_eq_true, decide_eq_true_eq] at inside
  omega

theorem isBlank_of_isDigitLike (digit : isDigitLike character = true) :
    isBlank character = false := by
  rw [isDigitLike_eq, inRanges, List.any_eq_true] at digit
  have ⟨range, member, inside⟩ := digit
  have ⟨_, apart⟩ := digitLikeRanges_apart range member
  simp only [CodeRange.contains, Bool.and_eq_true, decide_eq_true_eq] at inside
  rw [isBlank, inRanges, List.any_eq_false]
  intro blank isBlankRange
  have := apart blank isBlankRange
  simp only [CodeRange.contains, Bool.and_eq_true, decide_eq_true_eq]
  omega

end Text

namespace Number

open EngineBridge.Text

theorem isDigitLike_of_isDigit {digit : Char} (decimal : digit.isDigit = true) :
    isDigitLike digit = true := by
  rw [isDigitLike, isDecimalDigit, digitValue?_of_isDigit decimal]
  rfl

theorem isLineBoundary_of_isDigit {digit : Char} (decimal : digit.isDigit = true) :
    isLineBoundary digit = false := by
  simp only [Char.isDigit, Bool.and_eq_true, decide_eq_true_eq] at decimal
  have low : 0x30 ≤ digit.toNat := decimal.1
  have high : digit.toNat ≤ 0x39 := decimal.2
  simp only [isLineBoundary, Bool.or_eq_false_iff, Bool.and_eq_false_iff,
    decide_eq_false_iff_not, beq_eq_false_iff_ne]
  omega

theorem isNumberEdge_of_isDigitLike {digit : Char} (isDigit : isDigitLike digit = true) :
    isNumberEdge digit = false := by
  have low := le_of_isDigitLike isDigit
  have notSpace : digit ≠ ' ' := by
    rintro rfl
    exact absurd low (by decide)
  rw [isNumberEdge, isBlank_of_isDigitLike isDigit]
  split
  · simp [notSpace]
    omega
  · rfl

/-- A run of characters that stand for digits has no sign in front. -/
theorem splitSign_of_isDigitLike {digits : List Char}
    (digitLike : ∀ digit ∈ digits, isDigitLike digit = true) :
    splitSign digits = (false, digits) := by
  unfold splitSign
  split
  · exact absurd (le_of_isDigitLike (digitLike _ List.mem_cons_self)) (by decide)
  · exact absurd (le_of_isDigitLike (digitLike _ List.mem_cons_self)) (by decide)
  · rfl

/-- A run of characters that stand for digits is read as an integer exactly if they are decimal
digits, and not too many of them. -/
theorem isSome_readInt?_iff {digits : List Char} (nonempty : digits ≠ [])
    (digitLike : ∀ digit ∈ digits, isDigitLike digit = true) :
    (readInt? digits).isSome = true ↔
      (∀ digit ∈ digits, isDecimalDigit digit = true) ∧ digits.length ≤ digitLimit := by
  have trimmed : trimWhere isNumberEdge digits = digits :=
    trimWhere_of_ends
      (fun _ first => isNumberEdge_of_isDigitLike (digitLike _ (List.mem_of_head? first)))
      (fun _ last => isNumberEdge_of_isDigitLike (digitLike _ (List.mem_of_getLast? last)))
  have ungrouped : '_' ∉ digits := fun inside =>
    absurd (digitLike _ inside) (by decide +kernel)
  have all : (digits.all fun digit => (digitValue? digit).isSome) = true ↔
      ∀ digit ∈ digits, isDecimalDigit digit = true := List.all_eq_true
  rw [readInt?, trimmed, splitSign_of_isDigitLike digitLike]
  dsimp only
  rw [ungroupedDigits?_of_ungrouped nonempty ungrouped]
  by_cases decimal : ∀ digit ∈ digits, isDecimalDigit digit = true
  · have length : (digits.filterMap digitValue?).length = digits.length := by
      rw [List.length_filterMap_eq_countP, List.countP_eq_length]
      exact decimal
    rw [if_pos (all.mpr decimal), Option.bind_eq_bind, Option.bind_some, natOfDigits?,
      length]
    split
    · next short => exact iff_of_true rfl ⟨decimal, short⟩
    · next long => exact iff_of_false Bool.false_ne_true fun reads => long reads.2
  · rw [if_neg (mt all.mp decimal)]
    exact iff_of_false Bool.false_ne_true fun reads => decimal reads.1

theorem digitValue?_lt {character : Char} {value : Nat}
    (digit : digitValue? character = some value) : value < 10 := by
  obtain ⟨start, found, rfl⟩ := Option.map_eq_some_iff.mp digit
  have inside := List.find?_some found
  simp only [Bool.and_eq_true, decide_eq_true_eq] at inside
  omega

theorem lt_of_mem_ungroupedDigits? {run : List Char} {digits : List Nat}
    (read : ungroupedDigits? digitValue? run = some digits) : ∀ digit ∈ digits, digit < 10 := by
  fun_induction ungroupedDigits? digitValue? run generalizing digits with
  | case1 => cases read
  | case2 character =>
      obtain ⟨value, found, rfl⟩ := Option.map_eq_some_iff.mp read
      simpa using digitValue?_lt found
  | case3 character rest induction =>
      obtain ⟨value, found, read⟩ := Option.bind_eq_some_iff.mp read
      obtain ⟨behind, foundBehind, shape⟩ := Option.bind_eq_some_iff.mp read
      cases shape
      exact List.forall_mem_cons.mpr ⟨digitValue?_lt found, induction foundBehind⟩
  | case4 character rest _ _ induction =>
      obtain ⟨value, found, read⟩ := Option.bind_eq_some_iff.mp read
      obtain ⟨behind, foundBehind, shape⟩ := Option.bind_eq_some_iff.mp read
      cases shape
      exact List.forall_mem_cons.mpr ⟨digitValue?_lt found, induction foundBehind⟩

theorem valueInBase_lt {digits : List Nat} (decimal : ∀ digit ∈ digits, digit < 10) :
    valueInBase 10 digits < 10 ^ digits.length := by
  induction digits using List.reverseRecOn with
  | nil => exact Nat.one_pos
  | append_singleton front last induction =>
      have before := induction fun digit inside => decimal digit (List.mem_append_left _ inside)
      have here := decimal last (by simp)
      have shape : valueInBase 10 (front ++ [last]) = 10 * valueInBase 10 front + last := by
        rw [valueInBase, List.foldl_append]
        rfl
      rw [shape, List.length_append, List.length_singleton, Nat.pow_succ]
      omega

/-- An integer that was read has no more digits than can be written. -/
theorem isWritable_of_readInt? {characters : List Char} {number : Int}
    (read : readInt? characters = some number) : isWritable number = true := by
  obtain ⟨digits, found, read⟩ := Option.bind_eq_some_iff.mp read
  obtain ⟨magnitude, value, signed⟩ := Option.bind_eq_some_iff.mp read
  obtain ⟨short, same⟩ := Option.ite_none_right_eq_some.mp value
  have size : number.natAbs = magnitude := by
    cases signed
    split <;> simp
  have small : magnitude < 10 ^ digitLimit :=
    calc magnitude = valueInBase 10 digits := (Option.some.inj same).symm
      _ < 10 ^ digits.length := valueInBase_lt (lt_of_mem_ungroupedDigits? found)
      _ ≤ 10 ^ digitLimit := Nat.pow_le_pow_right (by decide) short
  rw [isWritable, decide_eq_true_eq, size]
  exact (Nat.length_toDigits_le_iff (by decide) (by decide)).mpr small

end Number

end EngineBridge
