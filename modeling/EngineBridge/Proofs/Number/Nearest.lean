import EngineBridge.Number.Reading
import EngineBridge.Proofs.Number.Packed

/-!
Decimals read as floats.

Main statement: a decimal that is near to a float is read as this float.
-/

namespace EngineBridge.Number

open Float.Model Float.Model.UnpackedFloat

variable {float : Binary} {value : ℚ} {mantissa first second : ℕ} {exponent : ℤ}

theorem locates_of_eq (same : value = mantissa * 2 ^ exponent) :
    Locates (ExtendedMantissa.ofMantissaAndAccuracy mantissa .exact) (value / 2 ^ exponent) := by
  rw [same, mul_div_assoc, div_self (by positivity), mul_one]
  exact Locates.exact mantissa

/-- A product with enough bits is rounded to the float that is near to it. -/
theorem mul_of_isNear (canonical : float.IsCanonical) (near : float.IsNear value)
    {firstExponent secondExponent : ℤ} (firstPos : 0 < first) (secondPos : 0 < second)
    (same : value = first * 2 ^ firstExponent * (second * 2 ^ secondExponent))
    (long : 2 ^ 52 ≤ first * second) :
    UnpackedFloat.mul Format.binary64 (.finite .positive first firstExponent firstPos)
        (.finite .positive second secondExponent secondPos) =
      .finite .positive float.mantissa float.exponent canonical.pos := by
  have product : value = ((first * second : ℕ) : ℚ) * 2 ^ (firstExponent + secondExponent) := by
    rw [same, zpow_add₀ (by norm_num)]
    push_cast
    ring
  have bits : 52 ≤ (first * second).log2 :=
    (Nat.le_log2 (by positivity)).mpr long
  apply roundWithAccuracy_of_isNear canonical near (locates_of_eq product)
  rw [targetExponent_eq]
  omega

/-- What is left over in a division says where the quotient lies. -/
theorem locates_div (dividend : ℕ) {divisor : ℕ} (positive : 0 < divisor) :
    Locates (ExtendedMantissa.ofMantissaAndAccuracy (dividend / divisor)
      (accuracyOfFraction (dividend % divisor) divisor)) ((dividend : ℚ) / divisor) := by
  have scale : (0 : ℚ) < divisor := Nat.cast_pos.mpr positive
  have bound : ((dividend % divisor : ℕ) : ℚ) < divisor :=
    Nat.cast_lt.mpr (Nat.mod_lt dividend positive)
  have parts : (dividend : ℚ) / divisor =
      ((dividend / divisor : ℕ) : ℚ) + ((dividend % divisor : ℕ) : ℚ) / divisor := by
    have whole : ((dividend % divisor : ℕ) : ℚ) + divisor * ((dividend / divisor : ℕ) : ℚ) =
        dividend := by
      exact_mod_cast Nat.mod_add_div dividend divisor
    rw [div_eq_iff scale.ne', add_mul, div_mul_cancel₀ _ scale.ne', ← whole]
    ring
  have doubled : 2 * (((dividend % divisor : ℕ) : ℚ) / divisor) =
      ((2 * (dividend % divisor) : ℕ) : ℚ) / divisor := by
    push_cast
    ring
  rw [parts, accuracyOfFraction]
  split
  · rename_i none
    simp [Locates, ExtendedMantissa.ofMantissaAndAccuracy, none]
  · rename_i some
    have above : 0 < ((dividend % divisor : ℕ) : ℚ) / divisor :=
      div_pos (Nat.cast_pos.mpr (Nat.pos_of_ne_zero some)) scale
    have below : ((dividend % divisor : ℕ) : ℚ) / divisor < 1 := (div_lt_one scale).mpr bound
    cases order : compare (2 * (dividend % divisor)) divisor with
    | lt =>
        have less : ((2 * (dividend % divisor) : ℕ) : ℚ) / divisor < 1 :=
          (div_lt_one scale).mpr (Nat.cast_lt.mpr (Nat.compare_eq_lt.mp order))
        simp only [Locates, ExtendedMantissa.ofMantissaAndAccuracy]
        constructor <;> linarith
    | eq =>
        have same : ((2 * (dividend % divisor) : ℕ) : ℚ) / divisor = 1 := by
          rw [Nat.compare_eq_eq.mp order]
          exact div_self scale.ne'
        simp only [Locates, ExtendedMantissa.ofMantissaAndAccuracy]
        linarith
    | gt =>
        have more : 1 < ((2 * (dividend % divisor) : ℕ) : ℚ) / divisor :=
          (one_lt_div scale).mpr (Nat.cast_lt.mpr (Nat.compare_eq_gt.mp order))
        simp only [Locates, ExtendedMantissa.ofMantissaAndAccuracy]
        constructor <;> linarith

/-- A quotient is rounded to the float that is near to it. -/
theorem div_of_isNear (canonical : float.IsCanonical) (near : float.IsNear value)
    {firstExponent secondExponent : ℤ} (firstPos : 0 < first) (secondPos : 0 < second)
    (same : value = first * 2 ^ firstExponent / (second * 2 ^ secondExponent)) :
    UnpackedFloat.div Format.binary64 (.finite .positive first firstExponent firstPos)
        (.finite .positive second secondExponent secondPos) =
      .finite .positive float.mantissa float.exponent canonical.pos := by
  -- the exponent of the quotient, and by how many bits the dividend is lengthened for it
  let target : ℤ := min (firstExponent - secondExponent)
    (max (((first.log2 : ℤ) + 1 + firstExponent) - (second.log2 + 1 + secondExponent) - 53) (-1074))
  let longer : ℕ := (firstExponent - secondExponent - target).toNat
  have reached : (longer : ℤ) + target = firstExponent - secondExponent := by
    omega
  have scaled : value / 2 ^ target = ((first <<< longer : ℕ) : ℚ) / second := by
    have power : (2 : ℚ) ^ longer = 2 ^ firstExponent / 2 ^ secondExponent / 2 ^ target := by
      rw [← zpow_natCast, ← zpow_sub₀ (by norm_num), ← zpow_sub₀ (by norm_num), ← reached]
      congr 1
      omega
    rw [same, Nat.shiftLeft_eq]
    push_cast
    rw [power]
    field_simp
  have located := locates_div (first <<< longer) secondPos
  rw [← scaled] at located
  apply roundWithAccuracy_of_isNear canonical near located
  rw [targetExponent_eq]
  by_cases least : target ≤ -1074
  · exact le_max_of_le_right least
  · have longEnough : (53 + second.log2 : ℕ) ≤ first.log2 + longer := by omega
    have bits : 52 ≤ ((first <<< longer) / second).log2 := by
      have quotient : 2 ^ 52 ≤ (first <<< longer) / second := by
        rw [Nat.le_div_iff_mul_le secondPos, Nat.shiftLeft_eq]
        calc 2 ^ 52 * second ≤ 2 ^ 52 * 2 ^ (second.log2 + 1) :=
              Nat.mul_le_mul_left _ Nat.lt_log2_self.le
          _ = 2 ^ (53 + second.log2) := by
              rw [← Nat.pow_add]
              congr 1
              omega
          _ ≤ 2 ^ (first.log2 + longer) := Nat.pow_le_pow_right (by norm_num) longEnough
          _ = 2 ^ first.log2 * 2 ^ longer := Nat.pow_add ..
          _ ≤ first * 2 ^ longer :=
              Nat.mul_le_mul_right _ (Nat.log2_self_le (Nat.pos_iff_ne_zero.mp firstPos))
      exact (Nat.le_log2 (Nat.pos_iff_ne_zero.mp (Nat.lt_of_lt_of_le (by norm_num) quotient))).mpr
        quotient
    apply le_max_of_le_left
    omega

/-- A power with a whole exponent as a quotient of powers with natural ones. -/
theorem zpow_eq_div {base : ℚ} (nonzero : base ≠ 0) (exponent : ℤ) :
    base ^ exponent = base ^ exponent.toNat / base ^ (-exponent).toNat := by
  rw [eq_div_iff (pow_ne_zero _ nonzero), ← zpow_natCast, ← zpow_natCast, ← zpow_add₀ nonzero]
  congr 1
  omega

theorem Binary.value_eq_natCast {whole : ℕ}
    (scaled : float.mantissa * 2 ^ float.exponent.toNat = whole * 2 ^ (-float.exponent).toNat) :
    float.value = whole := by
  rw [Binary.value, zpow_eq_div (by norm_num), ← mul_div_assoc, div_eq_iff (by positivity)]
  exact_mod_cast scaled

theorem ofScientific_of_isNear (canonical : float.IsCanonical) (near : float.IsNear value)
    {digits : ℕ} (positive : 0 < digits) (same : value = digits * 10 ^ exponent)
    (least : -2048 - (digits.log2 : ℤ) ≤ exponent) (most : exponent ≤ 2048) :
    UnpackedFloat.ofScientific Format.binary64 digits exponent =
      .finite .positive float.mantissa float.exponent canonical.pos := by
  have notHuge : ¬ exponent > 2 ^ Format.binary64.exponentBits := by
    change ¬ exponent > 2048
    omega
  have notTiny : ¬ exponent < -((2 ^ Format.binary64.exponentBits : ℤ) + digits.log2) := by
    change ¬ exponent < -((2048 : ℤ) + digits.log2)
    omega
  rw [zpow_eq_div (by norm_num)] at same
  rw [UnpackedFloat.ofScientific, dif_neg (Nat.pos_iff_ne_zero.mp positive), if_neg notHuge,
    if_neg notTiny]
  split
  · rename_i whole
    have none : (-exponent).toNat = 0 := by omega
    have lengthened : 2 ^ 52 ≤ (digits <<< 53) * 10 ^ exponent.toNat := by
      rw [Nat.shiftLeft_eq]
      calc 2 ^ 52 ≤ 1 * 2 ^ 53 * 1 := by norm_num
        _ ≤ digits * 2 ^ 53 * 10 ^ exponent.toNat :=
            Nat.mul_le_mul (Nat.mul_le_mul_right _ positive) (Nat.pow_pos (by norm_num))
    have product : value = ((digits <<< 53 : ℕ) : ℚ) * 2 ^ (-53 : ℤ) *
        (((10 ^ exponent.toNat : ℕ) : ℚ) * 2 ^ (0 : ℤ)) := by
      rw [same, none, Nat.shiftLeft_eq]
      push_cast
      rw [zpow_neg]
      norm_num
      ring
    exact mul_of_isNear canonical near _ _ product lengthened
  · rename_i fraction
    have none : exponent.toNat = 0 := by omega
    apply div_of_isNear canonical near
    rw [same, none]
    simp [div_eq_mul_inv]

/-- A product of floats is the float near to the product of their values. -/
theorem withSign_mul {left right : Binary} (leftCanonical : left.IsCanonical)
    (rightCanonical : right.IsCanonical) (canonical : float.IsCanonical)
    (near : float.IsNear (left.value * right.value)) (long : 2 ^ 52 ≤ left.mantissa) :
    left.withSign leftCanonical .positive * right.withSign rightCanonical .positive =
      float.withSign canonical .positive := by
  change Float.ofModel (.pack (UnpackedFloat.mul Format.binary64
    (left.withSign leftCanonical .positive).toModel.unpack
    (right.withSign rightCanonical .positive).toModel.unpack)) = _
  rw [Binary.unpack_withSign, Binary.unpack_withSign]
  rw [mul_of_isNear canonical near leftCanonical.pos rightCanonical.pos rfl
    (Nat.le_trans long (Nat.le_mul_of_pos_right _ rightCanonical.pos))]
  rfl

theorem withSign_div {left right : Binary} (leftCanonical : left.IsCanonical)
    (rightCanonical : right.IsCanonical) (canonical : float.IsCanonical)
    (near : float.IsNear (left.value / right.value)) :
    left.withSign leftCanonical .positive / right.withSign rightCanonical .positive =
      float.withSign canonical .positive := by
  change Float.ofModel (.pack (UnpackedFloat.div Format.binary64
    (left.withSign leftCanonical .positive).toModel.unpack
    (right.withSign rightCanonical .positive).toModel.unpack)) = _
  rw [Binary.unpack_withSign, Binary.unpack_withSign]
  rw [div_of_isNear canonical near leftCanonical.pos rightCanonical.pos rfl]
  rfl

/-- The powers of ten that are kept as floats have their values. -/
theorem exists_powerOfTen (index : Fin 23) :
    ∃ (power : Binary) (canonical : power.IsCanonical),
      Float.exactlyRepresentablePowersOfTen[index] = power.withSign canonical .positive ∧
        power.value = 10 ^ (index : ℕ) := by
  have fields : ∀ index : Fin 23,
      let power := Float.exactlyRepresentablePowersOfTen[index]
      exponentField power.toBits ≠ 2047 ∧ isNegative power = false ∧
        (Binary.ofFloat power).mantissa ≠ 0 ∧
        (Binary.ofFloat power).mantissa * 2 ^ (Binary.ofFloat power).exponent.toNat =
          10 ^ (index : ℕ) * 2 ^ (-(Binary.ofFloat power).exponent).toNat := by
    decide +kernel
  have ⟨isFinite, positive, nonzero, scaled⟩ := fields index
  have canonical := isCanonical_ofBits _ isFinite nonzero
  refine ⟨Binary.ofFloat Float.exactlyRepresentablePowersOfTen[index], canonical, ?_, ?_⟩
  · have packed := Binary.withSign_ofFloat canonical
    rw [signOfBits_eq, positive] at packed
    exact packed.symm
  · rw [Binary.value_eq_natCast scaled]
    push_cast
    rfl

/-- A number that is no longer than a mantissa can be made as long as this. -/
theorem exists_lengthened {digits : ℕ} (positive : 0 < digits) (small : digits < 2 ^ 53) :
    ∃ missing, digits.log2 + missing = 52 ∧
      2 ^ 52 ≤ digits * 2 ^ missing ∧ digits * 2 ^ missing < 2 ^ 53 := by
  have bits : digits.log2 ≤ 52 :=
    Nat.le_of_lt_succ ((Nat.log2_lt (Nat.pos_iff_ne_zero.mp positive)).mpr small)
  have lower := Nat.log2_self_le (Nat.pos_iff_ne_zero.mp positive)
  have upper := @Nat.lt_log2_self digits
  have ⟨missing, all⟩ := Nat.exists_eq_add_of_le bits
  have full : 2 ^ digits.log2 * 2 ^ missing = 2 ^ 52 := by
    rw [← Nat.pow_add, ← all]
  refine ⟨missing, all.symm, ?_, ?_⟩
  · rw [← full]
    exact Nat.mul_le_mul_right _ lower
  · calc digits * 2 ^ missing < 2 ^ (digits.log2 + 1) * 2 ^ missing :=
          Nat.mul_lt_mul_of_pos_right upper (by positivity)
      _ = 2 * (2 ^ digits.log2 * 2 ^ missing) := by ring
      _ = 2 ^ 53 := by rw [full]; rfl

/-- A natural number that fits is a float of full length. -/
theorem exists_ofNat {digits : ℕ} (positive : 0 < digits) (small : digits < 2 ^ 53) :
    ∃ (whole : Binary) (canonical : whole.IsCanonical),
      digits.toUInt64.toFloat = whole.withSign canonical .positive ∧ whole.value = digits ∧
        2 ^ 52 ≤ whole.mantissa := by
  have ⟨missing, bits, long, short⟩ := exists_lengthened positive small
  let whole : Binary := ⟨digits * 2 ^ missing, -missing, digits * 2 ^ missing == 2 ^ 52⟩
  have canonical : whole.IsCanonical := by
    constructor <;> simp only [whole, beq_iff_eq] <;> omega
  have same : whole.value = digits := by
    apply Binary.value_eq_natCast
    simp [whole]
  have located : Locates (ExtendedMantissa.ofMantissaAndAccuracy whole.mantissa .exact)
      (whole.value / 2 ^ whole.exponent) :=
    locates_of_eq rfl
  have wholeBits : whole.mantissa.log2 = 52 := by
    have fewer := (Nat.log2_lt (Nat.pos_iff_ne_zero.mp canonical.pos)).mpr short
    have more := (Nat.le_log2 (Nat.pos_iff_ne_zero.mp canonical.pos)).mpr long
    omega
  have fits : whole.exponent ≤
      Format.binary64.targetExponent (totalExponent whole.mantissa whole.exponent) := by
    rw [targetExponent_eq, wholeBits]
    omega
  have target : Format.binary64.targetExponent (totalExponent digits 0) = -missing := by
    rw [targetExponent_eq]
    omega
  have lengthened : decreaseExponent digits 0 (-missing) = (whole.mantissa, whole.exponent) := by
    simp [decreaseExponent, whole, Nat.shiftLeft_eq]
  have word : digits.toUInt64.toNat = digits :=
    Nat.mod_eq_of_lt (Nat.lt_trans small (by norm_num))
  have above : compare (digits : ℤ) 0 = .gt := Int.compare_eq_gt.mpr (Int.natCast_pos.mpr positive)
  refine ⟨whole, canonical, ?_, same, long⟩
  change Float.ofModel (.pack (normalize Format.binary64 (digits.toUInt64.toNat : ℤ) 0 .positive)) = _
  rw [word, UnpackedFloat.normalize, above]
  simp only [UnpackedFloat.round, Int.toNat_natCast, target, lengthened]
  rw [roundWithAccuracy_of_isNear canonical whole.isNear_value located fits]
  rfl

/-- A decimal near to a float is this float. -/
theorem floatOfScientific_of_isNear (canonical : float.IsCanonical) (near : float.IsNear value)
    {digits : ℕ} (positive : 0 < digits) (same : value = digits * 10 ^ exponent)
    (least : -2048 - (digits.log2 : ℤ) ≤ exponent) (most : exponent ≤ 2048) :
    Float.ofScientific digits (exponent < 0) exponent.natAbs =
      float.withSign canonical .positive := by
  rw [Float.ofScientific]
  split
  · rename_i fast
    obtain ⟨whole, wholeCanonical, wholeEq, wholeValue, long⟩ := exists_ofNat positive fast.1
    obtain ⟨power, powerCanonical, powerEq, powerValue⟩ :=
      exists_powerOfTen ⟨exponent.natAbs, by omega⟩
    have bound : exponent.natAbs < Float.exactlyRepresentablePowersOfTen.size := by
      simp [Float.exactlyRepresentablePowersOfTen]
      omega
    have entry : Float.exactlyRepresentablePowersOfTen[exponent.natAbs] =
        power.withSign powerCanonical .positive := powerEq
    simp only [wholeEq, entry]
    split
    · rename_i below
      have fraction : exponent.toNat = 0 ∧ (-exponent).toNat = exponent.natAbs := by
        simp at below
        omega
      have quotient : value = whole.value / power.value := by
        rw [same, wholeValue, powerValue, zpow_eq_div (by norm_num), fraction.1, fraction.2]
        simp [div_eq_mul_inv]
      rw [quotient] at near
      exact withSign_div _ _ canonical near
    · rename_i above
      have natural : exponent.toNat = exponent.natAbs ∧ (-exponent).toNat = 0 := by
        simp at above
        omega
      have product : value = whole.value * power.value := by
        rw [same, wholeValue, powerValue, zpow_eq_div (by norm_num), natural.1, natural.2]
        simp
      rw [product] at near
      exact withSign_mul _ _ canonical near long
  · have signed : (if decide (exponent < 0) = true then Int.negOfNat exponent.natAbs
        else Int.ofNat exponent.natAbs) = exponent := by
      by_cases below : exponent < 0
      · rw [if_pos (decide_eq_true below), Int.negOfNat_eq, Int.ofNat_eq_natCast]
        omega
      · rw [if_neg (by simp [below]), Int.ofNat_eq_natCast]
        omega
    simp only [signed]
    rw [Float.Model.ofScientific, ofScientific_of_isNear canonical near positive same least most]
    rfl

namespace Binary

theorem two_pow_le : (2 : ℚ) ^ (1200 : ℤ) ≤ 10 ^ (400 : ℤ) := by
  have eight : (2 : ℚ) ^ (1200 : ℤ) = 8 ^ 400 := by
    rw [show (8 : ℚ) = 2 ^ 3 by norm_num, ← pow_mul]
    rfl
  rw [eight]
  exact pow_le_pow_left₀ (by norm_num) (by norm_num) 400

theorem IsNear.lt_bound (near : float.IsNear value) (canonical : float.IsCanonical) :
    value < 10 ^ (400 : ℤ) := by
  have most := canonical.exponent_le
  calc value < 2 ^ (float.exponent + 53) := near.lt canonical
    _ ≤ 2 ^ (1200 : ℤ) := zpow_le_zpow_right₀ (by norm_num) (by omega)
    _ ≤ 10 ^ (400 : ℤ) := two_pow_le

theorem IsNear.bound_lt (near : float.IsNear value) (canonical : float.IsCanonical) :
    10 ^ (-400 : ℤ) < value := by
  have least := canonical.le_exponent
  have above := near.rounds.above
  have atLeast : (1 : ℚ) ≤ float.mantissa := Nat.one_le_cast.mpr canonical.pos
  have half : 1 / 2 ≤ value / 2 ^ float.exponent := by linarith
  rw [le_div_iff₀ (by positivity)] at half
  calc (10 : ℚ) ^ (-400 : ℤ) ≤ 2 ^ (-1200 : ℤ) := by
        rw [zpow_neg, zpow_neg]
        exact inv_anti₀ (by positivity) two_pow_le
    _ < 2 ^ (float.exponent - 1) := zpow_lt_zpow_right₀ (by norm_num) (by omega)
    _ = 1 / 2 * 2 ^ float.exponent := by
        rw [zpow_sub_one₀ (by norm_num)]
        ring
    _ ≤ value := half

theorem IsNear.pos (near : float.IsNear value) (canonical : float.IsCanonical) : 0 < value :=
  lt_trans (by positivity) (near.bound_lt canonical)

end Binary

/-- A number lies between the powers of ten that its decimal digits tell. -/
theorem decimal_between {digits : ℕ} (positive : 0 < digits) :
    10 ^ ((Nat.toDigits 10 digits).length - 1) ≤ digits ∧
      digits < 10 ^ (Nat.toDigits 10 digits).length := by
  have sizePos : 0 < (Nat.toDigits 10 digits).length := Nat.length_toDigits_pos
  constructor
  · rcases Nat.eq_zero_or_pos ((Nat.toDigits 10 digits).length - 1) with one | more
    · rw [one]
      exact positive
    · apply Nat.le_of_not_lt
      intro less
      have fewer := (Nat.length_toDigits_le_iff (by norm_num) more).mpr less
      omega
  · exact (Nat.length_toDigits_le_iff (by norm_num) sizePos).mp (Nat.le_refl _)

/-- A decimal near to a float is read as this float. -/
theorem floatOfDecimal_of_isNear (canonical : float.IsCanonical) {digits : ℕ}
    (near : float.IsNear (digits * 10 ^ exponent)) :
    floatOfDecimal digits exponent = float.withSign canonical .positive := by
  have positive : 0 < digits := by
    apply Nat.pos_of_ne_zero
    intro zero
    have above := near.pos canonical
    simp [zero] at above
  have above := near.bound_lt canonical
  have below := near.lt_bound canonical
  let size := (Nat.toDigits 10 digits).length
  have sizePos : 0 < size := Nat.length_toDigits_pos
  have ⟨long, short⟩ : 10 ^ (size - 1) ≤ digits ∧ digits < 10 ^ size := decimal_between positive
  have notTiny : ¬ exponent + size < -400 := by
    intro tiny
    have bound : (digits : ℚ) * 10 ^ exponent < 10 ^ (-400 : ℤ) := by
      calc (digits : ℚ) * 10 ^ exponent < 10 ^ size * 10 ^ exponent := by
            have shortRational : (digits : ℚ) < 10 ^ size := by exact_mod_cast short
            exact mul_lt_mul_of_pos_right shortRational (by positivity)
        _ = 10 ^ (exponent + size) := by
            rw [zpow_add₀ (by norm_num), zpow_natCast, mul_comm]
        _ ≤ 10 ^ (-400 : ℤ) := zpow_le_zpow_right₀ (by norm_num) (by omega)
    exact lt_asymm above bound
  have notHuge : ¬ exponent + size > 400 := by
    intro huge
    have bound : (10 : ℚ) ^ (400 : ℤ) ≤ digits * 10 ^ exponent := by
      calc (10 : ℚ) ^ (400 : ℤ) ≤ 10 ^ (exponent + (size - 1 : ℕ)) :=
            zpow_le_zpow_right₀ (by norm_num) (by omega)
        _ = 10 ^ (size - 1) * 10 ^ exponent := by
            rw [zpow_add₀ (by norm_num), zpow_natCast, mul_comm]
        _ ≤ digits * 10 ^ exponent := by
            have longRational : (10 : ℚ) ^ (size - 1) ≤ digits := by exact_mod_cast long
            exact mul_le_mul_of_nonneg_right longRational (by positivity)
    exact not_lt_of_ge bound below
  have bits : size - 1 ≤ digits.log2 := by
    rw [Nat.le_log2 (Nat.pos_iff_ne_zero.mp positive)]
    exact Nat.le_trans (Nat.pow_le_pow_left (by norm_num) _) long
  rw [floatOfDecimal, if_neg (by simpa using Nat.pos_iff_ne_zero.mp positive)]
  simp only [size] at notTiny notHuge
  rw [if_neg notTiny, if_neg notHuge]
  exact floatOfScientific_of_isNear canonical near positive rfl (by omega) (by omega)

end EngineBridge.Number
