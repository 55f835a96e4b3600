import EngineBridge.Proofs.Number.Rounding

/-!
Floats and their bits.

Main statements: the parts of a finite float above or below zero are a sign and a canonical
mantissa with its exponent, and the float is what these parts are packed to.
-/

namespace EngineBridge.Number

open Float.Model Float.Model.UnpackedFloat

theorem unpackSign_packComponents {format : Format} (sign : Sign)
    (exponent : BitVec format.exponentBits)
    (mantissa : BitVec format.mantissaBitsWithoutImplicit) :
    unpackSign (packComponents format sign exponent mantissa) = sign.toBitVec := by
  apply BitVec.eq_of_getLsbD_eq
  intro index bound
  have first : index = 0 := by omega
  subst first
  simp [unpackSign, packComponents, BitVec.getLsbD_append, BitVec.getElem_append]

section

variable (bits : UInt64)

def exponentField : ℕ :=
  bits.toNat / 2 ^ 52 % 2 ^ 11

def fractionField : ℕ :=
  bits.toNat % 2 ^ 52

theorem toNat_exponent : ((bits >>> 52) &&& 0x7FF).toNat = exponentField bits := by
  rw [UInt64.toNat_and, UInt64.toNat_shiftRight]
  change (bits.toNat >>> 52) &&& (2 ^ 11 - 1) = _
  rw [Nat.and_two_pow_sub_one_eq_mod, Nat.shiftRight_eq_div_pow]
  rfl

theorem toNat_fraction : (bits &&& 0xFFFFFFFFFFFFF).toNat = fractionField bits := by
  rw [UInt64.toNat_and]
  change bits.toNat &&& (2 ^ 52 - 1) = _
  rw [Nat.and_two_pow_sub_one_eq_mod]
  rfl

theorem toNat_unpackExponent :
    (@unpackExponent Format.binary64 bits.toBitVec).toNat = exponentField bits := by
  simp [unpackExponent, exponentField, Nat.shiftRight_eq_div_pow]

theorem toNat_unpackMantissa :
    (@unpackMantissa Format.binary64 bits.toBitVec).toNat = fractionField bits := by
  simp [unpackMantissa, fractionField]

theorem packComponents_unpack :
    packComponents Format.binary64
      (Sign.ofBitVec (@unpackSign Format.binary64 bits.toBitVec))
      (@unpackExponent Format.binary64 bits.toBitVec)
      (@unpackMantissa Format.binary64 bits.toBitVec) = bits.toBitVec := by
  have sign (bit : BitVec 1) : (Sign.ofBitVec bit).toBitVec = bit := by
    rcases BitVec.eq_zero_or_eq_one bit with rfl | rfl <;> rfl
  simp only [packComponents, sign, unpackSign, unpackExponent, unpackMantissa, BitVec.extractLsb]
  ext i hi
  grind

theorem ofBits_of_zero (subnormal : exponentField bits = 0) :
    Binary.ofBits bits = ⟨fractionField bits, -1074, false⟩ := by
  simp only [Binary.ofBits, toNat_exponent, toNat_fraction]
  simp [subnormal]

theorem ofBits_of_pos (normal : exponentField bits ≠ 0) :
    Binary.ofBits bits = ⟨2 ^ 52 + fractionField bits, (exponentField bits : ℤ) - 1075,
      fractionField bits == 0 && decide (1 < exponentField bits)⟩ := by
  simp only [Binary.ofBits, toNat_exponent, toNat_fraction]
  simp [normal]

theorem isCanonical_ofBits (finite : exponentField bits ≠ 2047)
    (nonzero : (Binary.ofBits bits).mantissa ≠ 0) : (Binary.ofBits bits).IsCanonical := by
  have fraction : fractionField bits < 2 ^ 52 := Nat.mod_lt _ (by norm_num)
  have exponent : exponentField bits < 2 ^ 11 := Nat.mod_lt _ (by norm_num)
  by_cases subnormal : exponentField bits = 0
  · rw [ofBits_of_zero bits subnormal] at nonzero ⊢
    constructor <;> simp at nonzero ⊢ <;> omega
  · rw [ofBits_of_pos bits subnormal]
    constructor <;> simp <;> omega

/-- The sign of a float with these bits. -/
def signOfBits : Sign :=
  Sign.ofBitVec (@unpackSign Format.binary64 bits.toBitVec)

/-- The bits of a finite float are unpacked to its parts. -/
theorem unpack_of_finite (finite : exponentField bits ≠ 2047)
    (nonzero : (Binary.ofBits bits).mantissa ≠ 0) :
    UnpackedFloat.unpack Format.binary64 bits.toBitVec =
      .finite (signOfBits bits) (Binary.ofBits bits).mantissa (Binary.ofBits bits).exponent
        (Nat.pos_of_ne_zero nonzero) := by
  have exponentVector := toNat_unpackExponent bits
  have mantissaVector := toNat_unpackMantissa bits
  have notAll : @unpackExponent Format.binary64 bits.toBitVec ≠ -1#_ := by
    intro same
    rw [same] at exponentVector
    exact finite exponentVector.symm
  by_cases subnormal : exponentField bits = 0
  · have zero : @unpackExponent Format.binary64 bits.toBitVec = 0#_ := by
      apply BitVec.eq_of_toNat_eq
      rw [exponentVector, subnormal]
      rfl
    have parts := ofBits_of_zero bits subnormal
    have notNone : @unpackMantissa Format.binary64 bits.toBitVec ≠ 0#_ := by
      intro same
      rw [same] at mantissaVector
      rw [parts] at nonzero
      exact nonzero mantissaVector.symm
    simp only [UnpackedFloat.unpack, if_false, zero, if_true, notNone, dif_neg, not_false_eq_true, parts,
      signOfBits, mantissaVector]
    rfl
  · have notZero : @unpackExponent Format.binary64 bits.toBitVec ≠ 0#_ := by
      intro same
      rw [same] at exponentVector
      exact subnormal exponentVector.symm
    have implicit : (1#1 ++ @unpackMantissa Format.binary64 bits.toBitVec).toNat =
        2 ^ 52 + fractionField bits := by
      rw [BitVec.toNat_append, ← Nat.shiftLeft_add_eq_or_of_lt (BitVec.isLt _), mantissaVector]
      rfl
    simp only [UnpackedFloat.unpack, notAll, if_false, notZero, ofBits_of_pos bits subnormal, implicit,
      signOfBits, exponentVector]
    rfl

end

namespace Binary

variable {float : Binary}

/-- The exponent as it stands among the bits: zero for a mantissa that is too short. -/
def storedExponent (float : Binary) : ℕ :=
  if float.mantissa < 2 ^ 52 then 0 else (float.exponent + 1075).toNat

theorem IsCanonical.storedExponent_lt (canonical : float.IsCanonical) :
    float.storedExponent < 2047 := by
  have most := canonical.exponent_le
  unfold storedExponent
  split <;> omega

theorem IsCanonical.pack_eq (canonical : float.IsCanonical) (sign : Sign) :
    UnpackedFloat.pack Format.binary64
        (.finite sign float.mantissa float.exponent canonical.pos) =
      packComponents Format.binary64 sign (BitVec.ofNat _ float.storedExponent)
        (BitVec.ofNat _ float.mantissa) := by
  have least := canonical.le_exponent
  have most := canonical.exponent_le
  have positive := Nat.pos_iff_ne_zero.mp canonical.pos
  have room : ¬ 2 ^ 11 ≤ (float.exponent + ((1023 : ℕ) : ℤ) + ((52 : ℕ) : ℤ)).toNat + 1 := by
    omega
  by_cases short : float.mantissa < 2 ^ 52
  · have bits : ¬ float.mantissa.log2 + 1 = 53 := by
      have := (Nat.log2_lt positive).mpr short
      omega
    rw [UnpackedFloat.pack, storedExponent, if_pos short]
    exact (if_neg room).trans (if_neg bits)
  · have bits : float.mantissa.log2 + 1 = 53 := by
      have fewer := (Nat.log2_lt positive).mpr canonical.mantissa_lt
      have more := (Nat.le_log2 positive).mpr (Nat.le_of_not_lt short)
      omega
    have stored : (float.exponent + ((1023 : ℕ) : ℤ) + ((52 : ℕ) : ℤ)).toNat =
        (float.exponent + 1075).toNat := by
      omega
    rw [UnpackedFloat.pack, storedExponent, if_neg short, ← stored]
    exact (if_neg room).trans (if_pos bits)

theorem eq_of_toBits_eq {first second : Float} (same : first.toBits = second.toBits) :
    first = second := by
  obtain ⟨⟨firstBits, _⟩⟩ := first
  obtain ⟨⟨secondBits, _⟩⟩ := second
  cases same
  rfl

/-- The float with a sign and the parts of a float above zero. -/
def withSign (float : Binary) (canonical : float.IsCanonical) (sign : Sign) : Float :=
  Float.ofModel (.pack (.finite sign float.mantissa float.exponent canonical.pos))

theorem toBits_withSign (canonical : float.IsCanonical) (sign : Sign) :
    (float.withSign canonical sign).toBits.toBitVec =
      packComponents Format.binary64 sign (BitVec.ofNat _ float.storedExponent)
        (BitVec.ofNat _ float.mantissa) :=
  canonical.pack_eq sign

theorem exponentField_withSign (canonical : float.IsCanonical) (sign : Sign) :
    exponentField (float.withSign canonical sign).toBits = float.storedExponent := by
  have stored := canonical.storedExponent_lt
  rw [← toNat_unpackExponent, toBits_withSign, unpackExponent_packComponents, BitVec.toNat_ofNat]
  exact Nat.mod_eq_of_lt (Nat.lt_trans stored (by decide : 2047 < 2 ^ 11))

theorem fractionField_withSign (canonical : float.IsCanonical) (sign : Sign) :
    fractionField (float.withSign canonical sign).toBits = float.mantissa % 2 ^ 52 := by
  rw [← toNat_unpackMantissa, toBits_withSign, unpackMantissa_packComponents, BitVec.toNat_ofNat]

theorem signOfBits_withSign (canonical : float.IsCanonical) (sign : Sign) :
    signOfBits (float.withSign canonical sign).toBits = sign := by
  rw [signOfBits, toBits_withSign, unpackSign_packComponents]
  cases sign <;> rfl

theorem ofFloat_withSign (canonical : float.IsCanonical) (sign : Sign) :
    ofFloat (float.withSign canonical sign) = float := by
  have least := canonical.le_exponent
  have small := canonical.mantissa_lt
  have full := canonical.full
  have narrow := canonical.narrow
  have fraction := fractionField_withSign canonical sign
  have stored := exponentField_withSign canonical sign
  unfold storedExponent at stored
  unfold ofFloat
  by_cases short : float.mantissa < 2 ^ 52
  · rw [if_pos short] at stored
    rw [ofBits_of_zero _ stored, fraction, Nat.mod_eq_of_lt short]
    have exponent : float.exponent = -1074 := by omega
    have wide : float.narrowBelow = false := by
      rw [Bool.eq_false_iff, ne_eq, narrow]
      omega
    rw [← exponent, ← wide]
  · rw [if_neg short] at stored
    rw [ofBits_of_pos _ (by omega), stored, fraction]
    have mantissa : 2 ^ 52 + float.mantissa % 2 ^ 52 = float.mantissa := by omega
    have exponent : ((float.exponent + 1075).toNat : ℤ) - 1075 = float.exponent := by omega
    have same : (float.mantissa % 2 ^ 52 == 0 && decide (1 < (float.exponent + 1075).toNat)) =
        float.narrowBelow := by
      rw [Bool.eq_iff_iff, narrow, Bool.and_eq_true, beq_iff_eq, decide_eq_true_eq]
      omega
    rw [mantissa, exponent, same]

theorem unpack_withSign (canonical : float.IsCanonical) (sign : Sign) :
    (float.withSign canonical sign).toModel.unpack =
      .finite sign float.mantissa float.exponent canonical.pos := by
  have stored := canonical.storedExponent_lt
  have parts := ofFloat_withSign canonical sign
  have finite : exponentField (float.withSign canonical sign).toBits ≠ 2047 := by
    rw [exponentField_withSign]
    omega
  have nonzero : (ofBits (float.withSign canonical sign).toBits).mantissa ≠ 0 := by
    change (ofFloat (float.withSign canonical sign)).mantissa ≠ 0
    rw [parts]
    exact Nat.pos_iff_ne_zero.mp canonical.pos
  have unpacked := unpack_of_finite _ finite nonzero
  rw [signOfBits_withSign] at unpacked
  change UnpackedFloat.unpack Format.binary64 (float.withSign canonical sign).toBits.toBitVec = _
  rw [unpacked]
  simp only [UnpackedFloat.finite.injEq, true_and]
  exact ⟨congrArg mantissa parts, congrArg exponent parts⟩

theorem neg_withSign (canonical : float.IsCanonical) :
    -float.withSign canonical .positive = float.withSign canonical .negative := by
  change Float.ofModel (.pack ((float.withSign canonical .positive).toModel.unpack).neg) = _
  rw [unpack_withSign]
  rfl

theorem storedExponent_ofFloat (number : Float) :
    (ofFloat number).storedExponent = exponentField number.toBits := by
  have fraction : fractionField number.toBits < 2 ^ 52 := Nat.mod_lt _ (by norm_num)
  unfold ofFloat storedExponent
  by_cases subnormal : exponentField number.toBits = 0
  · rw [ofBits_of_zero _ subnormal, if_pos fraction, subnormal]
  · rw [ofBits_of_pos _ subnormal]
    simp

theorem mantissa_ofFloat_mod (number : Float) :
    (ofFloat number).mantissa % 2 ^ 52 = fractionField number.toBits := by
  have fraction : fractionField number.toBits < 2 ^ 52 := Nat.mod_lt _ (by norm_num)
  unfold ofFloat
  by_cases subnormal : exponentField number.toBits = 0
  · rw [ofBits_of_zero _ subnormal]
    exact Nat.mod_eq_of_lt fraction
  · rw [ofBits_of_pos _ subnormal, Nat.add_mod_left]
    exact Nat.mod_eq_of_lt fraction

/-- A finite float is what its parts are packed to. -/
theorem withSign_ofFloat {number : Float} (canonical : (ofFloat number).IsCanonical) :
    (ofFloat number).withSign canonical (signOfBits number.toBits) = number := by
  have bits : ((ofFloat number).withSign canonical (signOfBits number.toBits)).toBits =
      number.toBits := by
    apply UInt64.toBitVec_inj.mp
    rw [toBits_withSign, ← packComponents_unpack number.toBits]
    congr 1
    · apply BitVec.eq_of_toNat_eq
      rw [toNat_unpackExponent, BitVec.toNat_ofNat, storedExponent_ofFloat]
      exact Nat.mod_mod _ _
    · apply BitVec.eq_of_toNat_eq
      rw [toNat_unpackMantissa, BitVec.toNat_ofNat]
      exact mantissa_ofFloat_mod number
  exact eq_of_toBits_eq bits

end Binary

theorem isFinite_iff (number : Float) :
    isFinite number = true ↔ exponentField number.toBits ≠ 2047 := by
  rw [← toNat_exponent, isFinite, bne_iff_ne, ne_eq, ne_eq, ← UInt64.toNat_inj]
  rfl

theorem isNegative_iff (number : Float) :
    isNegative number = true ↔ number.toBits.toNat / 2 ^ 63 = 1 := by
  have shifted : (number.toBits >>> 63).toNat = number.toBits.toNat / 2 ^ 63 := by
    rw [UInt64.toNat_shiftRight, Nat.shiftRight_eq_div_pow]
    rfl
  rw [isNegative, beq_iff_eq, ← UInt64.toNat_inj, shifted]
  rfl

theorem signOfBits_eq (number : Float) :
    signOfBits number.toBits = if isNegative number then .negative else .positive := by
  have bound := number.toBits.toNat_lt
  have negative := isNegative_iff number
  have vector : (@unpackSign Format.binary64 number.toBits.toBitVec).toNat =
      number.toBits.toNat / 2 ^ 63 := by
    simp [unpackSign, Nat.shiftRight_eq_div_pow]
    omega
  have zero : @unpackSign Format.binary64 number.toBits.toBitVec = 0#1 ↔
      number.toBits.toNat / 2 ^ 63 = 0 := by
    rw [← BitVec.toNat_inj, vector]
    rfl
  rw [signOfBits, Sign.ofBitVec]
  by_cases high : number.toBits.toNat / 2 ^ 63 = 1
  · rw [if_pos (negative.mpr high), if_neg (by rw [zero]; omega)]
  · rw [if_neg (fun below => high (negative.mp below)), if_pos (zero.mpr (by omega))]

/-- Floats with the same sign and the same fields are the same. -/
theorem eq_of_fields {first second : Float} (sign : isNegative first = isNegative second)
    (exponent : exponentField first.toBits = exponentField second.toBits)
    (fraction : fractionField first.toBits = fractionField second.toBits) : first = second := by
  have firstBound := first.toBits.toNat_lt
  have secondBound := second.toBits.toNat_lt
  have high : first.toBits.toNat / 2 ^ 63 = 1 ↔ second.toBits.toNat / 2 ^ 63 = 1 := by
    rw [← isNegative_iff, sign, isNegative_iff]
  unfold exponentField at exponent
  unfold fractionField at fraction
  apply Binary.eq_of_toBits_eq
  rw [← UInt64.toNat_inj]
  omega

theorem eq_nan_of_isNotANumber {number : Float} (none : isNotANumber number = true) :
    number = 0.0 / 0.0 := by
  simp only [isNotANumber, Bool.and_eq_true, Bool.not_eq_true', bne_iff_ne, ne_eq,
    ← UInt64.toNat_inj, toNat_fraction] at none
  have exponent : exponentField number.toBits = 2047 := by
    apply Decidable.byContradiction
    intro finite
    rw [(isFinite_iff number).mpr finite] at none
    exact absurd none.1 (by decide)
  have vector : @unpackExponent Format.binary64 number.toBits.toBitVec = -1#11 := by
    apply BitVec.eq_of_toNat_eq
    rw [toNat_unpackExponent, exponent]
    rfl
  have some : @unpackMantissa Format.binary64 number.toBits.toBitVec ≠ 0#52 := by
    intro zero
    apply none.2
    rw [← toNat_unpackMantissa, zero]
    rfl
  apply Binary.eq_of_toBits_eq
  apply UInt64.toBitVec_inj.mp
  exact number.toModel.valid.eq_packedNaN vector some

theorem fractionField_of_infinite {number : Float} (infinite : isFinite number = false)
    (numeric : isNotANumber number = false) : fractionField number.toBits = 0 := by
  rw [isNotANumber, infinite, Bool.not_false, Bool.true_and, bne_eq_false_iff_eq,
    ← UInt64.toNat_inj, toNat_fraction] at numeric
  exact numeric

theorem eq_infinity_of_infinite {number : Float} (infinite : isFinite number = false)
    (numeric : isNotANumber number = false) :
    number = if isNegative number then -1.0 / 0.0 else 1.0 / 0.0 := by
  have fraction := fractionField_of_infinite infinite numeric
  have exponent : exponentField number.toBits = 2047 := by
    apply Decidable.byContradiction
    intro finite
    rw [(isFinite_iff number).mpr finite] at infinite
    cases infinite
  cases sign : isNegative number with
  | true => exact eq_of_fields (by rw [sign]; rfl) (by rw [exponent]; rfl) (by rw [fraction]; rfl)
  | false => exact eq_of_fields (by rw [sign]; rfl) (by rw [exponent]; rfl) (by rw [fraction]; rfl)

/-- A float without a digit other than zero is the zero of its sign. -/
theorem eq_zero_of_mantissa {number : Float} (none : (Binary.ofFloat number).mantissa = 0) :
    number = if isNegative number then -0.0 else 0.0 := by
  have exponent : exponentField number.toBits = 0 := by
    apply Decidable.byContradiction
    intro normal
    rw [Binary.ofFloat, ofBits_of_pos _ normal] at none
    simp at none
  have fraction : fractionField number.toBits = 0 := by
    rw [Binary.ofFloat, ofBits_of_zero _ exponent] at none
    exact none
  cases sign : isNegative number with
  | true => exact eq_of_fields (by rw [sign]; rfl) (by rw [exponent]; rfl) (by rw [fraction]; rfl)
  | false => exact eq_of_fields (by rw [sign]; rfl) (by rw [exponent]; rfl) (by rw [fraction]; rfl)

end EngineBridge.Number
