import EngineBridge.Number.Binary
import Mathlib

/-!
Rounding to a float.

A number is rounded by cutting it off at the last bit that a float has room for, with a note of
what was cut off. Main statement: a number that is as near to a float as `IsNear` says is rounded
to this float, from whatever exponent the cutting begins.
-/

namespace EngineBridge.Number

open Float.Model Float.Model.UnpackedFloat

/-- A number is at most one half from a natural one, and exactly one half only if that is even. -/
structure RoundsTo (value : ℚ) (whole : ℕ) : Prop where
  above : (whole : ℚ) - 1 / 2 ≤ value
  below : value ≤ whole + 1 / 2
  ties : value = whole - 1 / 2 ∨ value = whole + 1 / 2 → whole % 2 = 0

theorem RoundsTo.self (whole : ℕ) : RoundsTo whole whole where
  above := by linarith
  below := by linarith
  ties := by
    rintro (tie | tie)
    · linarith
    · linarith

/-- Where a number lies, as far as a mantissa and the two bits behind it tell. -/
def Locates (cut : ExtendedMantissa) (value : ℚ) : Prop :=
  match cut.roundBit, cut.stickyBit with
  | false, false => value = cut.mantissa
  | false, true => (cut.mantissa : ℚ) < value ∧ value < cut.mantissa + 1 / 2
  | true, false => value = cut.mantissa + 1 / 2
  | true, true => (cut.mantissa : ℚ) + 1 / 2 < value ∧ value < cut.mantissa + 1

namespace Locates

variable {cut : ExtendedMantissa} {value : ℚ}

theorem mantissa_le (located : Locates cut value) : (cut.mantissa : ℚ) ≤ value := by
  obtain ⟨mantissa, round, sticky⟩ := cut
  cases round <;> cases sticky <;> simp only [Locates] at located ⊢ <;> linarith

theorem lt_mantissa (located : Locates cut value) : value < cut.mantissa + 1 := by
  obtain ⟨mantissa, round, sticky⟩ := cut
  cases round <;> cases sticky <;> simp only [Locates] at located ⊢ <;> linarith

theorem exact (mantissa : ℕ) :
    Locates (ExtendedMantissa.ofMantissaAndAccuracy mantissa .exact) mantissa := by
  simp [Locates, ExtendedMantissa.ofMantissaAndAccuracy]

theorem shiftRightOne (located : Locates cut value) : Locates cut.shiftRightOne (value / 2) := by
  obtain ⟨mantissa, round, sticky⟩ := cut
  have parts : ((mantissa % 2 : ℕ) : ℚ) + 2 * ((mantissa / 2 : ℕ) : ℚ) = mantissa := by
    exact_mod_cast Nat.mod_add_div mantissa 2
  rcases Nat.mod_two_eq_zero_or_one mantissa with even | odd
  · rw [even] at parts
    cases round <;> cases sticky <;>
      simp only [Locates, ExtendedMantissa.shiftRightOne, even, bne_self_eq_false, Bool.or_false,
        Bool.or_true, Bool.or_self] at located ⊢ <;>
      push_cast at parts <;> (try constructor) <;> linarith
  · rw [odd] at parts
    have differs : ((1 : ℕ) != 0) = true := rfl
    cases round <;> cases sticky <;>
      simp only [Locates, ExtendedMantissa.shiftRightOne, odd, differs, Bool.or_false,
        Bool.or_true, Bool.or_self] at located ⊢ <;>
      push_cast at parts <;> (try constructor) <;> linarith

theorem shiftRight (located : Locates cut value) (count : ℕ) :
    Locates (cut >>> count) (value / 2 ^ count) := by
  change Locates (count.repeat ExtendedMantissa.shiftRightOne cut) _
  induction count with
  | zero => simpa [Nat.repeat] using located
  | succ count induction =>
      rw [Nat.repeat, pow_succ, ← div_div]
      exact induction.shiftRightOne

/-- What lies between two neighbours is rounded to the nearer one, and a tie to the even one. -/
theorem roundedMantissa_eq (located : Locates cut value) {whole : ℕ}
    (rounds : RoundsTo value whole) : cut.roundedMantissa = whole := by
  have atMost : whole ≤ cut.mantissa + 1 := by
    have below := located.lt_mantissa
    have above := rounds.above
    have bound : (whole : ℚ) < ((cut.mantissa + 2 : ℕ) : ℚ) := by
      push_cast
      linarith
    have := Nat.cast_lt.mp bound
    omega
  have atLeast : cut.mantissa ≤ whole := by
    have above := located.mantissa_le
    have below := rounds.below
    have bound : (cut.mantissa : ℚ) < ((whole + 1 : ℕ) : ℚ) := by
      push_cast
      linarith
    have := Nat.cast_lt.mp bound
    omega
  have ties := rounds.ties
  have above := rounds.above
  have below := rounds.below
  obtain ⟨mantissa, round, sticky⟩ := cut
  simp only at atMost atLeast
  rcases Nat.lt_or_ge mantissa whole with less | same
  · have next : whole = mantissa + 1 := by omega
    subst next
    push_cast at above below ties
    cases round <;> cases sticky <;>
      simp only [Locates, ExtendedMantissa.roundedMantissa, ExtendedMantissa.accuracy,
        Accuracy.roundToNearestEven] at located ⊢
    · linarith
    · linarith
    · have even := ties (Or.inl (by linarith))
      omega
  · have equal : whole = mantissa := by omega
    subst equal
    cases round <;> cases sticky <;>
      simp only [Locates, ExtendedMantissa.roundedMantissa, ExtendedMantissa.accuracy,
        Accuracy.roundToNearestEven] at located ⊢
    · have even := ties (Or.inr (by linarith))
      omega
    · linarith

end Locates

namespace Binary

/-- The floats above zero: a mantissa of 53 bits, or a shorter one at the least exponent. -/
structure IsCanonical (float : Binary) : Prop where
  pos : 0 < float.mantissa
  mantissa_lt : float.mantissa < 2 ^ 53
  le_exponent : -1074 ≤ float.exponent
  exponent_le : float.exponent ≤ 971
  full : 2 ^ 52 ≤ float.mantissa ∨ float.exponent = -1074
  narrow : float.narrowBelow = true ↔ float.mantissa = 2 ^ 52 ∧ -1074 < float.exponent

def value (float : Binary) : ℚ :=
  float.mantissa * 2 ^ float.exponent

/-- A number is among those that are rounded to a float. -/
structure IsNear (float : Binary) (value : ℚ) : Prop where
  rounds : RoundsTo (value / 2 ^ float.exponent) float.mantissa
  narrow : float.narrowBelow = true →
    (float.mantissa : ℚ) - 1 / 4 ≤ value / 2 ^ float.exponent

theorem isNear_value (float : Binary) : float.IsNear float.value := by
  have same : float.value / 2 ^ float.exponent = float.mantissa := by
    rw [value, mul_div_assoc, div_self (by positivity), mul_one]
  constructor
  · rw [same]
    exact RoundsTo.self _
  · intro _
    rw [same]
    linarith

variable {float : Binary} {value : ℚ}

theorem IsCanonical.mantissa_le (canonical : float.IsCanonical) :
    (float.mantissa : ℚ) ≤ 2 ^ 53 - 1 := by
  have bound : ((float.mantissa + 1 : ℕ) : ℚ) ≤ ((2 ^ 53 : ℕ) : ℚ) :=
    Nat.cast_le.mpr canonical.mantissa_lt
  push_cast at bound
  linarith

theorem IsNear.lt (near : float.IsNear value) (canonical : float.IsCanonical) :
    value < 2 ^ (float.exponent + 53) := by
  have below := near.rounds.below
  have bound := canonical.mantissa_le
  have scaled : value / 2 ^ float.exponent < 2 ^ 53 := by linarith
  rw [div_lt_iff₀ (by positivity)] at scaled
  rw [zpow_add₀ (by norm_num), mul_comm]
  exact_mod_cast scaled

/-- A number near a float of full length has as many bits before the point as the float, or is
rounded up to the least float with that many. -/
theorem IsNear.le_or_narrow (near : float.IsNear value) (canonical : float.IsCanonical)
    (normal : -1074 < float.exponent) :
    2 ^ (float.exponent + 52) ≤ value ∨
      float.narrowBelow = true ∧ 2 ^ (float.exponent + 51) ≤ value := by
  have full : 2 ^ 52 ≤ float.mantissa := by
    rcases canonical.full with full | least
    · exact full
    · omega
  rcases Nat.lt_or_eq_of_le full with more | least
  · left
    have above := near.rounds.above
    have bound : ((2 ^ 52 + 1 : ℕ) : ℚ) ≤ float.mantissa := Nat.cast_le.mpr more
    push_cast at bound
    have scaled : 2 ^ 52 ≤ value / 2 ^ float.exponent := by linarith
    rw [le_div_iff₀ (by positivity)] at scaled
    rw [zpow_add₀ (by norm_num), mul_comm]
    exact_mod_cast scaled
  · right
    have narrow := canonical.narrow.mpr ⟨least.symm, normal⟩
    refine ⟨narrow, ?_⟩
    have above := near.narrow narrow
    rw [← least] at above
    push_cast at above
    have scaled : 2 ^ 51 ≤ value / 2 ^ float.exponent := by linarith
    rw [le_div_iff₀ (by positivity)] at scaled
    rw [zpow_add₀ (by norm_num), mul_comm]
    exact_mod_cast scaled

/-- Below the least float of a length the floats are twice as dense, and what is rounded up to it is
rounded up on the finer grid as well. -/
theorem IsNear.rounds_of_narrow (near : float.IsNear value) (canonical : float.IsCanonical)
    (narrow : float.narrowBelow = true) (short : value < 2 ^ (float.exponent + 52)) :
    RoundsTo (value / 2 ^ (float.exponent - 1)) (2 ^ 53) := by
  have doubled : value / 2 ^ (float.exponent - 1) = 2 * (value / 2 ^ float.exponent) := by
    rw [zpow_sub_one₀ (by norm_num), ← div_div, div_inv_eq_mul, mul_comm]
  have above := near.narrow narrow
  rw [(canonical.narrow.mp narrow).1] at above
  push_cast at above
  rw [zpow_add₀ (by norm_num), mul_comm, ← div_lt_iff₀ (by positivity)] at short
  have below : value / 2 ^ float.exponent < 2 ^ 52 := by exact_mod_cast short
  constructor
  · rw [doubled]
    push_cast
    linarith
  · rw [doubled]
    push_cast
    linarith
  · intro _
    norm_num

end Binary

@[simp] theorem mantissa_ofMantissaAndAccuracy (mantissa : ℕ) (accuracy : Accuracy) :
    (ExtendedMantissa.ofMantissaAndAccuracy mantissa accuracy).mantissa = mantissa := by
  cases accuracy with
  | exact => rfl
  | inexact order => cases order <;> rfl

theorem targetExponent_eq (mantissa : ℕ) (exponent : ℤ) :
    Format.binary64.targetExponent (totalExponent mantissa exponent) =
      max ((mantissa.log2 : ℤ) + 1 + exponent - 53) (-1074) := rfl

section

variable {float : Binary} {value : ℚ} {mantissa : ℕ} {exponent : ℤ} {accuracy : Accuracy}

/-- The bits of what is cut off bound the number. -/
theorem lt_of_locates
    (located : Locates (ExtendedMantissa.ofMantissaAndAccuracy mantissa accuracy)
      (value / 2 ^ exponent)) : value < 2 ^ ((mantissa.log2 : ℤ) + 1 + exponent) := by
  have below := located.lt_mantissa
  rw [mantissa_ofMantissaAndAccuracy] at below
  have bits : ((mantissa + 1 : ℕ) : ℚ) ≤ ((2 ^ (mantissa.log2 + 1) : ℕ) : ℚ) :=
    Nat.cast_le.mpr Nat.lt_log2_self
  push_cast at bits
  have scaled : value / 2 ^ exponent < 2 ^ (mantissa.log2 + 1) := lt_of_lt_of_le below bits
  rw [div_lt_iff₀ (by positivity)] at scaled
  rw [zpow_add₀ (by norm_num)]
  exact_mod_cast scaled

theorem le_of_locates (positive : mantissa ≠ 0)
    (located : Locates (ExtendedMantissa.ofMantissaAndAccuracy mantissa accuracy)
      (value / 2 ^ exponent)) : 2 ^ ((mantissa.log2 : ℤ) + exponent) ≤ value := by
  have above := located.mantissa_le
  rw [mantissa_ofMantissaAndAccuracy] at above
  have bits : ((2 ^ mantissa.log2 : ℕ) : ℚ) ≤ mantissa :=
    Nat.cast_le.mpr (Nat.log2_self_le positive)
  push_cast at bits
  have scaled : 2 ^ mantissa.log2 ≤ value / 2 ^ exponent := le_trans bits above
  rw [le_div_iff₀ (by positivity)] at scaled
  rw [zpow_add₀ (by norm_num)]
  exact_mod_cast scaled

/-- A number near a float is cut off at the exponent of the float, or one bit further down where
it has fewer bits than the float. -/
theorem targetExponent_cases (canonical : float.IsCanonical) (near : float.IsNear value)
    (located : Locates (ExtendedMantissa.ofMantissaAndAccuracy mantissa accuracy)
      (value / 2 ^ exponent))
    (fits : exponent ≤ Format.binary64.targetExponent (totalExponent mantissa exponent)) :
    Format.binary64.targetExponent (totalExponent mantissa exponent) = float.exponent ∨
      float.narrowBelow = true ∧ value < 2 ^ (float.exponent + 52) ∧
        Format.binary64.targetExponent (totalExponent mantissa exponent) = float.exponent - 1 := by
  rw [targetExponent_eq] at fits ⊢
  have least := canonical.le_exponent
  have increasing : (1 : ℚ) < 2 := by norm_num
  have upper := lt_of_locates located
  have atMost : max ((mantissa.log2 : ℤ) + 1 + exponent - 53) (-1074) ≤ float.exponent := by
    rcases Nat.eq_zero_or_pos mantissa with none | positive
    · subst none
      simp only [Nat.log2_zero] at fits ⊢
      omega
    · have lower := le_of_locates (Nat.pos_iff_ne_zero.mp positive) located
      have bits := (zpow_lt_zpow_iff_right₀ increasing).mp
        (lt_of_le_of_lt lower (near.lt canonical))
      omega
  rcases lt_or_eq_of_le least with normal | subnormal
  · rcases near.le_or_narrow canonical normal with full | ⟨narrow, short⟩
    · have bits := (zpow_lt_zpow_iff_right₀ increasing).mp (lt_of_le_of_lt full upper)
      left
      omega
    · have bits := (zpow_lt_zpow_iff_right₀ increasing).mp (lt_of_le_of_lt short upper)
      have twoCases : max ((mantissa.log2 : ℤ) + 1 + exponent - 53) (-1074) = float.exponent ∨
          max ((mantissa.log2 : ℤ) + 1 + exponent - 53) (-1074) = float.exponent - 1 := by
        omega
      rcases twoCases with same | below
      · exact Or.inl same
      · have fewer : (mantissa.log2 : ℤ) + 1 + exponent ≤ float.exponent + 52 := by omega
        have bounded := lt_of_lt_of_le upper (zpow_le_zpow_right₀ increasing.le fewer)
        exact Or.inr ⟨narrow, bounded, below⟩
  · left
    omega

theorem shiftToExponent_of_le {target : ℤ} (fits : exponent ≤ target)
    (located : Locates (ExtendedMantissa.ofMantissaAndAccuracy mantissa accuracy)
      (value / 2 ^ exponent)) :
    Locates (shiftToExponent mantissa exponent accuracy target).1 (value / 2 ^ target) ∧
      (shiftToExponent mantissa exponent accuracy target).2 = target := by
  have reached : exponent + ((target - exponent).toNat : ℤ) = target := by omega
  constructor
  · have shifted := located.shiftRight (target - exponent).toNat
    rw [div_div, ← zpow_natCast, ← zpow_add₀ (by norm_num), reached] at shifted
    exact shifted
  · exact reached

/-- A float that fits is left as it is. -/
theorem shiftToTargetExponent_of_isCanonical (canonical : float.IsCanonical) :
    shiftToTargetExponent Format.binary64 float.mantissa float.exponent .exact =
      (⟨float.mantissa, false, false⟩, float.exponent) := by
  have least := canonical.le_exponent
  have bits : float.mantissa.log2 < 53 :=
    (Nat.log2_lt (Nat.pos_iff_ne_zero.mp canonical.pos)).mpr canonical.mantissa_lt
  have target : Format.binary64.targetExponent (totalExponent float.mantissa float.exponent) ≤
      float.exponent := by
    rw [targetExponent_eq]
    omega
  have none : (Format.binary64.targetExponent (totalExponent float.mantissa float.exponent) -
      float.exponent).toNat = 0 := by
    omega
  simp only [shiftToTargetExponent, shiftToExponent, none]
  simp [ExtendedMantissa.ofMantissaAndAccuracy, HShiftRight.hShiftRight, Nat.repeat]

/-- A mantissa that rounding has made one bit too long is halved. -/
theorem shiftToTargetExponent_of_overflow (exponent : ℤ) (least : -1074 < exponent) :
    shiftToTargetExponent Format.binary64 (2 ^ 53) (exponent - 1) .exact =
      (⟨2 ^ 52, false, false⟩, exponent) := by
  have target : Format.binary64.targetExponent (totalExponent (2 ^ 53) (exponent - 1)) =
      exponent := by
    rw [targetExponent_eq, Nat.log2_two_pow]
    omega
  have one : (exponent - (exponent - 1)).toNat = 1 := by omega
  have reached : exponent - 1 + ((1 : ℕ) : ℤ) = exponent := by omega
  simp only [shiftToTargetExponent, shiftToExponent, target, one, reached]
  rfl

/-- Whatever is near to a float is rounded to it. -/
theorem roundWithAccuracy_of_isNear (canonical : float.IsCanonical) (near : float.IsNear value)
    (located : Locates (ExtendedMantissa.ofMantissaAndAccuracy mantissa accuracy)
      (value / 2 ^ exponent))
    (fits : exponent ≤ Format.binary64.targetExponent (totalExponent mantissa exponent))
    (sign : Sign) :
    roundWithAccuracy Format.binary64 sign mantissa exponent accuracy =
      .finite sign float.mantissa float.exponent canonical.pos := by
  have again : shiftToTargetExponent Format.binary64
      (shiftToTargetExponent Format.binary64 mantissa exponent accuracy).1.roundedMantissa
      (shiftToTargetExponent Format.binary64 mantissa exponent accuracy).2 .exact =
        (⟨float.mantissa, false, false⟩, float.exponent) := by
    have shifted := shiftToExponent_of_le fits located
    change Locates (shiftToTargetExponent Format.binary64 mantissa exponent accuracy).1 _ ∧
      (shiftToTargetExponent Format.binary64 mantissa exponent accuracy).2 = _ at shifted
    rw [shifted.2]
    rcases targetExponent_cases canonical near located fits with target | ⟨narrow, short, target⟩
    · rw [target] at shifted ⊢
      rw [shifted.1.roundedMantissa_eq near.rounds]
      exact shiftToTargetExponent_of_isCanonical canonical
    · have shape := canonical.narrow.mp narrow
      rw [target] at shifted ⊢
      rw [shifted.1.roundedMantissa_eq (near.rounds_of_narrow canonical narrow short), shape.1]
      exact shiftToTargetExponent_of_overflow _ shape.2
  rw [roundWithAccuracy]
  simp only [again]
  rw [dif_neg (Nat.pos_iff_ne_zero.mp canonical.pos)]

end

end EngineBridge.Number
