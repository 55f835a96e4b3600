import EngineBridge.Number.Shortest
import EngineBridge.Proofs.Number.Nearest

/-!
The fewest digits of a float, read back.

Main statements: the shortest decimal of a float is near to the float, and so it is read as the
float.
-/

namespace EngineBridge.Number

def Decimal.value (decimal : Decimal) : ℚ :=
  decimal.digits * 10 ^ decimal.exponent

section

variable (decimal : ℕ) (tens : ℤ) (binary : ℕ) (twos : ℤ)

/-- Comparing across the bases is comparing cross products of natural numbers. -/
theorem scaled_div_scaled : ∃ scale : ℚ, 0 < scale ∧
    ((decimal * Nat.pow 10 tens.toNat * Nat.pow 2 (-twos).toNat : ℕ) : ℚ) =
      decimal * 10 ^ tens * scale ∧
    ((binary * Nat.pow 2 twos.toNat * Nat.pow 10 (-tens).toNat : ℕ) : ℚ) =
      binary * 2 ^ twos * scale := by
  refine ⟨10 ^ (-tens).toNat * 2 ^ (-twos).toNat, by positivity, ?_, ?_⟩
  · rw [zpow_eq_div (by norm_num)]
    simp only [Nat.pow_eq]
    push_cast
    field_simp
  · rw [zpow_eq_div (by norm_num)]
    simp only [Nat.pow_eq]
    push_cast
    field_simp

theorem compareScaled_eq_lt_iff :
    compareScaled decimal tens binary twos = .lt ↔
      (decimal : ℚ) * 10 ^ tens < binary * 2 ^ twos := by
  have ⟨scale, positive, left, right⟩ := scaled_div_scaled decimal tens binary twos
  rw [compareScaled, Nat.compare_eq_lt, ← Nat.cast_lt (α := ℚ), left, right,
    mul_lt_mul_iff_left₀ positive]

theorem compareScaled_eq_gt_iff :
    compareScaled decimal tens binary twos = .gt ↔
      (binary : ℚ) * 2 ^ twos < decimal * 10 ^ tens := by
  have ⟨scale, positive, left, right⟩ := scaled_div_scaled decimal tens binary twos
  rw [compareScaled, Nat.compare_eq_gt, ← Nat.cast_lt (α := ℚ), left, right,
    mul_lt_mul_iff_left₀ positive]

theorem compareScaled_eq_eq_iff :
    compareScaled decimal tens binary twos = .eq ↔
      (decimal : ℚ) * 10 ^ tens = binary * 2 ^ twos := by
  have ⟨scale, positive, left, right⟩ := scaled_div_scaled decimal tens binary twos
  rw [compareScaled, Nat.compare_eq_eq, ← Nat.cast_inj (R := ℚ), left, right,
    mul_left_inj' positive.ne']

end

namespace Binary

variable {float : Binary}

/-- The least number of quarters that is rounded to a float. -/
def lowerQuarters (float : Binary) : ℕ :=
  if float.narrowBelow then 4 * float.mantissa - 1 else 4 * float.mantissa - 2

/-- What reads back lies between the ends of the interval, and at an end only for an even
mantissa. -/
theorem readsBack_iff (decimal : Decimal) :
    float.readsBack decimal = true ↔
      ((float.lowerQuarters : ℚ) / 4 < decimal.value / 2 ^ float.exponent ∨
        float.mantissa % 2 = 0 ∧
          decimal.value / 2 ^ float.exponent = (float.lowerQuarters : ℚ) / 4) ∧
      (decimal.value / 2 ^ float.exponent < (float.mantissa : ℚ) + 1 / 2 ∨
        float.mantissa % 2 = 0 ∧
          decimal.value / 2 ^ float.exponent = (float.mantissa : ℚ) + 1 / 2) := by
  have quarter (quarters : ℚ) :
      quarters * 2 ^ (float.exponent - 2) = quarters / 4 * 2 ^ float.exponent := by
    rw [zpow_sub₀ (by norm_num)]
    norm_num
    ring
  have upper : ((4 * float.mantissa + 2 : ℕ) : ℚ) / 4 = (float.mantissa : ℚ) + 1 / 2 := by
    push_cast
    ring
  have positive : (0 : ℚ) < 2 ^ float.exponent := by positivity
  rw [lt_div_iff₀ positive, div_lt_iff₀ positive, div_eq_iff positive.ne',
    div_eq_iff positive.ne', ← upper, ← quarter, ← quarter, Decimal.value]
  simp only [readsBack, Bool.and_eq_true, Bool.or_eq_true, beq_iff_eq,
    compareScaled_eq_lt_iff, compareScaled_eq_gt_iff, compareScaled_eq_eq_iff]
  rfl

/-- A decimal that reads back is near. -/
theorem isNear_of_readsBack (canonical : float.IsCanonical) {decimal : Decimal}
    (found : float.readsBack decimal = true) : float.IsNear decimal.value := by
  have atLeast := canonical.pos
  have ⟨low, high⟩ := (readsBack_iff decimal).mp found
  have lower : (float.lowerQuarters : ℚ) / 4 =
      if float.narrowBelow then (float.mantissa : ℚ) - 1 / 4 else float.mantissa - 1 / 2 := by
    unfold lowerQuarters
    split
    · rw [Nat.cast_sub (by omega)]
      push_cast
      ring
    · rw [Nat.cast_sub (by omega)]
      push_cast
      ring
  rw [lower] at low
  constructor
  · constructor
    · split at low <;> rcases low with less | ⟨-, same⟩ <;> linarith
    · rcases high with less | ⟨-, same⟩ <;> linarith
    · rintro (tie | tie)
      · split at low <;> rcases low with less | ⟨even, -⟩
        · linarith
        · exact even
        · linarith
        · exact even
      · rcases high with less | ⟨even, -⟩
        · linarith
        · exact even
  · intro narrow
    rw [if_pos narrow] at low
    rcases low with less | ⟨-, same⟩ <;> linarith

theorem readsBack_of_nearestOnGrid? {exponent : ℤ} {decimal : Decimal}
    (found : float.nearestOnGrid? exponent = some decimal) : float.readsBack decimal = true := by
  simp only [nearestOnGrid?] at found
  split at found
  · rename_i low high
    split at found
    · cases found
      exact low
    · cases found
      exact high
    · split at found
      · cases found
        exact low
      · cases found
        exact high
  · rename_i low _
    cases found
    exact low
  · rename_i _ high
    cases found
    exact high
  · cases found

theorem value_exactDecimal (float : Binary) : float.exactDecimal.value = float.value := by
  unfold exactDecimal
  split
  · rename_i whole
    have none : (-float.exponent).toNat = 0 := by omega
    rw [Decimal.value, value, zpow_eq_div (by norm_num : (2 : ℚ) ≠ 0), none]
    simp
  · rename_i fraction
    have none : float.exponent.toNat = 0 := by omega
    have tens : (10 : ℚ) ^ (-float.exponent).toNat =
        5 ^ (-float.exponent).toNat * 2 ^ (-float.exponent).toNat := by
      rw [← mul_pow]
      norm_num
    rw [Decimal.value, value, zpow_eq_div (by norm_num : (10 : ℚ) ≠ 0),
      zpow_eq_div (by norm_num : (2 : ℚ) ≠ 0), none, tens]
    simp only [Nat.pow_eq]
    push_cast
    field_simp

end Binary

theorem Decimal.value_stripZeros (decimal : Decimal) (steps : ℕ) :
    (decimal.stripZeros steps).value = decimal.value := by
  induction steps generalizing decimal with
  | zero => rfl
  | succ steps induction =>
      rw [stripZeros]
      split
      · rename_i trailing
        have parts : decimal.digits = decimal.digits / 10 * 10 := by
          simp only [Bool.and_eq_true, beq_iff_eq] at trailing
          omega
        have moved : ((decimal.digits / 10 : ℕ) : ℚ) * 10 = decimal.digits := by
          exact_mod_cast parts.symm
        rw [induction, value, value, zpow_add_one₀ (by norm_num), ← moved]
        ring
      · rfl

/-- The shortest decimal of a float is near to it. -/
theorem isNear_shortest {float : Binary} (canonical : float.IsCanonical) :
    float.IsNear (shortest float).value := by
  rw [shortest, Decimal.value_stripZeros]
  cases found : ((List.range 17).map Nat.succ).findSome? fun length : ℕ =>
      float.nearestOnGrid? (float.decimalScale - length) with
  | none =>
      rw [Option.getD_none, Binary.value_exactDecimal]
      exact float.isNear_value
  | some decimal =>
      have ⟨length, _, onGrid⟩ := List.exists_of_findSome?_eq_some found
      exact Binary.isNear_of_readsBack canonical (Binary.readsBack_of_nearestOnGrid? onGrid)

theorem digits_shortest_pos {float : Binary} (canonical : float.IsCanonical) :
    0 < (shortest float).digits := by
  have positive := (isNear_shortest canonical).pos canonical
  apply Nat.pos_of_ne_zero
  intro zero
  simp [Decimal.value, zero] at positive

end EngineBridge.Number
