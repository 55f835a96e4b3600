import EngineBridge.Number.Binary

/-!
The fewest decimal digits that identify a float.

The reals that round to a float form an interval around it, whose ends belong to it if the
mantissa is even. `shortest` tries one digit, then two, and so on; at each length only the two
decimals next to the value can lie in the interval, and of two that do the nearer is taken, a tie
going to the even one. Every comparison is made on exact naturals.
-/

namespace EngineBridge.Number

/-- The number `digits * 10 ^ exponent`. -/
structure Decimal where
  digits : Nat
  exponent : Int
deriving DecidableEq, Repr

/-- Compare `decimal * 10 ^ tens` with `binary * 2 ^ twos`. -/
def compareScaled (decimal : Nat) (tens : Int) (binary : Nat) (twos : Int) : Ordering :=
  compare (decimal * Nat.pow 10 tens.toNat * Nat.pow 2 (-twos).toNat)
    (binary * Nat.pow 2 twos.toNat * Nat.pow 10 (-tens).toNat)

namespace Binary

/-- Whether the decimal lies among the reals that round to the float. -/
def readsBack (value : Binary) (decimal : Decimal) : Bool :=
  let lower := if value.narrowBelow then 4 * value.mantissa - 1 else 4 * value.mantissa - 2
  let upper := 4 * value.mantissa + 2
  let endsBelong := value.mantissa % 2 == 0
  let aboveLower := compareScaled decimal.digits decimal.exponent lower (value.exponent - 2)
  let belowUpper := compareScaled decimal.digits decimal.exponent upper (value.exponent - 2)
  (aboveLower == .gt || (endsBelong && aboveLower == .eq)) &&
    (belowUpper == .lt || (endsBelong && belowUpper == .eq))

/-- The least power of ten above a float that is not zero, looked for around the estimate that
its binary logarithm gives. -/
def decimalScale (value : Binary) : Int :=
  let estimate := ((value.mantissa.log2 : Int) + value.exponent) * 30103 / 100000
  let candidates := [estimate - 1, estimate, estimate + 1, estimate + 2, estimate + 3]
  (candidates.find? fun scale =>
    compareScaled 1 scale value.mantissa value.exponent == .gt).getD (estimate + 4)

/-- The decimal of the given exponent that reads back and is nearest to the float. -/
def nearestOnGrid? (value : Binary) (exponent : Int) : Option Decimal :=
  let numerator := value.mantissa * Nat.pow 2 value.exponent.toNat * Nat.pow 10 (-exponent).toNat
  let denominator := Nat.pow 10 exponent.toNat * Nat.pow 2 (-value.exponent).toNat
  let below := numerator / denominator
  let low : Decimal := ⟨below, exponent⟩
  let high : Decimal := ⟨below + 1, exponent⟩
  match value.readsBack low, value.readsBack high with
  | true, true =>
      match compare (2 * numerator) ((2 * below + 1) * denominator) with
      | .lt => some low
      | .gt => some high
      | .eq => some (if below % 2 == 0 then low else high)
  | true, false => some low
  | false, true => some high
  | false, false => none

/-- All digits of a float: with enough of them, every float has a finite decimal. -/
def exactDecimal (value : Binary) : Decimal :=
  if 0 ≤ value.exponent then ⟨value.mantissa * Nat.pow 2 value.exponent.toNat, 0⟩
  else ⟨value.mantissa * Nat.pow 5 (-value.exponent).toNat, value.exponent⟩

end Binary

/-- Move trailing zeros of the digits into the exponent; `steps` bounds how many. -/
def Decimal.stripZeros (decimal : Decimal) : Nat → Decimal
  | 0 => decimal
  | steps + 1 =>
      if decimal.digits % 10 == 0 && decimal.digits != 0 then
        Decimal.stripZeros ⟨decimal.digits / 10, decimal.exponent + 1⟩ steps
      else decimal

/-- The shortest decimal that reads back as the given float, which is not zero. Seventeen digits
are enough for every float. -/
def shortest (value : Binary) : Decimal :=
  let scale := value.decimalScale
  let lengths := (List.range 17).map Nat.succ
  let selected := (lengths.findSome? fun length : Nat => value.nearestOnGrid? (scale - length)).getD
    value.exactDecimal
  selected.stripZeros (Nat.toDigits 10 selected.digits).length

example : shortest (Binary.ofFloat 0.1) = ⟨1, -1⟩ := by decide +kernel

example : shortest (Binary.ofFloat (0.1 + 0.2)) = ⟨30000000000000004, -17⟩ := by decide +kernel

/-- A tie between two shortest decimals goes to the even one. -/
example : shortest (Binary.ofBits 0x3E60000000000000) = ⟨29802322387695312, -24⟩ := by
  decide +kernel

end EngineBridge.Number
