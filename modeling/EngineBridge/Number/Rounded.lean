import EngineBridge.Number.Numeral

/-!
Floats rounded to a number of digits.

The digits are those of the exact value, rounded half to even. There are three forms: with a fixed
number of digits behind the point, with an exponent, and the shorter of the two for a number of
significant digits.
-/

namespace EngineBridge.Number

/-- A quotient rounded to an integer, a half going to the even one. -/
def roundedQuotient (numerator denominator : Nat) : Nat :=
  let below := numerator / denominator
  match compare (2 * (numerator % denominator)) denominator with
  | .lt => below
  | .gt => below + 1
  | .eq => if below % 2 = 0 then below else below + 1

/-- A float without its sign, counted in units of `10 ^ exponent`. -/
def roundedUnits (value : Binary) (exponent : Int) : Nat :=
  roundedQuotient (value.mantissa * Nat.pow 2 value.exponent.toNat * Nat.pow 10 (-exponent).toNat)
    (Nat.pow 10 exponent.toNat * Nat.pow 2 (-value.exponent).toNat)

/-- A point, where digits follow it or one is asked for. -/
def pointBefore (alternate : Bool) (digits : List Char) : List Char :=
  if digits.isEmpty && !alternate then [] else '.' :: digits

def writeFixed (precision : Nat) (alternate : Bool) (value : Binary) : List Char :=
  let digits := padded (precision + 1) (roundedUnits value (-(precision : Int)))
  let whole := digits.length - precision
  digits.take whole ++ pointBefore alternate (digits.drop whole)

/-- The digits of a float rounded to one more than `precision` of them, and the exponent of the
first. -/
def scientificDigits (precision : Nat) (value : Binary) : List Char × Int :=
  if value.mantissa = 0 then (List.replicate (precision + 1) '0', 0)
  else
    let leading := value.decimalScale - 1
    let digits := decimalDigits (roundedUnits value (leading - precision))
    (digits.take (precision + 1), leading + (digits.length - (precision + 1) : Int))

def writeExponent (exponent : Int) : List Char :=
  'e' :: (if exponent < 0 then '-' else '+') :: padded 2 exponent.natAbs

/-- A float with an exponent and a number of digits behind the point. -/
def writeExponential (precision : Nat) (alternate : Bool) (value : Binary) : List Char :=
  let (digits, exponent) := scientificDigits precision value
  digits.take 1 ++ pointBefore alternate (digits.drop 1) ++ writeExponent exponent

def withoutTrailingZeros (digits : List Char) : List Char :=
  (digits.reverse.dropWhile (· == '0')).reverse

/-- A float with a number of significant digits, in the form that fits its size. Zeros at the end
are kept only on demand. -/
def writeGeneral (precision : Nat) (alternate : Bool) (value : Binary) : List Char :=
  let significant := if precision = 0 then 1 else precision
  let (digits, exponent) := scientificDigits (significant - 1) value
  let kept := fun fraction : List Char =>
    if alternate then fraction else withoutTrailingZeros fraction
  if exponent < -4 || (significant : Int) ≤ exponent then
    digits.take 1 ++ pointBefore alternate (kept (digits.drop 1)) ++ writeExponent exponent
  else if exponent < 0 then
    let fraction := List.replicate (-exponent - 1).toNat '0' ++ digits
    '0' :: pointBefore alternate (kept fraction)
  else
    let whole := exponent.toNat + 1
    digits.take whole ++ pointBefore alternate (kept (digits.drop whole))

example : writeFixed 2 false (Binary.ofFloat 2.675) = "2.67".toList ∧
    writeExponential 3 false (Binary.ofFloat 12345.0) = "1.234e+04".toList ∧
    writeGeneral 6 false (Binary.ofFloat 0.0001) = "0.0001".toList := by decide +kernel

end EngineBridge.Number
