/-!
Floats as exact numbers.

A finite float is a natural mantissa times a power of two, with a sign. `Binary.ofFloat` decodes
it; what a float is exactly as an integer, and its integer part, follow from that.
-/

namespace EngineBridge.Number

/-- A finite float without its sign: `mantissa * 2 ^ exponent`. -/
structure Binary where
  mantissa : Nat
  exponent : Int
  /-- The gap to the float below is half the gap to the float above. -/
  narrowBelow : Bool
deriving DecidableEq, Repr

namespace Binary

def ofBits (bits : UInt64) : Binary :=
  let exponentField := ((bits >>> 52) &&& 0x7FF).toNat
  let fraction := (bits &&& 0xFFFFFFFFFFFFF).toNat
  if exponentField == 0 then ⟨fraction, -1074, false⟩
  else
    ⟨0x10000000000000 + fraction, (exponentField : Int) - 1075,
      fraction == 0 && exponentField > 1⟩

/-- The part before the binary point. -/
def integerPart (value : Binary) : Nat :=
  value.mantissa * Nat.pow 2 value.exponent.toNat / Nat.pow 2 (-value.exponent).toNat

def isIntegral (value : Binary) : Bool :=
  value.mantissa * Nat.pow 2 value.exponent.toNat % Nat.pow 2 (-value.exponent).toNat == 0

end Binary

/-- Whether the sign bit of a float is set; so it is for negative zero. -/
def isNegative (value : Float) : Bool :=
  value.toBits >>> 63 == 1

def Binary.ofFloat (value : Float) : Binary :=
  Binary.ofBits value.toBits

def isFinite (value : Float) : Bool :=
  ((value.toBits >>> 52) &&& 0x7FF) != 0x7FF

def isNotANumber (value : Float) : Bool :=
  !isFinite value && (value.toBits &&& 0xFFFFFFFFFFFFF) != 0

/-- A float cut to an integer toward zero, or nothing if it is infinite or not a number. -/
def truncate? (value : Float) : Option Int :=
  if isFinite value then
    let magnitude : Int := (Binary.ofFloat value).integerPart
    some (if isNegative value then -magnitude else magnitude)
  else none

/-- A float rounded down to an integer, or nothing if it is infinite or not a number. -/
def floor? (value : Float) : Option Int :=
  (truncate? value).map fun truncated =>
    if isNegative value && !(Binary.ofFloat value).isIntegral then truncated - 1 else truncated

/-- The integer that a float equals, if there is one. -/
def exactInt? (value : Float) : Option Int :=
  if (Binary.ofFloat value).isIntegral then truncate? value else none

example : truncate? (-2.75) = some (-2) ∧ exactInt? 2.5 = none ∧ exactInt? 1e3 = some 1000 := by
  decide +kernel

def equalsInt (value : Float) (number : Int) : Bool :=
  exactInt? value == some number

/-- The number that hashes of numbers are reduced by, one less than a power of two. -/
def hashModulus : Nat := 0x1FFFFFFFFFFFFFFF

/-- The hash of a magnitude and a sign. Minus one is no hash. -/
def signedHash (isBelowZero : Bool) (magnitude : Nat) : Int :=
  let reduced : Int := (magnitude % hashModulus : Nat)
  if !isBelowZero then reduced else if reduced = 1 then -2 else -reduced

def hashOfInt (number : Int) : Int :=
  signedHash (number < 0) number.natAbs

/-- The hash of a float, the same as that of an integer that it equals. Doubling a number 61 times
does not change its hash. What is not a number has none. -/
def hashOfFloat? (value : Float) : Option Int :=
  if isFinite value then
    let parts := Binary.ofFloat value
    let doublings := (parts.exponent % 61).toNat
    some (signedHash (isNegative value) (parts.mantissa * Nat.pow 2 doublings))
  else if isNotANumber value then none
  else some (if isNegative value then -314159 else 314159)

example : hashOfFloat? 2.5 = some 1152921504606846978 ∧ hashOfFloat? (-1.0) = some (hashOfInt (-1)) := by
  decide +kernel

end EngineBridge.Number
