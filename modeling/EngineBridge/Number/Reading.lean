import EngineBridge.Number.Numeral
import EngineBridge.Text.Digit

/-!
Numbers read from text.

An integer is an optional sign and decimal digits of any script, with single underscores between
digits and blanks around it. A float has a fraction and an exponent besides, or is one of the
words `inf`, `infinity` and `nan` in any case. An integer of more digits than the limit is refused.
-/

namespace EngineBridge.Number

open EngineBridge.Text

/-- Blanks that may stand around a number: the six of ASCII and every blank beyond ASCII. -/
def isNumberEdge (character : Char) : Bool :=
  if character.toNat < 0x7F then
    character == ' ' || (0x09 ≤ character.toNat && character.toNat ≤ 0x0D)
  else isBlank character

/-- The digits of a run in which single underscores may stand between digits; nothing if another
character is in it, or an underscore that is not between two digits. -/
def ungroupedDigits? (digitValue : Char → Option Nat) : List Char → Option (List Nat)
  | [] => none
  | [digit] => (digitValue digit).map fun value => [value]
  | digit :: '_' :: rest => do
      let value ← digitValue digit
      return value :: (← ungroupedDigits? digitValue rest)
  | digit :: rest => do
      let value ← digitValue digit
      return value :: (← ungroupedDigits? digitValue rest)

/-- The number that digits of a base stand for, most significant first. -/
def valueInBase (base : Nat) (digits : List Nat) : Nat :=
  digits.foldl (fun value digit => base * value + digit) 0

/-- A natural number, as digits without underscores and within the limit. -/
def natOfDigits? (digits : List Nat) : Option Nat :=
  if digits.length ≤ digitLimit then some (valueInBase 10 digits) else none

/-- A sign, true for minus, and what follows it. -/
def splitSign : List Char → Bool × List Char
  | '-' :: rest => (true, rest)
  | '+' :: rest => (false, rest)
  | rest => (false, rest)

def readInt? (characters : List Char) : Option Int := do
  let (negative, digits) := splitSign (trimWhere isNumberEdge characters)
  let magnitude ← natOfDigits? (← ungroupedDigits? digitValue? digits)
  return if negative then -magnitude else magnitude

example : readInt? " -1_000 ".toList = some (-1000) ∧ readInt? "1__0".toList = none ∧
    readInt? "٣".toList = some 3 ∧ readInt? "".toList = none := by decide +kernel

/-- The float nearest to `digits * 10 ^ exponent`. A decimal far beyond the range of floats is
zero or infinite, whatever its exact exponent. -/
def floatOfDecimal (digits : Nat) (exponent : Int) : Float :=
  if digits == 0 then 0.0
  else
    let size := (Nat.toDigits 10 digits).length
    if exponent + size < -400 then 0.0
    else if exponent + size > 400 then 1.0 / 0.0
    else Float.ofScientific digits (exponent < 0) exponent.natAbs

/-- Digits with optional grouping, where a run without digits is empty. -/
def groupedDigits? (run : List Char) : Option (List Nat) :=
  if run.isEmpty then some [] else ungroupedDigits? digitValue? run

/-- The exponent part of a float, without its letter. -/
def readExponent? (characters : List Char) : Option Int := do
  let (negative, digits) := splitSign characters
  let magnitude := valueInBase 10 (← ungroupedDigits? digitValue? digits)
  return if negative then -magnitude else magnitude

def readMagnitude? (characters : List Char) : Option Float := do
  let word := String.ofList (characters.map Char.toLower)
  if word == "inf" || word == "infinity" then return 1.0 / 0.0
  if word == "nan" then return 0.0 / 0.0
  let isMark := fun character => character == 'e' || character == 'E'
  let mantissa := characters.takeWhile fun character => !isMark character
  let exponent ← match characters.drop mantissa.length with
    | [] => some 0
    | _ :: rest => readExponent? rest
  let whole := mantissa.takeWhile (· != '.')
  let wholeDigits ← groupedDigits? whole
  let fractionDigits ← groupedDigits? (mantissa.drop (whole.length + 1))
  if wholeDigits.isEmpty && fractionDigits.isEmpty then none
  else
    return floatOfDecimal (valueInBase 10 (wholeDigits ++ fractionDigits))
      (exponent - fractionDigits.length)

def readFloat? (characters : List Char) : Option Float := do
  let (negative, magnitude) := splitSign (trimWhere isNumberEdge characters)
  let value ← readMagnitude? magnitude
  return if negative then -value else value

end EngineBridge.Number
