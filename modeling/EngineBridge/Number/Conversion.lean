import EngineBridge.Failure
import EngineBridge.Number.Reading

/-!
Conversions between the kinds of numbers.

A float is cut toward zero, and texts and bytes are read as numerals. Infinities are too large for
an integer, what is no number cannot be read as one, and an integer beyond the range of floats is
too large for a float.
-/

namespace EngineBridge.Number

def integerOfFloat (value : Float) : Except Failure Int :=
  match truncate? value with
  | some number => .ok number
  | none => .error (if isNotANumber value then .unreadable else .tooLarge)

def integerOfCharacters (characters : List Char) : Except Failure Int :=
  match readInt? characters with
  | some number => .ok number
  | none => .error .unreadable

/-- The integer that bytes are the numeral of; only characters of seven bits stand in numerals. -/
def integerOfBytes (content : List UInt8) : Except Failure Int :=
  integerOfCharacters (content.map fun byte =>
    if byte < 0x80 then Char.ofNat byte.toNat else '?')

example : integerOfBytes [0x20, 0x35] = .ok 5 := by rfl

def floatOfInt (number : Int) : Except Failure Float :=
  let magnitude := Float.ofScientific number.natAbs false 0
  if isFinite magnitude then .ok (if number < 0 then -magnitude else magnitude)
  else .error .tooLarge

end EngineBridge.Number
