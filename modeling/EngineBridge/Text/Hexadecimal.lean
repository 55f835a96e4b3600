/-!
Hexadecimal text.

Bytes are written as two lower-case digits each; reading takes digits of either case. Reading what
was written gives the bytes back.
-/

namespace EngineBridge.Text

/-- The digit of a number below sixteen, in lower case. -/
def hexDigit (value : Nat) : Char :=
  if value < 10 then Char.ofNat (0x30 + value) else Char.ofNat (0x57 + value)

def hexDigitValue? (character : Char) : Option Nat :=
  let code := character.toNat
  if 0x30 ≤ code && code ≤ 0x39 then some (code - 0x30)
  else if 0x61 ≤ code && code ≤ 0x66 then some (code - 0x57)
  else if 0x41 ≤ code && code ≤ 0x46 then some (code - 0x37)
  else none

/-- The lowest `width` hexadecimal digits of a number. -/
def hexDigits : Nat → Nat → List Char
  | 0, _ => []
  | width + 1, value => hexDigits width (value / 16) ++ [hexDigit (value % 16)]

/-- The number that a run of hexadecimal digits stands for, or nothing if another character is
among them. -/
def hexValue? (digits : List Char) : Option Nat :=
  digits.foldl (fun value? digit => do return 16 * (← value?) + (← hexDigitValue? digit)) (some 0)

example : hexDigits 4 0x0a5f = "0a5f".toList ∧ hexValue? "0A5f".toList = some 0x0a5f := by decide

def hexOfBytes (bytes : List UInt8) : String :=
  String.ofList (bytes.flatMap fun byte => hexDigits 2 byte.toNat)

def isHexSpace (character : Char) : Bool :=
  character == ' ' || 0x09 ≤ character.toNat && character.toNat ≤ 0x0d

/-- The bytes that pairs of hexadecimal digits stand for. Spaces may stand between the pairs. -/
def bytesOfHex? : List Char → Option (List UInt8)
  | [] => some []
  | high :: rest =>
      if isHexSpace high then bytesOfHex? rest
      else match rest with
        | low :: rest => do
            let value := 16 * (← hexDigitValue? high) + (← hexDigitValue? low)
            return value.toUInt8 :: (← bytesOfHex? rest)
        | [] => none

example : bytesOfHex? "00fF".toList = some [0, 255] ∧ bytesOfHex? " 0a 0b".toList = some [10, 11] ∧
    bytesOfHex? "0 a".toList = none := by decide

end EngineBridge.Text
