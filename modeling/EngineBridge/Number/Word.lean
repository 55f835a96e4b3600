/-!
Machine words and their bytes.

Integers that cross to the engine keep their lowest 64 bits, read as signed or unsigned; call
errors keep 32. A word is stored as bytes, least significant first, and reading past the end of a
store gives zeros.
-/

namespace EngineBridge.Number

/-- The signed integer of 64 bits with the same lowest bits. -/
def wrapSigned (number : Int) : Int :=
  Int.bmod number 0x10000000000000000

/-- The natural number of 64 bits with the same lowest bits. -/
def wrapUnsigned (number : Int) : Nat :=
  (number % 0x10000000000000000).toNat

/-- The signed integer of 32 bits with the same lowest bits. -/
def wrapSignedShort (number : Int) : Int :=
  Int.bmod number 0x100000000

example : wrapSigned (2 ^ 63) = -(2 ^ 63) ∧ wrapUnsigned (-1) = 2 ^ 64 - 1 ∧
    wrapSignedShort (2 ^ 31) = -(2 ^ 31) := by decide

/-- The lowest bytes of a number, least significant first. -/
def littleEndian : Nat → Nat → List UInt8
  | 0, _ => []
  | width + 1, number => (number % 256).toUInt8 :: littleEndian width (number / 256)

/-- The number that bytes stand for, least significant first. -/
def ofLittleEndian : List UInt8 → Nat
  | [] => 0
  | byte :: rest => byte.toNat + 256 * ofLittleEndian rest

def wordBytes (number : Int) : List UInt8 :=
  littleEndian 8 (wrapUnsigned number)

/-- The word in eight bytes from an offset on, zeros standing for bytes past the end. -/
def wordAt (bytes : List UInt8) (offset : Nat) : Nat :=
  ofLittleEndian ((bytes.drop offset).take 8)

/-- The same word read as a signed integer. -/
def signedWordAt (bytes : List UInt8) (offset : Nat) : Int :=
  wrapSigned (wordAt bytes offset)

/-- Exactly `size` bytes of a store, zeros standing for bytes past its end. -/
def bytesAt (bytes : List UInt8) (size : Nat) : List UInt8 :=
  bytes.take size ++ List.replicate (size - bytes.length) 0

/-- A store with its first bytes replaced. What does not fit is cut off. -/
def overwrite (store bytes : List UInt8) : List UInt8 :=
  (bytes ++ store.drop bytes.length).take store.length

example : signedWordAt (wordBytes (-2)) 0 = -2 := by decide

end EngineBridge.Number
