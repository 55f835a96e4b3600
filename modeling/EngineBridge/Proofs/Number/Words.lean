import EngineBridge.Engine.Held

/-!
Words in bytes.

Main statements: what is stored in eight bytes is read back, wrapped to the width of a word; a
number within the signed words and the words of a payload are read back as they were.
-/

namespace EngineBridge

namespace Number

/-- One more than the largest signed word. -/
def wordLimit : Int := 0x8000000000000000

/-- Whether a number is a signed word. -/
def IsSignedWord (number : Int) : Prop :=
  -wordLimit ≤ number ∧ number < wordLimit

/-- Whether a number is an unsigned word. -/
def IsUnsignedWord (number : Int) : Prop :=
  0 ≤ number ∧ number < 2 * wordLimit

@[simp] theorem length_littleEndian (width number : Nat) :
    (littleEndian width number).length = width := by
  induction width generalizing number with
  | zero => rfl
  | succ width induction => rw [littleEndian, List.length_cons, induction]

@[simp] theorem length_wordBytes (number : Int) : (wordBytes number).length = 8 :=
  length_littleEndian 8 _

/-- Bytes keep as much of a number as fits. -/
theorem ofLittleEndian_littleEndian (width number : Nat) :
    ofLittleEndian (littleEndian width number) = number % Nat.pow 256 width := by
  induction width generalizing number with
  | zero => exact (Nat.mod_one number).symm
  | succ width induction =>
      rw [littleEndian, ofLittleEndian, induction]
      have low : (number % 256).toUInt8.toNat = number % 256 := by
        simp
      have power : Nat.pow 256 (width + 1) = 256 * Nat.pow 256 width := Nat.pow_succ'
      rw [low, power, Nat.mod_mul]

theorem wrapUnsigned_lt (number : Int) : wrapUnsigned number < 0x10000000000000000 := by
  unfold wrapUnsigned
  omega

theorem wordAt_append_littleEndian (lead rest : List UInt8) (number : Nat) :
    wordAt (lead ++ littleEndian 8 number ++ rest) lead.length =
      number % 0x10000000000000000 := by
  have taken : ((lead ++ littleEndian 8 number ++ rest).drop lead.length).take 8 =
      littleEndian 8 number := by
    rw [List.append_assoc, List.drop_left]
    exact List.take_left' (length_littleEndian 8 number)
  rw [wordAt, taken, ofLittleEndian_littleEndian]

/-- A word that stands in a store is read back. -/
theorem wordAt_append_wordBytes (lead rest : List UInt8) (number : Int) :
    wordAt (lead ++ wordBytes number ++ rest) lead.length = wrapUnsigned number := by
  rw [wordBytes, wordAt_append_littleEndian, Nat.mod_eq_of_lt (wrapUnsigned_lt number)]

@[simp] theorem wordAt_wordBytes (number : Int) :
    wordAt (wordBytes number) 0 = wrapUnsigned number := by
  simpa using wordAt_append_wordBytes [] [] number

/-- Reading a word as signed undoes the passage through the unsigned words. -/
theorem wrapSigned_wrapUnsigned (number : Int) :
    wrapSigned (wrapUnsigned number) = wrapSigned number := by
  unfold wrapSigned wrapUnsigned
  rw [Int.toNat_of_nonneg (Int.emod_nonneg _ (by decide))]
  exact Int.emod_bmod number 0x10000000000000000

@[simp] theorem signedWordAt_wordBytes (number : Int) :
    signedWordAt (wordBytes number) 0 = wrapSigned number := by
  rw [signedWordAt, wordAt_wordBytes, wrapSigned_wrapUnsigned]

theorem wrapSigned_of_isSignedWord {number : Int} (word : IsSignedWord number) :
    wrapSigned number = number := by
  unfold IsSignedWord wordLimit at word
  unfold wrapSigned
  rw [Int.bmod_def]
  split <;> omega

/-- What is wrapped is a signed word. -/
theorem isSignedWord_wrapSigned (number : Int) : IsSignedWord (wrapSigned number) := by
  unfold IsSignedWord wordLimit wrapSigned
  rw [Int.bmod_def]
  split <;> omega

/-- Only the signed words stay as they are. -/
theorem wrapSigned_eq_self_iff {number : Int} : wrapSigned number = number ↔ IsSignedWord number :=
  ⟨fun same => same ▸ isSignedWord_wrapSigned number, wrapSigned_of_isSignedWord⟩

theorem wrapUnsigned_of_isUnsignedWord {number : Int} (word : IsUnsignedWord number) :
    (wrapUnsigned number : Int) = number := by
  unfold IsUnsignedWord wordLimit at word
  unfold wrapUnsigned
  omega

/-- A store is replaced as a whole by as many bytes. -/
theorem overwrite_of_length_eq {store bytes : List UInt8} (same : bytes.length = store.length) :
    overwrite store bytes = bytes := by
  rw [overwrite, same, List.drop_length, List.append_nil, ← same, List.take_length]

end Number

namespace Payload

open Number

/-- The bytes of a payload hold its three words. -/
@[simp] theorem ofBytes_bytes (payload : Payload) :
    ofBytes payload.bytes =
      ⟨wrapSigned payload.typeNumber, wrapSigned payload.slot, wrapSigned payload.third⟩ := by
  have first := wordAt_append_wordBytes [] (wordBytes payload.slot ++ wordBytes payload.third)
    payload.typeNumber
  have second := wordAt_append_wordBytes (wordBytes payload.typeNumber)
    (wordBytes payload.third) payload.slot
  have third := wordAt_append_wordBytes (wordBytes payload.typeNumber ++ wordBytes payload.slot)
    [] payload.third
  simp only [List.nil_append, List.append_nil, List.length_nil, List.length_append,
    length_wordBytes, ← List.append_assoc] at first second third
  simp only [ofBytes, bytes, signedWordAt]
  rw [first, second, third]
  simp only [wrapSigned_wrapUnsigned]

@[simp] theorem length_bytes (payload : Payload) : payload.bytes.length = byteCount := by
  simp [bytes, byteCount]

theorem ofBytes_slot {payload : Payload} (word : IsSignedWord payload.slot) :
    (ofBytes payload.bytes).slot = payload.slot := by
  rw [ofBytes_bytes]
  exact wrapSigned_of_isSignedWord word

end Payload

end EngineBridge
