import EngineBridge.Failure

/-!
Texts in UTF-8.

A text is a sequence of Unicode scalar values and is encoded in one to four bytes for each. Bytes
that encode no text are refused. Decoding what was encoded gives the text back.
-/

namespace EngineBridge.Text

def utf8 (text : String) : List UInt8 :=
  text.toUTF8.data.toList

def ofUtf8 (bytes : List UInt8) : Except Failure String :=
  match String.fromUTF8? ⟨bytes.toArray⟩ with
  | some text => .ok text
  | none => .error .unreadable

theorem ofUtf8_utf8 (text : String) : ofUtf8 (utf8 text) = .ok text := by
  have valid : (⟨(utf8 text).toArray⟩ : ByteArray).IsValidUTF8 := text.isValidUTF8
  unfold ofUtf8
  rw [String.fromUTF8?, dif_pos valid]
  rfl

/-- The size of a text is that of its encoding. -/
theorem length_utf8 (text : String) : (utf8 text).length = text.utf8ByteSize := rfl

/-- Only the empty text is encoded in no bytes. -/
theorem utf8_eq_nil_iff {text : String} : utf8 text = [] ↔ text = "" := by
  rw [← List.length_eq_zero_iff, length_utf8, String.utf8ByteSize_eq_zero_iff]

example : utf8 "aé€𝄞\x00" =
      [0x61, 0xc3, 0xa9, 0xe2, 0x82, 0xac, 0xf0, 0x9d, 0x84, 0x9e, 0x00] ∧
    (ofUtf8 [0x61, 0xc3]).isOk = false ∧ (ofUtf8 [0xed, 0xa0, 0x80]).isOk = false := by
  decide +kernel

end EngineBridge.Text
