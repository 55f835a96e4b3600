import EngineBridge.Document.Json.Printer
import EngineBridge.Document.Json.Reader
import Mathlib.Algebra.Group.Nat.Defs

/-!
Texts written as JSON and read back.

A text is read as the codes of its characters, and a pair of surrogates among these as one
character. Main statement: what stands between the quotes of a written text is read as this text.
-/

namespace EngineBridge

namespace Text

theorem hexDigitValue?_hexDigit {value : Nat} (small : value < 16) :
    hexDigitValue? (hexDigit value) = some value := by
  have all : ∀ value < 16, hexDigitValue? (hexDigit value) = some value := by decide
  exact all value small

theorem hexValue?_hexDigits (width : Nat) {value : Nat} (small : value < 16 ^ width) :
    hexValue? (hexDigits width value) = some value := by
  induction width generalizing value with
  | zero =>
      have none : value = 0 := by simpa using small
      rw [none]
      rfl
  | succ width induction =>
      have front : value / 16 < 16 ^ width := by
        rw [Nat.div_lt_iff_lt_mul (by decide), ← Nat.pow_succ]
        exact small
      have read := induction front
      have last := hexDigitValue?_hexDigit (Nat.mod_lt value (by decide : 0 < 16))
      rw [hexValue?] at read ⊢
      rw [hexDigits, List.foldl_append, read]
      simp only [List.foldl_cons, List.foldl_nil, Option.bind_eq_bind, Option.bind_some, last]
      exact congrArg some (Nat.div_add_mod value 16)

end Text

namespace Document.Json

/-- The codes that a character is read from: its code point, or a high and a low surrogate. -/
def codesOf (character : Char) : List Nat :=
  if character.toNat < 0x10000 then [character.toNat]
  else
    [0xD800 + (character.toNat - 0x10000) / 0x400, 0xDC00 + (character.toNat - 0x10000) % 0x400]

/-- The codes that a written character is read from. Surrogates stand only where all is escaped that
is not ASCII. -/
def codesIn : Style → Char → List Nat
  | .ascii, character => codesOf character
  | .unicode, character => [character.toNat]

theorem codesIn_of_lt (style : Style) {character : Char} (small : character.toNat < 0x10000) :
    codesIn style character = [character.toNat] := by
  cases style with
  | ascii => exact if_pos small
  | unicode => rfl

section

variable {codes : List Nat} {rest remaining : Rest}

theorem readCodes_escapedUnit {unit : Nat} (small : unit < 0x10000)
    (read : readCodes rest = .ok (codes, remaining)) :
    readCodes (escapedUnit unit ++ rest) = .ok (unit :: codes, remaining) := by
  have value := Text.hexValue?_hexDigits 4 small
  simp only [Text.hexDigits, List.nil_append, List.cons_append] at value
  simp only [escapedUnit, Text.hexDigits, List.nil_append, List.cons_append, readCodes, value, read]
  rfl

theorem readCodes_letter {letter character : Char} (other : letter ≠ 'u')
    (escaped : escapedLetter? letter = some character)
    (read : readCodes rest = .ok (codes, remaining)) :
    readCodes ('\\' :: letter :: rest) = .ok (character.toNat :: codes, remaining) := by
  rw [readCodes]
  · simp only [escaped, read]
    rfl
  · intro first second third fourth behind same
    exact absurd same other

theorem readCodes_plain {character : Char} (printed : 0x20 ≤ character.toNat)
    (noQuote : character ≠ '\x22') (noEscape : character ≠ '\\')
    (read : readCodes rest = .ok (codes, remaining)) :
    readCodes (character :: rest) = .ok (character.toNat :: codes, remaining) := by
  have kept : (decide (character.toNat < 0x20) || character == '\\') = false := by
    simp [noEscape]
    omega
  rw [readCodes]
  · simp only [kept, read]
    rfl
  · exact noQuote
  · intro first second third fourth behind same
    exact absurd same noEscape
  · intro letter behind same
    exact absurd same noEscape

theorem isValidChar (character : Char) :
    character.toNat < 0xD800 ∨ 0xDFFF < character.toNat ∧ character.toNat < 0x110000 :=
  character.valid

theorem readCodes_escapedUnits (character : Char) (read : readCodes rest = .ok (codes, remaining)) :
    readCodes (escapedUnits character.toNat ++ rest) =
      .ok (codesOf character ++ codes, remaining) := by
  have valid := isValidChar character
  unfold escapedUnits codesOf
  split
  · rename_i small
    exact readCodes_escapedUnit small read
  · rw [List.append_assoc]
    apply readCodes_escapedUnit (by omega)
    exact readCodes_escapedUnit (by omega) read

theorem readCodes_escape (style : Style) {letter character : Char} (known : Char)
    (same : character.toNat = known.toNat) (other : letter ≠ 'u')
    (escaped : escapedLetter? letter = some known) (small : known.toNat < 0x10000)
    (read : readCodes rest = .ok (codes, remaining)) :
    readCodes (['\\', letter] ++ rest) = .ok (codesIn style character ++ codes, remaining) := by
  rw [Char.toNat_inj.mp same, codesIn_of_lt style small]
  exact readCodes_letter other escaped read

/-- A written character is read as its codes. -/
theorem readCodes_writeCharacter (style : Style) (character : Char)
    (read : readCodes rest = .ok (codes, remaining)) :
    readCodes (writeCharacter style character ++ rest) =
      .ok (codesIn style character ++ codes, remaining) := by
  simp only [writeCharacter]
  split
  · exact readCodes_escape style '\x22' (by assumption) (by decide) rfl (by decide) read
  split
  · exact readCodes_escape style '\\' (by assumption) (by decide) rfl (by decide) read
  split
  · exact readCodes_escape style '\n' (by assumption) (by decide) rfl (by decide) read
  split
  · exact readCodes_escape style '\r' (by assumption) (by decide) rfl (by decide) read
  split
  · exact readCodes_escape style '\t' (by assumption) (by decide) rfl (by decide) read
  split
  · exact readCodes_escape style '\x0c' (by assumption) (by decide) rfl (by decide) read
  split
  · exact readCodes_escape style '\x08' (by assumption) (by decide) rfl (by decide) read
  rename_i noQuote noEscape _ _ _ _ _
  split
  · rename_i control
    have small : character.toNat < 0x10000 := by omega
    rw [codesIn_of_lt style small]
    exact readCodes_escapedUnit small read
  split
  · rename_i escaped
    have isAscii : style = .ascii := by simp_all
    rw [isAscii]
    exact readCodes_escapedUnits character read
  · rename_i printed plain
    have alone : codesIn style character = [character.toNat] := by
      cases style with
      | unicode => rfl
      | ascii =>
          apply codesIn_of_lt
          have small : character.toNat < 0x7F := by simpa using plain
          omega
    rw [alone]
    apply readCodes_plain (by omega) _ _ read
    · intro same
      exact noQuote (congrArg Char.toNat same)
    · intro same
      exact noEscape (congrArg Char.toNat same)

end

/-- The code of a character that stands alone is this character. -/
theorem joinSurrogates_alone (character : Char) (codes : List Nat) :
    joinSurrogates (character.toNat :: codes) = character :: joinSurrogates codes := by
  have valid := isValidChar character
  have notHigh : isHighSurrogate character.toNat = false := by
    simp [isHighSurrogate]
    omega
  have notLow : isLowSurrogate character.toNat = false := by
    simp [isLowSurrogate]
    omega
  have alone : characterOfUnit character.toNat = character := by
    rw [characterOfUnit, notHigh, notLow]
    exact Char.ofNat_toNat character
  cases codes with
  | nil => simp [joinSurrogates, alone]
  | cons next rest => simp [joinSurrogates, notHigh, alone]

/-- The codes of a character are joined to this character. -/
theorem joinSurrogates_codesOf (character : Char) (codes : List Nat) :
    joinSurrogates (codesOf character ++ codes) = character :: joinSurrogates codes := by
  have valid := isValidChar character
  unfold codesOf
  split
  · exact joinSurrogates_alone character codes
  · have high : isHighSurrogate (0xD800 + (character.toNat - 0x10000) / 0x400) = true := by
      simp [isHighSurrogate]
      omega
    have low : isLowSurrogate (0xDC00 + (character.toNat - 0x10000) % 0x400) = true := by
      simp [isLowSurrogate]
      omega
    have together : characterOfPair (0xD800 + (character.toNat - 0x10000) / 0x400)
        (0xDC00 + (character.toNat - 0x10000) % 0x400) = character := by
      have code : 0x10000 + (0xD800 + (character.toNat - 0x10000) / 0x400 - 0xD800) * 0x400 +
          (0xDC00 + (character.toNat - 0x10000) % 0x400 - 0xDC00) = character.toNat := by
        omega
      rw [characterOfPair, code, Char.ofNat_toNat]
    simp [joinSurrogates, high, low, together]

theorem joinSurrogates_codesIn (style : Style) (character : Char) (codes : List Nat) :
    joinSurrogates (codesIn style character ++ codes) = character :: joinSurrogates codes := by
  cases style with
  | ascii => exact joinSurrogates_codesOf character codes
  | unicode => exact joinSurrogates_alone character codes

theorem readCodes_characters (style : Style) (characters : List Char) (rest : Rest) :
    readCodes (characters.flatMap (writeCharacter style) ++ '\x22' :: rest) =
      .ok (characters.flatMap (codesIn style), rest) := by
  induction characters with
  | nil => rfl
  | cons character characters induction =>
      rw [List.flatMap_cons, List.flatMap_cons, List.append_assoc]
      exact readCodes_writeCharacter style character induction

theorem joinSurrogates_characters (style : Style) (characters : List Char) :
    joinSurrogates (characters.flatMap (codesIn style)) = characters := by
  induction characters with
  | nil => rfl
  | cons character characters induction =>
      rw [List.flatMap_cons, joinSurrogates_codesIn, induction]

theorem writeText_eq (style : Style) (text : String) :
    writeText style text = '\x22' :: (writeText style text).tail :=
  rfl

/-- A written text is read back from behind its opening quote. -/
theorem readText_writeText (style : Style) (text : String) (rest : Rest) :
    readText ((writeText style text).tail ++ rest) = .ok (text.toList, rest) := by
  have shape : (writeText style text).tail ++ rest =
      text.toList.flatMap (writeCharacter style) ++ '\x22' :: rest := by
    simp [writeText]
  simp only [readText, shape, readCodes_characters]
  exact congrArg (fun characters => Except.ok (characters, rest))
    (joinSurrogates_characters style text.toList)

end Document.Json

end EngineBridge
