/-!
Upper case, as far as names in ASCII can come of it.

Beside the letters `a` to `z`, a few characters outside ASCII have an upper case that is ASCII: the
dotless i, the long s, the sharp s and the Latin ligatures. All other characters stay as they are;
their upper case, if they have one, is not ASCII, so no ASCII name can come of them.
-/

namespace EngineBridge.Text

def foreignUpperCases : List (Nat × String) :=
  [(0xDF, "SS"), (0x131, "I"), (0x17F, "S"), (0xFB00, "FF"), (0xFB01, "FI"), (0xFB02, "FL"),
    (0xFB03, "FFI"), (0xFB04, "FFL"), (0xFB05, "ST"), (0xFB06, "ST")]

def upperCaseCharacter (character : Char) : List Char :=
  match foreignUpperCases.lookup character.toNat with
  | some upper => upper.toList
  | none => [character.toUpper]

def upperCase (characters : List Char) : List Char :=
  characters.flatMap upperCaseCharacter

example : upperCase "ınfo".toList = "INFO".toList := by decide +kernel

end EngineBridge.Text
