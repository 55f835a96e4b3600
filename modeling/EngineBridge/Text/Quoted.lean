import EngineBridge.Text.Hexadecimal
import EngineBridge.Text.Printable

/-!
Quoted text, as messages show a value.

The text stands between single quotes, or between double quotes if it holds a single quote and no
double quote. A backslash and the enclosing quote are escaped, line feed, carriage return and tab
have letters, and every other character without a printed form is written by its code point.
-/

namespace EngineBridge.Text

def singleQuote : Char := '\x27'

def doubleQuote : Char := '\x22'

def enclosingQuote (characters : List Char) : Char :=
  if characters.contains singleQuote && !characters.contains doubleQuote then doubleQuote
  else singleQuote

/-- A code point by its number, in the shortest of the three forms that holds it. -/
def escapeCode (code : Nat) : List Char :=
  if code ≤ 0xFF then '\\' :: 'x' :: hexDigits 2 code
  else if code ≤ 0xFFFF then '\\' :: 'u' :: hexDigits 4 code
  else '\\' :: 'U' :: hexDigits 8 code

/-- The written form of one character between two quotes of the given kind. -/
def quotedCharacter (quote : Char) (character : Char) : List Char :=
  if character = quote || character = '\\' then ['\\', character]
  else if character = '\n' then ['\\', 'n']
  else if character = '\r' then ['\\', 'r']
  else if character = '\t' then ['\\', 't']
  else if isPrintable character then [character]
  else escapeCode character.toNat

def quotedCharacters (characters : List Char) : List Char :=
  let quote := enclosingQuote characters
  quote :: characters.flatMap (quotedCharacter quote) ++ [quote]

def quoted (text : String) : String :=
  String.ofList (quotedCharacters text.toList)

example : quoted "a\n\\" = "'a\\n\\\\'" ∧ quoted "it's" = "\"it's\"" := by decide +kernel

/-- The written form of one byte between two quotes of the given kind: a printed character of
ASCII stands for itself. -/
def quotedByte (quote : Char) (byte : UInt8) : List Char :=
  let character := Char.ofNat byte.toNat
  if byte < 0x7F then quotedCharacter quote character else escapeCode byte.toNat

/-- The quoted form of a run of bytes, marked by a leading `b`. -/
def quotedBytes (bytes : List UInt8) : String :=
  let quote := enclosingQuote (bytes.map fun byte => Char.ofNat byte.toNat)
  String.ofList ('b' :: quote :: bytes.flatMap (quotedByte quote) ++ [quote])

example : quotedBytes [0x00, 0x41, 0xff] = "b'\\x00A\\xff'" := by decide +kernel

end EngineBridge.Text
