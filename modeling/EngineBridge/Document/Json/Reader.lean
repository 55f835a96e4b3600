import EngineBridge.Document.Access
import EngineBridge.Number.Reading
import EngineBridge.Text.Hexadecimal

/-!
Documents read from JSON.

Integers and floats are told apart by their written form. The names `NaN`, `Infinity` and
`-Infinity` are numbers. Where a key stands twice in a table, the last value counts, at the place
of the first. Reading needs no more steps than twice the length of the text.
-/

namespace EngineBridge.Document.Json

abbrev Rest := List Char

def isSpace (character : Char) : Bool :=
  character == ' ' || character == '\t' || character == '\n' || character == '\r'

def skipSpace (characters : Rest) : Rest :=
  characters.dropWhile isSpace

def isHighSurrogate (unit : Nat) : Bool :=
  0xD800 ≤ unit && unit < 0xDC00

def isLowSurrogate (unit : Nat) : Bool :=
  0xDC00 ≤ unit && unit < 0xE000

/-- The character of a unit that stands alone. A lone surrogate has none and is replaced. -/
def characterOfUnit (unit : Nat) : Char :=
  if isHighSurrogate unit || isLowSurrogate unit then '\ufffd' else Char.ofNat unit

def characterOfPair (high low : Nat) : Char :=
  Char.ofNat (0x10000 + (high - 0xD800) * 0x400 + (low - 0xDC00))

def escapedLetter? : Char → Option Char
  | '\x22' => some '\x22'
  | '\\' => some '\\'
  | '/' => some '/'
  | 'b' => some '\x08'
  | 'f' => some '\x0c'
  | 'n' => some '\n'
  | 'r' => some '\r'
  | 't' => some '\t'
  | _ => none

/-- The characters that code points and units of 16 bits stand for: a high surrogate and the low
one behind it are one character. -/
def joinSurrogates : List Nat → List Char
  | [] => []
  | [code] => [characterOfUnit code]
  | code :: next :: rest =>
      if isHighSurrogate code && isLowSurrogate next then
        characterOfPair code next :: joinSurrogates rest
      else characterOfUnit code :: joinSurrogates (next :: rest)

/-- The codes of a text, from behind its opening quote to behind its closing one. -/
def readCodes : Rest → Except Failure (List Nat × Rest)
  | [] => .error .malformedJson
  | '\x22' :: rest => .ok ([], rest)
  | '\\' :: 'u' :: first :: second :: third :: fourth :: rest =>
      match Text.hexValue? [first, second, third, fourth] with
      | none => .error .malformedJson
      | some unit => do
          let (codes, remaining) ← readCodes rest
          return (unit :: codes, remaining)
  | '\\' :: letter :: rest =>
      match escapedLetter? letter with
      | none => .error .malformedJson
      | some character => do
          let (codes, remaining) ← readCodes rest
          return (character.toNat :: codes, remaining)
  | character :: rest =>
      if character.toNat < 0x20 || character == '\\' then .error .malformedJson
      else do
        let (codes, remaining) ← readCodes rest
        return (character.toNat :: codes, remaining)

/-- A text, from behind its opening quote to behind its closing one. -/
def readText (characters : Rest) : Except Failure (List Char × Rest) := do
  let (codes, remaining) ← readCodes characters
  return (joinSurrogates codes, remaining)

def splitDigits (characters : Rest) : List Char × Rest :=
  (characters.takeWhile Char.isDigit, characters.dropWhile Char.isDigit)

/-- The digits before the point: a zero, or a run that begins with another digit. -/
def splitWhole (characters : Rest) : Option (List Char × Rest) :=
  match characters with
  | '0' :: rest => some (['0'], rest)
  | digit :: _ => if digit.isDigit then some (splitDigits characters) else none
  | [] => none

/-- A point and digits, if both are there. -/
def splitFraction (characters : Rest) : Option (List Char × Rest) :=
  match characters with
  | '.' :: rest =>
      let (digits, remaining) := splitDigits rest
      if digits.isEmpty then none else some ('.' :: digits, remaining)
  | _ => none

/-- The letter, the sign and the digits of an exponent, if the letter and a digit are there. -/
def splitExponent (characters : Rest) : Option (List Char × Rest) :=
  match characters with
  | mark :: rest =>
      if mark == 'e' || mark == 'E' then
        let (sign, behind) := match rest with
          | '+' :: behind => (['+'], behind)
          | '-' :: behind => (['-'], behind)
          | _ => ([], rest)
        let (digits, remaining) := splitDigits behind
        if digits.isEmpty then none else some (mark :: sign ++ digits, remaining)
      else none
  | [] => none

/-- The minus sign in front, if there is one. -/
def splitMinus : Rest → List Char × Rest
  | '-' :: rest => (['-'], rest)
  | rest => ([], rest)

/-- A number without fraction and exponent is an integer; any other is a float. -/
def readNumber (characters : Rest) : Except Failure (Document × Rest) :=
  let (sign, unsigned) := splitMinus characters
  match splitWhole unsigned with
  | none => .error .malformedJson
  | some (whole, rest) =>
      let (fraction, behind) := (splitFraction rest).getD ([], rest)
      let (exponent, remaining) := (splitExponent behind).getD ([], behind)
      if fraction.isEmpty && exponent.isEmpty then
        match Number.readInt? (sign ++ whole) with
        | some number => .ok (.int number, remaining)
        | none => .error .unreadable
      else
        match Number.readFloat? (sign ++ whole ++ fraction ++ exponent) with
        | some number => .ok (.float number, remaining)
        | none => .error .malformedJson

/-- What follows a word at the head of a text, if the word is there. -/
def afterWord? (word : String) (characters : Rest) : Option Rest :=
  let length := word.toList.length
  if characters.take length = word.toList then some (characters.drop length) else none

def words : List (String × Document) :=
  [("null", .null), ("true", .bool true), ("false", .bool false), ("NaN", .float (0.0 / 0.0)),
    ("Infinity", .float (1.0 / 0.0)), ("-Infinity", .float (-1.0 / 0.0))]

def readScalar (characters : Rest) : Except Failure (Document × Rest) :=
  match words.findSome? fun entry => (afterWord? entry.1 characters).map fun rest =>
    (entry.2, rest) with
  | some found => .ok found
  | none => readNumber characters

/-- How deep brackets and braces may be nested. -/
def nestingRoom : Nat := 987

mutual

/-- A value at the head of a text. The first argument bounds the number of steps, and the second
one how deep what follows may be nested. -/
def readValue : Nat → Nat → Rest → Except Failure (Document × Rest)
  | 0, _, _ => .error .malformedJson
  | steps + 1, room, characters =>
      match characters with
      | '\x22' :: rest => do
          let (content, remaining) ← readText rest
          return (.text (String.ofList content), remaining)
      | '[' :: rest =>
          match room with
          | 0 => .error .tooDeep
          | room + 1 =>
              match skipSpace rest with
              | ']' :: remaining => .ok (.array [], remaining)
              | items => do
                  let (values, remaining) ← readItems steps room items
                  return (.array values, remaining)
      | '\x7b' :: rest =>
          match room with
          | 0 => .error .tooDeep
          | room + 1 =>
              match skipSpace rest with
              | '\x7d' :: remaining => .ok (.table [], remaining)
              | entries => do
                  let (pairs, remaining) ← readEntries steps room entries
                  return (.table (Entries.ofPairs pairs), remaining)
      | _ => readScalar characters

/-- The items of an array, up to behind its closing bracket. -/
def readItems : Nat → Nat → Rest → Except Failure (List Document × Rest)
  | 0, _, _ => .error .malformedJson
  | steps + 1, room, characters => do
      let (value, behind) ← readValue steps room characters
      match skipSpace behind with
      | ']' :: rest => return ([value], rest)
      | ',' :: rest => do
          let (values, remaining) ← readItems steps room (skipSpace rest)
          return (value :: values, remaining)
      | _ => .error .malformedJson

/-- The entries of a table, up to behind its closing brace. -/
def readEntries : Nat → Nat → Rest → Except Failure (List (String × Document) × Rest)
  | 0, _, _ => .error .malformedJson
  | steps + 1, room, characters =>
      match characters with
      | '\x22' :: keyed => do
          let (key, behindKey) ← readText keyed
          match skipSpace behindKey with
          | ':' :: valued => do
              let (value, behind) ← readValue steps room (skipSpace valued)
              match skipSpace behind with
              | '\x7d' :: rest => return ([(String.ofList key, value)], rest)
              | ',' :: rest => do
                  let (pairs, remaining) ← readEntries steps room (skipSpace rest)
                  return ((String.ofList key, value) :: pairs, remaining)
              | _ => .error .malformedJson
          | _ => .error .malformedJson
      | _ => .error .malformedJson

end

/-- The document that a whole text holds, with nothing but space around it. -/
def readCharacters (characters : List Char) : Except Failure Document := do
  let (document, rest) ←
    readValue (2 * characters.length + 2) nestingRoom (skipSpace characters)
  if (skipSpace rest).isEmpty then return document else throw .malformedJson

/-- The document that a text holds. A byte-order mark in front is no space. -/
def read (text : String) : Except Failure Document :=
  readCharacters text.toList

end EngineBridge.Document.Json
