import EngineBridge.Document.Access
import EngineBridge.Number.Reading
import EngineBridge.Text.Hexadecimal

/-!
Documents written as JSON.

A style says which characters a text keeps as they are. On one line, items are separated by a
comma and a space; indented, each item has a line of its own and two spaces a level. An integer of
more digits than can be read is not written: a document that holds one breaks off in front of it.
-/

namespace EngineBridge.Document.Json

/-- Which characters stand for themselves between quotes. -/
inductive Style where
  /-- Printed ASCII only; all else is escaped by its units of 16 bits. -/
  | ascii
  /-- Everything except quotes, backslashes and control characters. -/
  | unicode
deriving DecidableEq, Repr

/-- A unit of 16 bits, escaped. -/
def escapedUnit (unit : Nat) : List Char :=
  '\\' :: 'u' :: Text.hexDigits 4 unit

/-- A character by its units of 16 bits: one, or two for a code point beyond U+FFFF. -/
def escapedUnits (code : Nat) : List Char :=
  if code < 0x10000 then escapedUnit code
  else
    escapedUnit (0xD800 + (code - 0x10000) / 0x400) ++ escapedUnit (0xDC00 + (code - 0x10000) % 0x400)

def writeCharacter (style : Style) (character : Char) : List Char :=
  let code := character.toNat
  if code = 0x22 then ['\\', '\x22']
  else if code = 0x5C then ['\\', '\\']
  else if code = 0x0A then ['\\', 'n']
  else if code = 0x0D then ['\\', 'r']
  else if code = 0x09 then ['\\', 't']
  else if code = 0x0C then ['\\', 'f']
  else if code = 0x08 then ['\\', 'b']
  else if code < 0x20 then escapedUnit code
  else if style = .ascii && 0x7F ≤ code then escapedUnits code
  else [character]

def writeText (style : Style) (text : String) : List Char :=
  '\x22' :: text.toList.flatMap (writeCharacter style) ++ ['\x22']

def writeBool (value : Bool) : List Char :=
  if value then "true".toList else "false".toList

/-- A float with the fewest digits that identify it; the values without digits have names. -/
def writeFloat (value : Float) : List Char :=
  if Number.isNotANumber value then "NaN".toList
  else if Number.isFinite value then (Number.writeFloat value).toList
  else if Number.isNegative value then "-Infinity".toList
  else "Infinity".toList

mutual

def compact (style : Style) : Document → List Char
  | .null => "null".toList
  | .bool value => writeBool value
  | .int value => (Number.writeInt value).toList
  | .float value => writeFloat value
  | .text value => writeText style value
  | .moment _ written => writeText style written
  | .array items => '[' :: compactItems style items ++ [']']
  | .table entries => '\x7b' :: compactEntries style entries ++ ['\x7d']

def compactItems (style : Style) : List Document → List Char
  | [] => []
  | [item] => compact style item
  | item :: rest => compact style item ++ ',' :: ' ' :: compactItems style rest

def compactEntries (style : Style) : List (String × Document) → List Char
  | [] => []
  | [(key, value)] => writeText style key ++ ':' :: ' ' :: compact style value
  | (key, value) :: rest =>
      writeText style key ++ ':' :: ' ' :: compact style value ++
        ',' :: ' ' :: compactEntries style rest

end

def newLine (level : Nat) : List Char :=
  '\n' :: List.replicate (2 * level) ' '

mutual

/-- A document over several lines, inside a number of levels. -/
def indented (style : Style) (level : Nat) : Document → List Char
  | .array [] => ['[', ']']
  | .array items =>
      '[' :: newLine (level + 1) ++ indentedItems style (level + 1) items ++ newLine level ++ [']']
  | .table [] => ['\x7b', '\x7d']
  | .table entries =>
      '\x7b' :: newLine (level + 1) ++ indentedEntries style (level + 1) entries ++ newLine level ++
        ['\x7d']
  | scalar => compact style scalar

def indentedItems (style : Style) (level : Nat) : List Document → List Char
  | [] => []
  | [item] => indented style level item
  | item :: rest =>
      indented style level item ++ ',' :: newLine level ++ indentedItems style level rest

def indentedEntries (style : Style) (level : Nat) : List (String × Document) → List Char
  | [] => []
  | [(key, value)] => writeText style key ++ ':' :: ' ' :: indented style level value
  | (key, value) :: rest =>
      writeText style key ++ ':' :: ' ' :: indented style level value ++
        ',' :: newLine level ++ indentedEntries style level rest

end

/-- Whether an integer has more digits than can be read. -/
def isTooLong (value : Int) : Bool :=
  !Number.isWritable value

def isInt : Document → Bool
  | .int _ => true
  | _ => false

mutual

/-- What is written of a document before the first integer that is too long, if it holds one. -/
def brokenOff? (style : Style) (level : Nat) : Document → Option (List Char)
  | .int value => if isTooLong value then some [] else none
  | .array items => brokenItems? style (level + 1) ('[' :: newLine (level + 1)) items
  | .table entries => brokenEntries? style (level + 1) ('\x7b' :: newLine (level + 1)) entries
  | _ => none

/-- A separator is written together with the integer behind it, and before any other item. -/
def brokenItems? (style : Style) (level : Nat) (lead : List Char) :
    List Document → Option (List Char)
  | [] => none
  | item :: rest =>
      match brokenOff? style level item with
      | some written => some (if isInt item then [] else lead ++ written)
      | none =>
          (brokenItems? style level (',' :: newLine level) rest).map fun written =>
            lead ++ indented style level item ++ written

def brokenEntries? (style : Style) (level : Nat) (lead : List Char) :
    List (String × Document) → Option (List Char)
  | [] => none
  | (key, value) :: rest =>
      let named := lead ++ writeText style key ++ [':', ' ']
      match brokenOff? style level value with
      | some written => some (named ++ written)
      | none =>
          (brokenEntries? style level (',' :: newLine level) rest).map fun written =>
            named ++ indented style level value ++ written

end

/-- Whether no integer of a document is too long. -/
def isWritable (document : Document) : Bool :=
  (brokenOff? .ascii 0 document).isNone

def write (document : Document) : String :=
  String.ofList (compact .ascii document)

def writeUnicode (document : Document) : String :=
  String.ofList (compact .unicode document)

/-- Several lines of printed ASCII with a final line feed, as a file holds them, or as much of them
as can be written. -/
def writeFile (document : Document) : String :=
  String.ofList ((brokenOff? .ascii 0 document).getD (indented .ascii 0 document ++ ['\n']))

example : write (.table [("é", .array [.int 1, .float 1.0])]) =
    "\x7b\"\\u00e9\": [1, 1.0]\x7d" := by decide +kernel

end EngineBridge.Document.Json
