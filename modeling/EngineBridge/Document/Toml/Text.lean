import EngineBridge.Document.Access
import EngineBridge.Text.Hexadecimal

/-!
Blank space, comments, quoted texts and keys of TOML.

Each reader takes the text that is left and gives back what stands at its head together with the
rest. The number that bounds a recursion is the length of the text at hand.
-/

namespace EngineBridge.Document.Toml

abbrev Rest := List Char

/-- A dotted key: the names from the outside in. -/
abbrev Key := List String

def isSpace (character : Char) : Bool :=
  character == ' ' || character == '\t'

def skipSpace (characters : Rest) : Rest :=
  characters.dropWhile isSpace

/-- Control characters, which may stand nowhere except where a line feed or a tab is allowed. -/
def isControl (character : Char) : Bool :=
  character.toNat < 0x20 || character.toNat == 0x7F

def isBareKeyCharacter (character : Char) : Bool :=
  character.isAlphanum || character == '-' || character == '_'

/-- The characters up to the end of a line hold no control character but tabs. -/
def isCleanLine (line : List Char) : Bool :=
  line.all fun character => character == '\t' || !isControl character

/-- What follows a comment, which ends before its line feed. -/
def skipComment (characters : Rest) : Except Failure Rest :=
  match characters with
  | '#' :: rest =>
      if isCleanLine (rest.takeWhile (· != '\n')) then .ok (rest.dropWhile (· != '\n'))
      else .error .malformedToml
  | _ => .ok characters

/-- Skip space, line feeds and comments, as between the items of an array. -/
def skipLines : Nat → Rest → Except Failure Rest
  | 0, characters => .ok characters
  | steps + 1, characters =>
      match characters.dropWhile fun character => isSpace character || character == '\n' with
      | '#' :: rest => do skipLines steps (← skipComment ('#' :: rest))
      | rest => .ok rest

def scalar? (digits : List Char) : Option Char := do
  let code ← Text.hexValue? digits
  if code.isValidChar then some (Char.ofNat code) else none

def escapedLetter? : Char → Option Char
  | 'b' => some '\x08'
  | 'e' => some '\x1b'
  | 't' => some '\t'
  | 'n' => some '\n'
  | 'f' => some '\x0c'
  | 'r' => some '\r'
  | '\x22' => some '\x22'
  | '\\' => some '\\'
  | _ => none

/-- How many hexadecimal digits follow a letter that announces a code point. -/
def codeLength? : Char → Option Nat
  | 'x' => some 2
  | 'u' => some 4
  | 'U' => some 8
  | _ => none

/-- An escape, from behind its backslash. -/
def readEscape (characters : Rest) : Except Failure (Char × Rest) :=
  let found? := match characters with
    | letter :: rest =>
        match codeLength? letter with
        | some length =>
            if length ≤ rest.length then
              (scalar? (rest.take length)).map fun character => (character, rest.drop length)
            else none
        | none => (escapedLetter? letter).map fun character => (character, rest)
    | [] => none
  match found? with
  | some found => .ok found
  | none => .error .malformedToml

/-- Where a line ends in a backslash, the white space up to the next text is left out. -/
def skipLineEnd (characters : Rest) : Except Failure Rest :=
  match skipSpace characters with
  | '\n' :: rest => .ok (rest.dropWhile fun character => isSpace character || character == '\n')
  | [] => .ok []
  | _ => .error .malformedToml

/-- Up to two further quotes of a kind at the end of a text over several lines belong to it. -/
def closingQuotes (quote : Char) (characters : Rest) : List Char × Rest :=
  let count := min 2 (characters.takeWhile (· == quote)).length
  (List.replicate count quote, characters.drop count)

/-- A text with escapes, from behind its opening quotes. -/
def readBasic (overLines : Bool) : Nat → Rest → Except Failure (List Char × Rest)
  | 0, _ => .error .malformedToml
  | steps + 1, characters =>
      match overLines, characters with
      | false, '\x22' :: rest => .ok ([], rest)
      | true, '\x22' :: '\x22' :: '\x22' :: rest => .ok (closingQuotes '\x22' rest)
      | _, '\\' :: rest =>
          if overLines && (rest.head?.any fun next => isSpace next || next == '\n') then do
            readBasic overLines steps (← skipLineEnd rest)
          else do
            let (character, behind) ← readEscape rest
            let (content, remaining) ← readBasic overLines steps behind
            return (character :: content, remaining)
      | _, character :: rest =>
          if isControl character && character != '\t' && !(overLines && character == '\n') then
            .error .malformedToml
          else do
            let (content, remaining) ← readBasic overLines steps rest
            return (character :: content, remaining)
      | _, [] => .error .malformedToml

/-- A text without escapes, from behind its opening quotes. -/
def readLiteral (overLines : Bool) : Rest → Except Failure (List Char × Rest)
  | '\x27' :: '\x27' :: '\x27' :: rest =>
      if overLines then .ok (closingQuotes '\x27' rest) else .ok ([], '\x27' :: '\x27' :: rest)
  | character :: rest =>
      if character == '\x27' && !overLines then .ok ([], rest)
      else if isControl character && character != '\t' && !(overLines && character == '\n') then
        .error .malformedToml
      else do
        let (content, remaining) ← readLiteral overLines rest
        return (character :: content, remaining)
  | [] => .error .malformedToml

/-- A line feed directly behind the opening quotes is no part of a text over several lines. -/
def skipLineFeed : Rest → Rest
  | '\n' :: rest => rest
  | rest => rest

def readQuoted (characters : Rest) : Except Failure (List Char × Rest) :=
  match characters with
  | '\x22' :: '\x22' :: '\x22' :: rest => readBasic true rest.length.succ (skipLineFeed rest)
  | '\x27' :: '\x27' :: '\x27' :: rest => readLiteral true (skipLineFeed rest)
  | '\x22' :: rest => readBasic false rest.length.succ rest
  | '\x27' :: rest => readLiteral false rest
  | _ => .error .malformedToml

/-- One name of a dotted key, bare or quoted on one line. -/
def readName (characters : Rest) : Except Failure (String × Rest) := do
  let (name, rest) ← match characters with
    | '\x22' :: rest => readBasic false rest.length.succ rest
    | '\x27' :: rest => readLiteral false rest
    | _ =>
        let name := characters.takeWhile isBareKeyCharacter
        if name.isEmpty then .error .malformedToml
        else .ok (name, characters.dropWhile isBareKeyCharacter)
  return (String.ofList name, rest)

/-- A key has no more parts than this. -/
def maximalParts : Nat := 1000

/-- A dotted key and the space behind it. The number says how many more parts it may have. -/
def readParts : Nat → Rest → Except Failure (Key × Rest)
  | 0, characters => do
      let _ ← readName characters
      throw .tooDeep
  | parts + 1, characters => do
      let (name, behind) ← readName characters
      match skipSpace behind with
      | '.' :: rest => do
          let (names, remaining) ← readParts parts (skipSpace rest)
          return (name :: names, remaining)
      | rest => return ([name], rest)

def readKey (characters : Rest) : Except Failure (Key × Rest) :=
  readParts maximalParts characters

end EngineBridge.Document.Toml
