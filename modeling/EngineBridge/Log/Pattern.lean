import EngineBridge.Failure
import EngineBridge.Text.Digit
import EngineBridge.Text.Quoted
import EngineBridge.Text.Split

/-!
Patterns for the names of log files.

In a pattern, a field in braces stands for the time stamp; braces that stand for themselves are
doubled. A field may take a single character of the stamp or look at its kind, have what it takes
quoted, and give it a width, an alignment and a greatest length. No other field has a value.
-/

namespace EngineBridge.Log.Pattern

def openBrace : Char := '\x7b'

def closeBrace : Char := '\x7d'

def stampName : List Char := "timestamp".toList

/-- A field as it is written between braces. -/
structure Field where
  /-- The name of the value and the ways into it. -/
  name : List Char
  conversion : Option Char
  layout : List Char
deriving DecidableEq, Repr

/-- The name of a field, and what follows it. Inside brackets, everything belongs to the name. -/
def readName (inBrackets : Bool) : List Char → Except Failure (List Char × List Char)
  | [] => .ok ([], [])
  | character :: rest =>
      if character = openBrace && !inBrackets then .error .unreadable
      else if !inBrackets && (character = closeBrace || character = ':' || character = '!') then
        .ok ([], character :: rest)
      else do
        let inside := character = '[' || (inBrackets && character != ']')
        let (name, following) ← readName inside rest
        return (character :: name, following)

/-- The layout of a field up to the brace that closes it, inside a number of inner braces. -/
def readLayout : Nat → List Char → Except Failure (List Char × List Char)
  | _, [] => .error .unreadable
  | depth, character :: rest =>
      if character = closeBrace then
        match depth with
        | 0 => .ok ([], rest)
        | outer + 1 => do
            let (layout, following) ← readLayout outer rest
            return (character :: layout, following)
      else do
        let (layout, following) ←
          readLayout (if character = openBrace then depth + 1 else depth) rest
        return (character :: layout, following)

/-- A field behind its opening brace, and what follows its closing brace. -/
def readField (characters : List Char) : Except Failure (Field × List Char) := do
  let (name, following) ← readName false characters
  match following with
  | '!' :: conversion :: ':' :: rest => do
      let (layout, rest) ← readLayout 0 rest
      return (⟨name, some conversion, layout⟩, rest)
  | '!' :: conversion :: '\x7d' :: rest => return (⟨name, some conversion, []⟩, rest)
  | ':' :: rest => do
      let (layout, rest) ← readLayout 0 rest
      return (⟨name, none, layout⟩, rest)
  | '\x7d' :: rest => return (⟨name, none, []⟩, rest)
  | _ => throw .unreadable

/-- The number that decimal digits stand for, if it can count characters. -/
def countOf (digits : List Char) : Except Failure Nat :=
  let number := digits.foldl (fun value digit => 10 * value + (Text.digitValue? digit).getD 0) 0
  if number < 0x8000000000000000 then .ok number else .error .unreadable

/-- Whether characters are decimal digits, at least one. -/
def isCount (characters : List Char) : Bool :=
  !characters.isEmpty && characters.all Text.isDecimalDigit

/-- What a field can stand for: a text, or the kind of such a value with what belongs to it. -/
inductive Subject where
  | text (characters : List Char)
  | kind (name : String)
  | kinds (names : List String)
  | nothing
deriving DecidableEq, Repr

namespace Subject

def kindOfKinds : String := "type"

def commonKind : String := "object"

def kindName : Subject → String
  | text _ => "str"
  | kind _ => kindOfKinds
  | kinds _ => "tuple"
  | nothing => "NoneType"

/-- The kinds that a kind extends, itself first. -/
def ancestors (name : String) : List String :=
  if name = commonKind then [name] else [name, commonKind]

/-- A named part of a subject. Every subject has a kind, and only kinds have other parts. -/
def part (subject : Subject) (name : String) : Except Failure Subject :=
  match name, subject with
  | "__class__", _ => .ok (kind subject.kindName)
  | "__name__", kind own | "__qualname__", kind own => .ok (text own.toList)
  | "__module__", kind _ => .ok (text "builtins".toList)
  | "__mro__", kind own => .ok (kinds (ancestors own))
  | "__bases__", kind own => .ok (kinds ((ancestors own).drop 1))
  | "__base__", kind own => .ok (((ancestors own)[1]?.map kind).getD nothing)
  | _, _ => .error .noSuchField

def item (subject : Subject) (place : Nat) : Except Failure Subject :=
  let found? := match subject with
    | text characters => some (characters[place]?.map fun character => text [character])
    | kinds names => some (names[place]?.map kind)
    | _ => none
  match found? with
  | some (some found) => .ok found
  | some none => .error .indexOutOfRange
  | none => .error .wrongShape

def shownKind (name : String) : String :=
  "<class '" ++ name ++ "'>"

def shown : Subject → String
  | text characters => Text.quoted (String.ofList characters)
  | kind name => shownKind name
  | kinds [name] => "(" ++ shownKind name ++ ",)"
  | kinds names => "(" ++ String.intercalate ", " (names.map shownKind) ++ ")"
  | nothing => "None"

def plain : Subject → List Char
  | text characters => characters
  | other => other.shown.toList

end Subject

/-- Take ways into a subject: to a named part, or to what stands at a place. -/
def enter : Nat → Subject → List Char → Except Failure Subject
  | 0, _, _ => .error .unreadable
  | _, subject, [] => .ok subject
  | fuel + 1, subject, '.' :: rest =>
      let name := rest.takeWhile fun character => character != '.' && character != '['
      if name.isEmpty then .error .unreadable
      else do enter fuel (← subject.part (String.ofList name)) (rest.drop name.length)
  | fuel + 1, subject, '[' :: rest =>
      match Text.cutAt? ']' rest with
      | none => .error .unreadable
      | some (place, following) =>
          if place.isEmpty then .error .unreadable
          else if !isCount place then .error .wrongShape
          else do enter fuel (← subject.item (← countOf place)) following
  | _, _, _ => .error .unreadable

/-- The value of a field by its name. Numbered fields and fields without a name have none. -/
def valueOf (stamp name : List Char) : Except Failure Subject := do
  let first := name.takeWhile fun character => character != '.' && character != '['
  if first.isEmpty then throw .indexOutOfRange
  if isCount first then
    let _ ← countOf first
    throw .indexOutOfRange
  if first != stampName then throw .noSuchKey
  enter name.length (.text stamp) (name.drop first.length)

def asciiShown (subject : Subject) : List Char :=
  subject.shown.toList.flatMap fun character =>
    if character.toNat < 0x80 then [character] else Text.escapeCode character.toNat

def convert (conversion : Option Char) (subject : Subject) : Except Failure Subject :=
  match conversion with
  | none => .ok subject
  | some 's' => .ok (.text subject.plain)
  | some 'r' => .ok (.text subject.shown.toList)
  | some 'a' => .ok (.text (asciiShown subject))
  | some _ => .error .unreadable

/-- On which side a value stands in its width. -/
inductive Alignment where
  | left
  | right
  | centre
deriving DecidableEq, Repr

def alignment? : Char → Option Alignment
  | '<' => some .left
  | '>' => some .right
  | '^' => some .centre
  | _ => none

/-- How a value is laid out. -/
structure Layout where
  fill : Char
  alignment : Alignment
  width : Nat
  /-- The greatest number of characters that are kept. -/
  limit : Option Nat
deriving DecidableEq, Repr

/-- A character to fill up with and an alignment, where they are given, and what follows. -/
def readAlignment : List Char → Option Char × Option Alignment × List Char
  | first :: second :: rest =>
      match alignment? second, alignment? first with
      | some alignment, _ => (some first, some alignment, rest)
      | none, some alignment => (none, some alignment, second :: rest)
      | none, none => (none, none, first :: second :: rest)
  | [only] => match alignment? only with
      | some alignment => (none, some alignment, [])
      | none => (none, none, [only])
  | [] => (none, none, [])

/-- A layout as it is written: fill and alignment, width, and limit, each where it is given. -/
def readFullLayout (characters : List Char) : Except Failure Layout := do
  let (fill?, alignment?, rest) := readAlignment characters
  let (fill, rest) := match fill?, rest with
    | none, '0' :: following => ('0', following)
    | some fill, rest => (fill, rest)
    | none, rest => (' ', rest)
  let digits := rest.takeWhile Text.isDecimalDigit
  let width ← countOf digits
  let alignment := alignment?.getD .left
  match rest.drop digits.length with
  | [] | ['s'] => return ⟨fill, alignment, width, none⟩
  | '.' :: following => do
      let digits := following.takeWhile Text.isDecimalDigit
      let limit ← countOf digits
      match digits, following.drop digits.length with
      | _ :: _, [] | _ :: _, ['s'] => return ⟨fill, alignment, width, some limit⟩
      | _, _ => throw .unreadable
  | _ => throw .unreadable

/-- A value as it is laid out, where there is memory for so many characters. -/
def laidOut (memory : Nat) (layout : Layout) (value : List Char) : Except Failure (List Char) :=
  let kept := match layout.limit with
    | some limit => value.take limit
    | none => value
  let missing := layout.width - kept.length
  let before := match layout.alignment with
    | .left => 0
    | .right => missing
    | .centre => missing / 2
  if memory < layout.width then .error .outOfMemory
  else .ok (List.replicate before layout.fill ++ kept ++
    List.replicate (missing - before) layout.fill)

/-- A subject in the layout that is written. Only texts have layouts. -/
def writtenIn (memory : Nat) (layout : List Char) : Subject → Except Failure (List Char)
  | .text value => do laidOut memory (← readFullLayout layout) value
  | other => if layout.isEmpty then .ok other.plain else .error .wrongShape

/-- A pattern with its fields filled in. Layouts may hold fields, which may not hold others:
`depth` says how far down fields may go. -/
def fillWithin (memory : Nat) :
    Nat → Nat → List Char → List Char → Except Failure (List Char)
  | 0, _, _, _ => .error .unreadable
  | _, _, _, [] => .ok []
  | fuel + 1, depth, stamp, '\x7b' :: '\x7b' :: rest => do
      return openBrace :: (← fillWithin memory fuel depth stamp rest)
  | fuel + 1, depth, stamp, '\x7d' :: '\x7d' :: rest => do
      return closeBrace :: (← fillWithin memory fuel depth stamp rest)
  | _, _, _, '\x7d' :: _ => .error .unreadable
  | _, 0, _, '\x7b' :: _ => .error .unreadable
  | fuel + 1, depth + 1, stamp, '\x7b' :: rest => do
      if rest.isEmpty then throw .unreadable
      let (field, rest) ← readField rest
      let value ← convert field.conversion (← valueOf stamp field.name)
      let written ← if field.layout.contains openBrace then
          fillWithin memory fuel depth stamp field.layout
        else pure field.layout
      let filled ← writtenIn memory written value
      return filled ++ (← fillWithin memory fuel (depth + 1) stamp rest)
  | fuel + 1, depth, stamp, character :: rest => do
      return character :: (← fillWithin memory fuel depth stamp rest)

/-- A pattern with a time stamp in its fields, where there is memory for so many characters of one. -/
def fill (memory : Nat) (pattern stamp : String) : Except Failure String := do
  let characters := pattern.toList
  return String.ofList (← fillWithin memory (characters.length + 1) 2 stamp.toList characters)

end EngineBridge.Log.Pattern
