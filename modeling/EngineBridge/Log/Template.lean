import EngineBridge.Document.Access
import EngineBridge.Document.Shown
import EngineBridge.Number.Rounded
import EngineBridge.Text.Digit
import EngineBridge.Text.Hexadecimal

/-!
Message templates.

In a template, a percent sign begins a conversion: flags, a width, a precision, and a letter that
says how the next argument is written. Each argument has to be used. If the only argument is a
table with entries, conversions can also name its keys, and nothing has to be used.
-/

namespace EngineBridge.Log.Template

/-- A number in a conversion: written in it, or taken from the arguments. -/
inductive Amount where
  | given (number : Nat)
  | argument
deriving DecidableEq, Repr

structure Flags where
  left : Bool
  plus : Bool
  blank : Bool
  zero : Bool
  alternate : Bool
deriving DecidableEq, Repr

/-- The name of a key in a conversion. -/
inductive KeyName where
  | closed (name : List Char)
  /-- The template ends inside the name. -/
  | broken
deriving DecidableEq, Repr

/-- A conversion, as far as it goes: the template may end inside it. -/
structure Conversion where
  key : Option KeyName
  flags : Flags
  width : Option Amount
  precision : Option Amount
  letter : Option Char
deriving DecidableEq, Repr

/-- A piece of a template. -/
inductive Piece where
  | literal (character : Char)
  | conversion (conversion : Conversion)
deriving DecidableEq, Repr

def addFlag (flags : Flags) : Char → Option Flags
  | '-' => some { flags with left := true }
  | '+' => some { flags with plus := true }
  | ' ' => some { flags with blank := true }
  | '0' => some { flags with zero := true }
  | '#' => some { flags with alternate := true }
  | _ => none

/-- Flags, and what follows them. -/
def readFlags (flags : Flags) : List Char → Flags × List Char
  | [] => (flags, [])
  | character :: rest =>
      match addFlag flags character with
      | some more => readFlags more rest
      | none => (flags, character :: rest)

/-- The name of a key up to the parenthesis that closes it, inside a number of inner ones. -/
def readKey : Nat → List Char → Option (List Char × List Char)
  | _, [] => none
  | depth, ')' :: rest =>
      match depth with
      | 0 => some ([], rest)
      | outer + 1 => (readKey outer rest).map fun (key, following) => (')' :: key, following)
  | depth, character :: rest =>
      (readKey (if character = '(' then depth + 1 else depth) rest).map fun (key, following) =>
        (character :: key, following)

/-- A number or a star, where there is one, and what follows. -/
def readAmount : List Char → Option Amount × List Char
  | '*' :: rest => (some .argument, rest)
  | characters =>
      let digits := characters.takeWhile Char.isDigit
      if digits.isEmpty then (none, characters)
      else
        let number := digits.foldl (fun value digit => 10 * value + (digit.toNat - 48)) 0
        (some (.given number), characters.drop digits.length)

/-- A precision, where there is one, and what follows. A point alone asks for none. -/
def readPrecision : List Char → Option Amount × List Char
  | '.' :: rest =>
      let (amount, following) := readAmount rest
      (some (amount.getD (.given 0)), following)
  | characters => (none, characters)

/-- A key between parentheses, where there is one, and what follows. -/
def readKeyName (characters : List Char) : Option KeyName × List Char :=
  match characters with
  | '(' :: following =>
      match readKey 0 following with
      | some (name, rest) => (some (.closed name), rest)
      | none => (some .broken, [])
  | _ => (none, characters)

/-- What follows the letter for the size of a number, which changes nothing. -/
def skipSize : List Char → List Char
  | 'h' :: following | 'l' :: following | 'L' :: following => following
  | characters => characters

/-- A conversion behind its percent sign, and what follows it. -/
def readConversion (characters : List Char) : Conversion × List Char :=
  let (key, rest) := readKeyName characters
  let (flags, rest) := readFlags ⟨false, false, false, false, false⟩ rest
  let (width, rest) := readAmount rest
  let (precision, rest) := readPrecision rest
  let rest := skipSize rest
  (⟨key, flags, width, precision, rest.head?⟩, rest.drop 1)

/-- The pieces of a template, of which there are not more than `fuel`. A percent sign directly
behind another one stands for itself. -/
def piecesWithin : Nat → List Char → List Piece
  | 0, _ => []
  | _, [] => []
  | fuel + 1, '%' :: '%' :: rest => .literal '%' :: piecesWithin fuel rest
  | fuel + 1, '%' :: rest =>
      let (conversion, following) := readConversion rest
      .conversion conversion :: piecesWithin fuel following
  | fuel + 1, character :: rest => .literal character :: piecesWithin fuel rest

def pieces (template : List Char) : List Piece :=
  piecesWithin template.length template

/-- The arguments that are left. -/
inductive Arguments where
  | listed (rest : List Document)
  /-- A table, and the argument that it may stand for as a whole. -/
  | keyed (table : Document) (next : Option Document)

namespace Arguments

/-- Arguments as a message has them: a table with entries that stands alone is looked into. -/
def ofList (arguments : List Document) : Arguments :=
  match arguments with
  | [.table (entry :: entries)] =>
      .keyed (.table (entry :: entries)) (some (.table (entry :: entries)))
  | _ => .listed arguments

def next : Arguments → Except Failure (Document × Arguments)
  | .listed (argument :: rest) => .ok (argument, .listed rest)
  | .keyed table (some argument) => .ok (argument, .keyed table none)
  | _ => .error .wrongShape

def turnTo (key : Option KeyName) (arguments : Arguments) : Except Failure Arguments :=
  match key, arguments with
  | none, _ => .ok arguments
  | some _, .listed _ => .error .wrongShape
  | some .broken, .keyed .. => .error .unreadable
  | some (.closed name), .keyed table _ =>
      return .keyed table (some (← table.fieldAt (String.ofList name)))

def isKeyed : Arguments → Bool
  | .listed _ => false
  | .keyed .. => true

def isUsedUp : Arguments → Bool
  | .listed rest => rest.isEmpty
  | .keyed .. => true

/-- The number that an amount is. One that is written too large cannot be read, and an argument
may be too large as well. -/
def amount (limit : Nat) (arguments : Arguments) :
    Option Amount → Except Failure (Option Int × Arguments)
  | none => .ok (none, arguments)
  | some (.given number) =>
      if number < limit then .ok (some number, arguments) else .error .unreadable
  | some .argument => do
      let (argument, rest) ← arguments.next
      match argument.number? with
      | some number =>
          if number < -limit || (limit : Int) ≤ number then throw .tooLarge
          else return (some number, rest)
      | none => throw .wrongShape

end Arguments

/-- A written argument: its sign, what stands before its digits, and the rest. -/
structure Written where
  sign : List Char
  lead : List Char
  body : List Char
  /-- Whether zeros can stand between the lead and the body. -/
  isNumber : Bool

namespace Written

def ofText (body : List Char) : Written := ⟨[], [], body, false⟩

def padded (written : Written) (flags : Flags) (width : Nat) : List Char :=
  let front := written.sign ++ written.lead
  let missing := width - (front.length + written.body.length)
  if flags.left then front ++ written.body ++ List.replicate missing ' '
  else if flags.zero && written.isNumber then front ++ List.replicate missing '0' ++ written.body
  else List.replicate missing ' ' ++ front ++ written.body

end Written

def signOf (flags : Flags) (isNegative : Bool) : List Char :=
  if isNegative then ['-'] else if flags.plus then ['+'] else if flags.blank then [' '] else []

/-- The integer of an argument for a decimal conversion, which has to be one that can be written:
floats are cut toward zero. -/
def decimalInteger : Document → Except Failure Int
  | .float value =>
      match Number.truncate? value with
      | some number => .ok number
      | none => .error (if Number.isNotANumber value then .unreadable else .tooLarge)
  | other => match other.number? with
      | some number => if Number.isWritable number then .ok number else .error .unreadable
      | none => .error .wrongShape

def wholeInteger (argument : Document) : Except Failure Int :=
  match argument.number? with
  | some number => .ok number
  | none => .error .wrongShape

def realNumber : Document → Except Failure Float
  | .float value => .ok value
  | other => match other.number? with
      | some number =>
          let magnitude := Float.ofScientific number.natAbs false 0
          if Number.isFinite magnitude then .ok (if number < 0 then -magnitude else magnitude)
          else .error .tooLarge
      | none => .error .wrongShape

/-- An integer in a base, with at least as many digits as the precision says. -/
def writtenInteger (flags : Flags) (precision : Option Nat) (base : Nat) (lead : String)
    (number : Int) : Written :=
  let digits := Nat.toDigits base number.natAbs
  let zeros := precision.getD 0 - digits.length
  ⟨signOf flags (number < 0), if flags.alternate then lead.toList else [],
    List.replicate zeros '0' ++ digits, true⟩

def upper (characters : List Char) : List Char :=
  characters.map Char.toUpper

def writtenReal (flags : Flags) (precision : Nat) (letter : Char) (value : Float) : Written :=
  let body :=
    if Number.isNotANumber value then "nan".toList
    else if !Number.isFinite value then "inf".toList
    else
      let exact := Number.Binary.ofFloat value
      match letter.toLower with
      | 'f' => Number.writeFixed precision flags.alternate exact
      | 'e' => Number.writeExponential precision flags.alternate exact
      | _ => Number.writeGeneral precision flags.alternate exact
  let isBelowZero := Number.isNegative value && !Number.isNotANumber value
  ⟨signOf flags isBelowZero, [], if letter.isUpper then upper body else body, true⟩

/-- Characters in ASCII, with all others escaped. -/
def inAscii (characters : List Char) : List Char :=
  characters.flatMap fun character =>
    if character.toNat < 0x80 then [character] else Text.escapeCode character.toNat

/-- The character that an argument is, or the code of which it is. -/
def characterOf : Document → Except Failure (List Char)
  | .text value => match value.toList with
      | [character] => .ok [character]
      | _ => .error .wrongShape
  | other => match other.number? with
      | some code =>
          if 0 ≤ code && code < 0x110000 then .ok [Char.ofNat code.toNat] else .error .tooLarge
      | none => .error .wrongShape

/-- Whether a letter stands for a text, which a precision cuts off. -/
def isCut (letter : Char) : Bool :=
  letter == 's' || letter == 'r' || letter == 'a'

def write (flags : Flags) (precision : Option Nat) (letter : Char) (argument : Document) :
    Except Failure Written :=
  let cut := fun characters : List Char =>
    Written.ofText (match precision with
      | some limit => characters.take limit
      | none => characters)
  match letter with
  | 's' => return cut (← argument.plainText).toList
  | 'r' => return cut (← argument.shown).toList
  | 'a' => return cut (inAscii (← argument.shown).toList)
  | 'c' => return .ofText (← characterOf argument)
  | 'd' | 'i' | 'u' => return writtenInteger flags precision 10 "" (← decimalInteger argument)
  | 'o' => return writtenInteger flags precision 8 "0o" (← wholeInteger argument)
  | 'x' => return writtenInteger flags precision 16 "0x" (← wholeInteger argument)
  | 'X' => do
      let written := writtenInteger flags precision 16 "0X" (← wholeInteger argument)
      return { written with body := upper written.body }
  | 'e' | 'E' | 'f' | 'F' | 'g' | 'G' =>
      return writtenReal flags (precision.getD 6) letter (← realNumber argument)
  | _ => .error .unreadable

/-- Widths are below this. -/
def widthLimit : Nat := 0x8000000000000000

/-- Precisions are below this. -/
def precisionLimit : Nat := 0x80000000

/-- The text of one conversion, and the arguments behind those that it uses. There is memory for so
many characters. -/
def convert (memory : Nat) (conversion : Conversion) (arguments : Arguments) :
    Except Failure (List Char × Arguments) := do
  let arguments ← arguments.turnTo conversion.key
  let (width?, arguments) ← arguments.amount widthLimit conversion.width
  let (precision?, arguments) ← arguments.amount precisionLimit conversion.precision
  match conversion.letter with
  | none => throw .unreadable
  | some letter => do
      let (argument, rest) ← arguments.next
      let width := width?.getD 0
      let precision? := precision?.map Int.toNat
      let flags := { conversion.flags with left := conversion.flags.left || width < 0 }
      if !isCut letter && memory < precision?.getD 0 then throw .outOfMemory
      let written ← write flags precision? letter argument
      if memory < width.natAbs then throw .outOfMemory
      return (written.padded flags width.natAbs, rest)

/-- The text of pieces, and the arguments that are left. -/
def fillPieces (memory : Nat) :
    List Piece → Arguments → Except Failure (List Char × Arguments)
  | [], arguments => .ok ([], arguments)
  | .literal character :: rest, arguments => do
      let (filled, left) ← fillPieces memory rest arguments
      return (character :: filled, left)
  | .conversion conversion :: rest, arguments => do
      let (written, arguments) ← convert memory conversion arguments
      let (filled, left) ← fillPieces memory rest arguments
      return (written ++ filled, left)

/-- A template with its arguments filled in, where there is memory for so many characters of one.
Without arguments, a template stands for itself. -/
def fill (memory : Nat) (template : String) (arguments : Arguments) : Except Failure String := do
  if arguments.isUsedUp && !arguments.isKeyed then return template
  let (filled, left) ← fillPieces memory (pieces template.toList) arguments
  if left.isUsedUp then return String.ofList filled else throw .wrongShape

end EngineBridge.Log.Template
