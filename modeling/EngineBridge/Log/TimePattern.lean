import EngineBridge.Log.Clock
import EngineBridge.Text.UpperCase

/-!
Moments written by patterns.

In a pattern a percent sign begins a directive: flags, a least width, a modifier, and a letter that
names a part of the moment. The flags say how the part is filled up to its width (with zeros, with
blanks, or not at all) and change its case. A directive that stands for nothing is written as it
is. Some parts are written by patterns of their own, to which no flag applies but that for upper
case.
-/

namespace EngineBridge.Log

/-- A directive of a pattern. -/
structure Directive where
  /-- The last of the flags `_`, `-` and `0`. -/
  filling : Option Char
  isUpper : Bool
  isSwapped : Bool
  width : Nat
  /-- The letter `E` or `O` in front of the letter of the part. -/
  modifier : Option Char
  /-- There is no letter where the pattern ends. -/
  letter : Option Char
  /-- The directive as it stands in the pattern. -/
  written : List Char

/-- The flags at the head of a text: the last one of filling, whether upper case is asked for, and
whether the case is to be swapped. -/
structure Flags where
  filling : Option Char
  isUpper : Bool
  isSwapped : Bool

namespace Flags

def add (flags : Flags) (flag : Char) : Flags :=
  if flag == '^' then { flags with isUpper := true }
  else if flag == '#' then { flags with isSwapped := true }
  else { flags with filling := some flag }

def isFlag (character : Char) : Bool :=
  "_-0^#".toList.contains character

end Flags

namespace Directive

def isModifier (character : Char) : Bool :=
  character == 'E' || character == 'O'

/-- The directive at the head of a text, from behind its percent sign, and what follows it. -/
def split (characters : List Char) : Directive × List Char :=
  let flagRun := characters.takeWhile Flags.isFlag
  let flags := flagRun.foldl Flags.add ⟨none, false, false⟩
  let behindFlags := characters.drop flagRun.length
  let digits := behindFlags.takeWhile Char.isDigit
  let behindWidth := behindFlags.drop digits.length
  let modifier := behindWidth.head?.filter isModifier
  let behindModifier := behindWidth.drop modifier.toList.length
  let rest := behindModifier.drop 1
  ({ filling := flags.filling
     isUpper := flags.isUpper
     isSwapped := flags.isSwapped
     width := digits.foldl (fun width digit => 10 * width + (digit.toNat - 0x30)) 0
     modifier
     letter := behindModifier.head?
     written := '%' :: characters.take (characters.length - rest.length) }, rest)

def plainLetters : List Char := "aADF".toList

/-- Letters that the modifier `E` may not precede. -/
def withoutEra : List Char := "bdeghjklmwBGHIMSUVW".toList

/-- Letters that the modifier `O` may not precede. -/
def withoutForm : List Char := "cxXY".toList

def isModifiable (directive : Directive) (letter : Char) : Bool :=
  match directive.modifier with
  | none => true
  | some modifier => !plainLetters.contains letter &&
      !(if modifier == 'E' then withoutEra else withoutForm).contains letter

/-- A directive as it stands, which is upper case if that is asked for. Where the name of a month
is meant, swapping the case asks for it too. -/
def itself (directive : Directive) : List Char :=
  let namesMonth := directive.letter == some 'b' || directive.letter == some 'h'
  if directive.isUpper || (directive.isSwapped && namesMonth) then Text.upperCase directive.written
  else directive.written

/-- A text filled up to the width of a directive, with zeros only if they are asked for. -/
def fill (directive : Directive) (text : List Char) : List Char :=
  List.replicate (directive.width - text.length)
    (if directive.filling == some '0' then '0' else ' ') ++ text

end Directive

/-- A part of a moment, as a directive names it. -/
inductive TimePart where
  /-- A number with a least number of digits. Where nothing else is asked for, it is filled up with
  blanks or with zeros. -/
  | number (digits : Nat) (value : Int) (blank : Bool)
  /-- A number that has no width of its own. -/
  | count (value : Int)
  /-- A name, which upper case is for when the case is swapped. -/
  | name (text : List Char)
  /-- A mark, which lower case is for when the case is swapped. -/
  | mark (text : List Char) (isLower : Bool)
  /-- The name of the time zone, which is not known. -/
  | zone
  | parts (pattern : String)
  | sign (character : Char)
  | nothing

namespace Moment

def part? (moment : Moment) (letter : Char) : Option TimePart :=
  match letter with
  | 'Y' => some (.number 1 moment.year false)
  | 'C' => some (.number 1 (moment.year / 100) false)
  | 'y' => some (.number 2 (moment.year % 100) false)
  | 'm' => some (.number 2 moment.month false)
  | 'd' => some (.number 2 moment.day false)
  | 'e' => some (.number 2 moment.day true)
  | 'j' => some (.number 3 (moment.dayOfYear + 1) false)
  | 'H' => some (.number 2 moment.hour false)
  | 'k' => some (.number 2 moment.hour true)
  | 'I' => some (.number 2 moment.dialHour false)
  | 'l' => some (.number 2 moment.dialHour true)
  | 'M' => some (.number 2 moment.minute false)
  | 'S' => some (.number 2 moment.second false)
  | 'u' => some (.number 1 (if moment.weekday = 0 then 7 else moment.weekday) false)
  | 'w' => some (.number 1 moment.weekday false)
  | 'U' => some (.number 2 (moment.weekOfYear 0) false)
  | 'W' => some (.number 2 (moment.weekOfYear 1) false)
  | 'G' => some (.number 1 moment.thursdayWeek.1 false)
  | 'g' => some (.number 2 (moment.thursdayWeek.1 % 100) false)
  | 'V' => some (.number 2 moment.thursdayWeek.2 false)
  | 's' => some (.count moment.seconds)
  | 'a' => some (.name (moment.dayName.take 3))
  | 'A' => some (.name moment.dayName)
  | 'b' | 'h' => some (.name (moment.monthName.take 3))
  | 'B' => some (.name moment.monthName)
  | 'p' => some (.mark moment.halfOfDay.toList false)
  | 'P' => some (.mark moment.halfOfDay.toList true)
  | 'Z' => some .zone
  | 'z' => some .nothing
  | 'c' => some (.parts "%a %b %e %H:%M:%S %Y")
  | 'r' => some (.parts "%I:%M:%S %p")
  | 'R' => some (.parts "%H:%M")
  | 'T' | 'X' => some (.parts "%H:%M:%S")
  | 'D' | 'x' => some (.parts "%m/%d/%y")
  | 'F' => some (.parts "%Y-%m-%d")
  | 'n' => some (.sign '\n')
  | 't' => some (.sign '\t')
  | '%' => some (.sign '%')
  | _ => none

end Moment

namespace TimePart

/-- An integer filled up by the flags of a directive to a least number of digits. -/
def writeNumber (directive : Directive) (digits : Nat) (value : Int) (blank : Bool) : List Char :=
  let written := (Number.writeInt value).toList
  match directive.filling, blank with
  | some '-', _ => directive.fill written
  | some '_', _ | none, true => List.replicate (digits - written.length) ' ' ++ written
  | _, _ =>
      if value < 0 then '-' :: Number.padded (digits - 1) value.natAbs
      else Number.padded digits value.natAbs

def inCase (isUpper isLower : Bool) (text : List Char) : List Char :=
  if isLower then text.map Char.toLower
  else if isUpper then Text.upperCase text
  else text

/-- A part as a directive asks for it. Parts that are written together are handed to `write`. -/
def write (write : String → List Char) (directive : Directive) : TimePart → List Char
  | number digits value blank => writeNumber directive (max digits directive.width) value blank
  | count value => directive.fill (writeNumber { directive with width := 0 } 1 value false)
  | name text => directive.fill (inCase (directive.isUpper || directive.isSwapped) false text)
  | mark text isLower =>
      directive.fill (inCase directive.isUpper (isLower || directive.isSwapped) text)
  | zone => if directive.filling == some '-' then [] else directive.fill []
  | parts pattern => directive.fill (inCase directive.isUpper false (write pattern))
  | sign character => directive.fill [character]
  | nothing => []

end TimePart

namespace Moment

def written (moment : Moment) (write : String → List Char) (directive : Directive) : List Char :=
  match directive.letter with
  | none => directive.fill directive.itself
  | some letter =>
      match moment.part? letter, directive.isModifiable letter with
      | some part, true => part.write write directive
      | _, _ => directive.fill directive.itself

/-- A moment written by a pattern, with a bound on the number of directives. -/
def writtenWithin (moment : Moment) (write : String → List Char) : Nat → List Char → List Char
  | 0, _ => []
  | _, [] => []
  | steps + 1, '%' :: rest =>
      let (directive, behind) := Directive.split rest
      moment.written write directive ++ moment.writtenWithin write steps behind
  | steps + 1, character :: rest => character :: moment.writtenWithin write steps rest

def writtenPlainly (moment : Moment) (pattern : String) : List Char :=
  moment.writtenWithin (fun _ => []) pattern.length.succ pattern.toList

/-- The date and the time of a moment, as they stand in a log. -/
def stamp (moment : Moment) : String :=
  String.ofList (moment.writtenPlainly "%Y-%m-%d %H:%M:%S")

/-- A pattern with millionths of a second, which are always zero, and without the time zone, which
has no name. Only the letters right behind the percent sign are looked at. A null character ends
the pattern. -/
def withoutZone : List Char → List Char
  | [] => []
  | '\x00' :: _ => []
  | '%' :: letter :: rest =>
      if letter == '\x00' then ['%']
      else if letter == 'f' then "000000".toList ++ withoutZone rest
      else if letter == 'z' || letter == 'Z' then withoutZone rest
      else '%' :: letter :: withoutZone rest
  | character :: rest => character :: withoutZone rest

/-- The room for the text that a pattern of some length gives: at least 256 times the length, in
steps that double. -/
def writingRoom (length : Nat) : Nat → Nat → Nat
  | 0, room => room
  | steps + 1, room => if 256 * length ≤ room then room else writingRoom length steps (2 * room)

/-- A moment written by a pattern. A text for which there is no room is left out. -/
def writtenBy (moment : Moment) (pattern : List Char) : List Char :=
  let pattern := withoutZone pattern
  let text := moment.writtenWithin moment.writtenPlainly pattern.length.succ pattern
  if text.length < writingRoom pattern.length pattern.length 0x400 then text else []

example : (ofSeconds 86399).stamp = "1970-01-01 23:59:59" ∧
    (ofSeconds 0).writtenBy "%-d%-H%%%q%^a%_3d%9T".toList = "10%%qTHU  1 00:00:00".toList := by
  decide +kernel

end Moment

end EngineBridge.Log
