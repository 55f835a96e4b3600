import EngineBridge.Document.Toml.Text
import EngineBridge.Number.Reading

/-!
The values of TOML that have no parts: numbers, dates, times and the two truth values.
-/

namespace EngineBridge.Document.Toml

/-- Digits of a kind with single underscores between them, without the underscores. The first
character of the text has been seen to be a digit. -/
def splitGrouped (isDigit : Char → Bool) : Rest → List Char × Rest
  | [] => ([], [])
  | '_' :: digit :: rest =>
      if isDigit digit then
        let (digits, remaining) := splitGrouped isDigit rest
        (digit :: digits, remaining)
      else ([], '_' :: digit :: rest)
  | digit :: rest =>
      if isDigit digit then
        let (digits, remaining) := splitGrouped isDigit rest
        (digit :: digits, remaining)
      else ([], digit :: rest)

/-- Grouped digits, if the text begins with one. -/
def grouped? (isDigit : Char → Bool) (characters : Rest) : Option (List Char × Rest) :=
  if characters.head?.any isDigit then some (splitGrouped isDigit characters) else none

/-- The letters that announce a base, with the base. -/
def baseOfLetter? : Char → Option Nat
  | 'x' => some 16
  | 'o' => some 8
  | 'b' => some 2
  | _ => none

def isDigitOfBase (base : Nat) (character : Char) : Bool :=
  (Text.hexDigitValue? character).any fun value => value < base

/-- An integer in base sixteen, eight or two. -/
def readBased? (characters : Rest) : Option (Document × Rest) :=
  match characters with
  | '0' :: letter :: rest => do
      let base ← baseOfLetter? letter
      let (digits, remaining) ← grouped? (isDigitOfBase base) rest
      let values := digits.filterMap Text.hexDigitValue?
      return (.int (Number.valueInBase base values), remaining)
  | _ => none

/-- The digits before the point: a zero alone, or digits that begin with another. -/
def splitWhole? (characters : Rest) : Option (List Char × Rest) :=
  match characters with
  | '0' :: rest => some (['0'], rest)
  | _ => grouped? Char.isDigit characters

/-- A point with digits, if both are there. -/
def splitFraction (characters : Rest) : List Char × Rest :=
  match characters with
  | '.' :: rest =>
      match grouped? Char.isDigit rest with
      | some (digits, remaining) => ('.' :: digits, remaining)
      | none => ([], characters)
  | _ => ([], characters)

/-- An exponent with its letter, if a digit is in it. -/
def splitExponent (characters : Rest) : List Char × Rest :=
  match characters with
  | mark :: rest =>
      if mark == 'e' || mark == 'E' then
        let (sign, behind) := match rest with
          | '+' :: behind => (['+'], behind)
          | '-' :: behind => (['-'], behind)
          | _ => ([], rest)
        match grouped? Char.isDigit behind with
        | some (digits, remaining) => (mark :: sign ++ digits, remaining)
        | none => ([], characters)
      else ([], characters)
  | [] => ([], [])

/-- A decimal number: an integer unless it has a fraction or an exponent. -/
def readDecimal? (characters : Rest) : Option (Except Failure (Document × Rest)) := do
  let (sign, unsigned) := match characters with
    | '-' :: rest => (['-'], rest)
    | '+' :: rest => (['+'], rest)
    | _ => ([], characters)
  let (whole, behind) ← splitWhole? unsigned
  let (fraction, behindFraction) := splitFraction behind
  let (exponent, remaining) := splitExponent behindFraction
  if fraction.isEmpty && exponent.isEmpty then
    match Number.readInt? (sign ++ whole) with
    | some number => return .ok (.int number, remaining)
    | none => return .error .unreadable
  else
    match Number.readFloat? (sign ++ whole ++ fraction ++ exponent) with
    | some number => return .ok (.float number, remaining)
    | none => return .error .malformedToml

/-- Decimal digits in a number, of exactly the given count, that stand for a value in a span. -/
def field? (count low high : Nat) (characters : Rest) : Option (Nat × Rest) :=
  let digits := characters.take count
  let value := Number.valueInBase 10 (digits.map fun digit => digit.toNat - 0x30)
  if digits.length == count && digits.all Char.isDigit && low ≤ value && value ≤ high then
    some (value, characters.drop count)
  else none

def after? (character : Char) : Rest → Option Rest
  | first :: rest => if first == character then some rest else none
  | [] => none

/-- What follows the seconds of a time of day and their fraction, each of which may be missing. -/
def afterSeconds (characters : Rest) : Rest :=
  let found? := do
    let (_, behind) ← field? 2 0 59 (← after? ':' characters)
    match behind with
    | '.' :: rest =>
        if rest.head?.any Char.isDigit then return rest.dropWhile Char.isDigit
        else return behind
    | _ => return behind
  found?.getD characters

def afterTime? (characters : Rest) : Option Rest := do
  let (_, behindHour) ← field? 2 0 23 characters
  let (_, behindMinute) ← field? 2 0 59 (← after? ':' behindHour)
  return afterSeconds behindMinute

/-- What follows an offset from universal time, which may be missing. -/
def afterOffset (characters : Rest) : Rest :=
  let found? := match characters with
    | 'Z' :: rest => some rest
    | 'z' :: rest => some rest
    | sign :: rest =>
        if sign == '+' || sign == '-' then do
          let (_, behindHour) ← field? 2 0 23 rest
          let (_, remaining) ← field? 2 0 59 (← after? ':' behindHour)
          return remaining
        else none
    | [] => none
  found?.getD characters

def isLeapYear (year : Nat) : Bool :=
  year % 4 == 0 && (year % 100 != 0 || year % 400 == 0)

def daysInMonth (year month : Nat) : Nat :=
  if month == 2 then (if isLeapYear year then 29 else 28)
  else if month == 4 || month == 6 || month == 9 || month == 11 then 30
  else 31

/-- A date, alone or with a time of day and an offset. A day that its month does not have is an
error, and so is the year zero. -/
def readDate? (characters : Rest) : Option (Except Failure (Document × Rest)) := do
  let (year, behindYear) ← field? 4 0 9999 characters
  let (month, behindMonth) ← field? 2 1 12 (← after? '-' behindYear)
  let (day, behindDay) ← field? 2 1 31 (← after? '-' behindMonth)
  let behindTime? := match behindDay with
    | mark :: rest =>
        if mark == 'T' || mark == 't' || mark == ' ' then (afterTime? rest).map afterOffset
        else none
    | [] => none
  let remaining := behindTime?.getD behindDay
  let kind : MomentKind := if behindTime?.isSome then .dateTime else .date
  let written := String.ofList (characters.take (characters.length - remaining.length))
  if year == 0 || daysInMonth year month < day then return .error .malformedToml
  else return .ok (.moment kind written, remaining)

def readTime? (characters : Rest) : Option (Except Failure (Document × Rest)) := do
  let remaining ← afterTime? characters
  let written := String.ofList (characters.take (characters.length - remaining.length))
  return .ok (.moment .time written, remaining)

/-- What follows a word at the head of a text, if the word is there. -/
def afterWord? (word : String) (characters : Rest) : Option Rest :=
  let length := word.toList.length
  if characters.take length = word.toList then some (characters.drop length) else none

def truthWords : List (String × Document) :=
  [("true", .bool true), ("false", .bool false)]

def numberWords : List (String × Document) :=
  [("inf", .float (1.0 / 0.0)), ("nan", .float (0.0 / 0.0)), ("-inf", .float (-1.0 / 0.0)),
    ("+inf", .float (1.0 / 0.0)), ("-nan", .float (0.0 / 0.0)), ("+nan", .float (0.0 / 0.0))]

def readWord? (words : List (String × Document)) (characters : Rest) :
    Option (Except Failure (Document × Rest)) :=
  words.findSome? fun entry => (afterWord? entry.1 characters).map fun rest => .ok (entry.2, rest)

/-- A value that is no text, array or table. -/
def readScalar (characters : Rest) : Except Failure (Document × Rest) :=
  let found? := readWord? truthWords characters
    <|> readDate? characters
    <|> readTime? characters
    <|> (readBased? characters).map Except.ok
    <|> readDecimal? characters
    <|> readWord? numberWords characters
  found?.getD (.error .malformedToml)

end EngineBridge.Document.Toml
