import EngineBridge.Number.Shortest

/-!
The written form of numbers.

An integer is written in decimal. A float is written with the fewest digits that identify it:
positionally if the exponent of its leading digit is from -4 to 15, and otherwise with a signed
exponent of at least two digits. A float that happens to be whole keeps its `.0`.
-/

namespace EngineBridge.Number

/-- Decimal digits, most significant first. -/
def decimalDigits (number : Nat) : List Char :=
  Nat.toDigits 10 number

def writeInt : Int → String
  | .ofNat number => String.ofList (decimalDigits number)
  | .negSucc number => String.ofList ('-' :: decimalDigits (number + 1))

example : writeInt (-120) = "-120" := by decide +kernel

/-- The most digits that an integer may have where it is read or written in decimal. -/
def digitLimit : Nat := 4300

/-- Whether an integer can be written: it has no more digits than can be read. -/
def isWritable (value : Int) : Bool :=
  (decimalDigits value.natAbs).length ≤ digitLimit

def padded (width number : Nat) : List Char :=
  let digits := decimalDigits number
  List.replicate (width - digits.length) '0' ++ digits

/-- Digits with the point placed inside, before or after them; `leading` is the exponent of the
first digit. -/
def writePositional (digits : List Char) (leading : Int) : List Char :=
  if leading < 0 then
    '0' :: '.' :: List.replicate (-leading - 1).toNat '0' ++ digits
  else
    let whole := leading.toNat + 1
    if digits.length ≤ whole then
      digits ++ List.replicate (whole - digits.length) '0' ++ ['.', '0']
    else digits.take whole ++ '.' :: digits.drop whole

def writeScientific (digits : List Char) (leading : Int) : List Char :=
  let fraction := match digits.drop 1 with
    | [] => []
    | rest => '.' :: rest
  let sign := if leading < 0 then '-' else '+'
  digits.take 1 ++ fraction ++ 'e' :: sign :: padded 2 leading.natAbs

def writeDecimal (decimal : Decimal) : List Char :=
  let digits := decimalDigits decimal.digits
  let leading := decimal.exponent + digits.length - 1
  if -4 ≤ leading && leading < 16 then writePositional digits leading
  else writeScientific digits leading

/-- The text of a float: `nan`, `inf`, or the fewest digits that identify it. -/
def writeFloat (value : Float) : String :=
  let sign := if isNegative value then ['-'] else []
  if isNotANumber value then "nan"
  else if !isFinite value then String.ofList (sign ++ "inf".toList)
  else if (Binary.ofFloat value).mantissa == 0 then String.ofList (sign ++ "0.0".toList)
  else String.ofList (sign ++ writeDecimal (shortest (Binary.ofFloat value)))

example : writeFloat 100.0 = "100.0" ∧ writeFloat 1e16 = "1e+16" ∧ writeFloat 1.5e-7 = "1.5e-07" ∧
    writeFloat (-0.0) = "-0.0" ∧ writeFloat 0.0001 = "0.0001" := by decide +kernel

end EngineBridge.Number
