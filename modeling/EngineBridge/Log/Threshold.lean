import EngineBridge.Document.Access
import EngineBridge.Log.Level
import EngineBridge.Number.Reading
import EngineBridge.Text.UpperCase

/-!
Thresholds: the least level of the records that pass.

A setting gives a threshold as a number, as the name of a level in letters of either case, or as
the digits of a number. A truth value counts as one or zero and is kept as it is.
-/

namespace EngineBridge.Log

inductive Threshold where
  | number (level : Int)
  | flag (value : Bool)
deriving DecidableEq, Repr

namespace Threshold

def level : Threshold → Int
  | .number level => level
  | .flag value => if value then 1 else 0

def document : Threshold → Document
  | .number level => .int level
  | .flag value => .bool value

def ofName (name : String) : Except Failure Threshold :=
  let upper := Text.upperCase name.toList
  if Text.isDigitRun upper then
    match Number.readInt? upper with
    | some level => .ok (.number level)
    | none => .error .unreadable
  else match Level.ofName? (String.ofList upper) with
    | some level => .ok (.number level)
    | none => .error (.badValue (.unknownLevel name))

/-- The threshold of a setting, or a default where the setting is null. -/
def read (default : Threshold) : Document → Except Failure Threshold
  | .null => .ok default
  | .bool value => .ok (.flag value)
  | .int level => .ok (.number level)
  | .text name => ofName name
  | _ => .error .noSuchField

/-- The level that a record is to have: a whole number, or a truth value that counts as one. -/
def recordLevel : Document → Except Failure Int
  | .int level => .ok level
  | .bool value => .ok (flag value).level
  | _ => .error .wrongShape

/-- The lower of two thresholds, the first if they are the same. -/
def lower (first second : Threshold) : Threshold :=
  if second.level < first.level then second else first

/-- The higher of two thresholds, the first if they are the same. -/
def higher (first second : Threshold) : Threshold :=
  if first.level < second.level then second else first

end Threshold

end EngineBridge.Log
