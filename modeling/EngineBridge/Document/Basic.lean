import EngineBridge.Entries
import EngineBridge.Number.Binary

/-!
Documents: the values that configuration files and API descriptions are made of.

Integers and floats are apart, and a table keeps the order of its keys. Dates and times occur in
configuration files only; their text is kept as written.
-/

namespace EngineBridge

/-- The kinds of dates and times. -/
inductive MomentKind where
  | dateTime
  | date
  | time
deriving DecidableEq, Repr

inductive Document where
  | null
  | bool (value : Bool)
  | int (value : Int)
  | float (value : Float)
  | text (value : String)
  | moment (kind : MomentKind) (written : String)
  | array (items : List Document)
  | table (entries : List (String × Document))
deriving Inhabited

namespace Document

def isTable : Document → Bool
  | .table _ => true
  | _ => false

/-- Whether a document counts as present where a setting asks for a truth value: null, false,
zero, and the empty text, array and table do not. -/
def isTruthy : Document → Bool
  | .null => false
  | .bool value => value
  | .int value => value != 0
  | .float value => !(value == 0.0)
  | .text value => value != ""
  | .moment .. => true
  | .array items => !items.isEmpty
  | .table entries => !entries.isEmpty

/-- The number that a document stands for where numbers are compared: a truth value counts as one
or zero. -/
def number? : Document → Option Int
  | .bool value => some (if value then 1 else 0)
  | .int value => some value
  | _ => none

mutual

/-- Equality of documents, where numbers of different kinds are equal if their values are, and the
order of keys does not matter. -/
def same : Document → Document → Bool
  | .null, .null => true
  | .text left, .text right => left == right
  | .moment kind left, .moment otherKind right => kind == otherKind && left == right
  | .float left, .float right => left == right
  | .float left, right => match right.number? with
      | some number => Number.equalsInt left number
      | none => false
  | .array left, .array right => sameItems left right
  | .table left, .table right => left.length == right.length && sameEntries left right
  | .bool left, right => sameNumber (if left then 1 else 0) right
  | .int left, right => sameNumber left right
  | _, _ => false

def sameNumber (number : Int) : Document → Bool
  | .float value => Number.equalsInt value number
  | other => other.number? == some number

def sameItems : List Document → List Document → Bool
  | [], [] => true
  | left :: lefts, right :: rights => same left right && sameItems lefts rights
  | _, _ => false

def sameEntries : List (String × Document) → List (String × Document) → Bool
  | [], _ => true
  | (key, value) :: rest, others =>
      (match Entries.get? others key with
        | some other => same value other
        | none => false) && sameEntries rest others

end

example : same (.int 1) (.bool true) = true ∧ same (.array [.null]) (.array []) = false := by
  decide +kernel

end Document

end EngineBridge
