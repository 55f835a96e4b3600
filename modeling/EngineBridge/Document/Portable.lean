import EngineBridge.Document.Access
import EngineBridge.Number.Conversion

/-!
Floats as texts.

A document that is to be read elsewhere cannot carry infinities, nor floats that must not be
rounded. In the portable form of a document each float is a table with its text.
-/

namespace EngineBridge.Document

def floatKey : String := "float"

mutual

def portable : Document → Document
  | .float value => .table [(floatKey, .text (Number.writeFloat value))]
  | .array items => .array (portableItems items)
  | .table entries => .table (portableEntries entries)
  | other => other

def portableItems : List Document → List Document
  | [] => []
  | item :: rest => item.portable :: portableItems rest

def portableEntries : List (String × Document) → List (String × Document)
  | [] => []
  | (key, value) :: rest => (key, value.portable) :: portableEntries rest

end

/-- The float that a document stands for: that of a number, or that of a text, which may name an
infinity. -/
def floatOf (document : Document) : Except Failure Float :=
  match document with
  | .text written =>
      match Number.readFloat? written.toList with
      | some value => .ok value
      | none => .error .unreadable
  | .float value => .ok value
  | other =>
      match other.number? with
      | some number => Number.floatOfInt number
      | none => .error .wrongShape

end EngineBridge.Document
