import EngineBridge.Document.Portable

/-!
Lenient access to documents.

What is missing counts as null, and what is not of the kind that is asked for counts as nothing.
Descriptions that are put together by hand are read like this.
-/

namespace EngineBridge.Document

/-- The value at a key of a table, null if there is none. -/
def valueAt (document : Document) (key : String) : Document :=
  match document with
  | .table entries => (Entries.get? entries key).getD .null
  | _ => .null

/-- The value at a key of a table, or a default if there is none. -/
def valueOr (document : Document) (key : String) (default : Document) : Document :=
  match document with
  | .table entries => (Entries.get? entries key).getD default
  | _ => default

/-- The items of an array; nothing else has items. -/
def itemList : Document → List Document
  | .array items => items
  | _ => []

def textValue? : Document → Option String
  | .text content => some content
  | _ => none

/-- The integer that a document stands for, zero where it stands for none. -/
def integerValue (document : Document) : Int :=
  document.number?.getD 0

/-- The texts of an array, in order. -/
def textItems (document : Document) : List String :=
  document.itemList.map fun item => item.textValue?.getD ""

/-- The entries of a table; nothing else has entries. -/
def entryList : Document → List (String × Document)
  | .table entries => entries
  | _ => []

end EngineBridge.Document
