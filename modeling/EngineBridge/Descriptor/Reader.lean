import EngineBridge.Descriptor.Basic
import EngineBridge.Descriptor.Schema
import EngineBridge.Document.Access

/-!
Method descriptors read from documents.

An entry that meets the schema is read field by field, a missing flag being false. Class methods
give their result as a table, utility functions as a bare type name. Any other document is refused
with the violation that the schema reports.
-/

namespace EngineBridge

/-- What is wrong with a document as a method entry, if anything is. -/
def MethodDescriptor.complaint? (document : Document) : Except Failure (Option String) := do
  return (← Document.Schema.method.report? document).map fun violation =>
    "schema:" ++ violation.complaint

namespace Document

/-- The text under a key, if there is one. -/
def textField? (document : Document) (key : String) : Option String :=
  match document with
  | .table entries =>
      match Entries.get? entries key with
      | some (.text value) => some value
      | _ => none
  | _ => none

def textField (document : Document) (key : String) : String :=
  (document.textField? key).getD ""

/-- A flag, false if it is missing. -/
def flag (document : Document) (key : String) : Bool :=
  match document with
  | .table entries =>
      match Entries.get? entries key with
      | some (.bool value) => value
      | _ => false
  | _ => false

end Document

namespace Argument

def ofDocument (document : Document) : Argument where
  name := document.textField "name"
  typeName := document.textField "type"
  metadata := document.textField? "meta"
  defaultValue := document.textField? "default_value"

end Argument

namespace ReturnValue

def ofDocument (document : Document) : ReturnValue where
  typeName := document.textField "type"
  metadata := document.textField? "meta"

end ReturnValue

namespace AbiHash

def ofDocument? : Document → Option AbiHash
  | .int number => some (.int number)
  | .float number => some (.float number)
  | _ => none

end AbiHash

namespace MethodDescriptor

def argumentsOf (entries : List (String × Document)) : List Argument :=
  match Entries.get? entries "arguments" with
  | some (.array items) => items.map Argument.ofDocument
  | _ => []

/-- The result of an entry that meets the schema, from whichever form is there. -/
def returnValueOf? (entries : List (String × Document)) : Option ReturnValue :=
  match Entries.get? entries "return_value" with
  | some value => some (ReturnValue.ofDocument value)
  | none =>
      match Entries.get? entries "return_type" with
      | some (.text typeName) => some ⟨typeName, none⟩
      | _ => none

def ofEntries (entries : List (String × Document)) : MethodDescriptor where
  name := Document.textField (.table entries) "name"
  arguments := argumentsOf entries
  returnValue := returnValueOf? entries
  isStatic := Document.flag (.table entries) "is_static"
  isVirtual := Document.flag (.table entries) "is_virtual"
  isVararg := Document.flag (.table entries) "is_vararg"
  isConst := Document.flag (.table entries) "is_const"
  abiHash := (Entries.get? entries "hash").bind AbiHash.ofDocument?

/-- What a message names a document by that is no method entry. -/
def nameOf : Document → Document
  | .table entries => (Entries.get? entries "name").getD .null
  | _ => .null

def ofDocument (document : Document) : Except Failure MethodDescriptor := do
  match ← complaint? document, document with
  | some complaint, _ => throw (.invalidDescriptor (← (nameOf document).shown) complaint)
  | none, .table entries => return ofEntries entries
  | none, _ => throw .noSuchField

end MethodDescriptor

end EngineBridge
