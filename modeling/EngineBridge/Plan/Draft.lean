import EngineBridge.Descriptor.Document
import EngineBridge.Document.Lenient

/-!
Methods as they are given to the compiler.

A draft holds the parts of a signature as documents. A descriptor is a draft in which names and
metadata are texts and flags are truth values. A draft that is put together by hand may hold
anything; what is wrong with a part shows where the part is used, and parts that are only passed on
are passed on as they are.
-/

namespace EngineBridge

structure ArgumentDraft where
  name : Document
  typeName : Document
  metadata : Document

structure ReturnDraft where
  typeName : Document
  metadata : Document

structure MethodDraft where
  name : Document
  arguments : List ArgumentDraft
  returnValue : Option ReturnDraft
  isStatic : Document
  isVirtual : Bool
  /-- A method takes extra arguments if this counts as true. -/
  isVararg : Document
  /-- The hash, null where there is none. -/
  abiHash : Document

namespace ArgumentDraft

def ofArgument (argument : Argument) : ArgumentDraft where
  name := .text argument.name
  typeName := .text argument.typeName
  metadata := .ofText? argument.metadata

def ofDocument (document : Document) : ArgumentDraft where
  name := document.valueAt "name"
  typeName := document.valueAt "type"
  metadata := document.valueAt "meta"

end ArgumentDraft

namespace ReturnDraft

def ofReturnValue (result : ReturnValue) : ReturnDraft where
  typeName := .text result.typeName
  metadata := .ofText? result.metadata

def ofDocument (document : Document) : ReturnDraft where
  typeName := document.valueAt "type"
  metadata := document.valueAt "meta"

end ReturnDraft

namespace MethodDraft

def ofDescriptor (descriptor : MethodDescriptor) : MethodDraft where
  name := .text descriptor.name
  arguments := descriptor.arguments.map ArgumentDraft.ofArgument
  returnValue := descriptor.returnValue.map ReturnDraft.ofReturnValue
  isStatic := .bool descriptor.isStatic
  isVirtual := descriptor.isVirtual
  isVararg := .bool descriptor.isVararg
  abiHash := (descriptor.abiHash.map AbiHash.document).getD .null

/-- The draft that a document is, whatever its parts are. A flag that is missing is false. -/
def ofDocument (document : Document) : MethodDraft where
  name := document.valueAt "name"
  arguments := (document.valueAt "arguments").itemList.map ArgumentDraft.ofDocument
  returnValue :=
    let result := document.valueAt "return_value"
    if result.isTable then some (ReturnDraft.ofDocument result) else none
  isStatic := document.valueOr "is_static" (.bool false)
  isVirtual := (document.valueAt "is_virtual").isTruthy
  isVararg := document.valueOr "is_vararg" (.bool false)
  abiHash := document.valueAt "hash"

def takesExtras (draft : MethodDraft) : Bool :=
  draft.isVararg.isTruthy

/-- The draft in a document: a descriptor that has to meet the schema, or parts under `direct`
that are taken as they are. -/
def read (document : Document) : Except Failure MethodDraft :=
  match Entries.get? document.entryList "direct" with
  | some parts => .ok (ofDocument parts)
  | none => return ofDescriptor (← MethodDescriptor.ofDocument (document.valueAt "descriptor"))

end MethodDraft

end EngineBridge
