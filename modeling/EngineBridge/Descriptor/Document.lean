import EngineBridge.Descriptor.Api

/-!
Descriptors and classes written as documents.
-/

namespace EngineBridge

namespace Document

/-- A text, or null where there is none. -/
def ofText? : Option String → Document
  | some content => .text content
  | none => .null

end Document

namespace MethodDescriptor

/-- An argument in short form: its name, its type, its metadata and its default value. -/
def argumentDocument (argument : Argument) : Document :=
  .array [.text argument.name, .text argument.typeName, .ofText? argument.metadata,
    .ofText? argument.defaultValue]

/-- A result in short form: its type and its metadata. -/
def returnDocument (result : ReturnValue) : Document :=
  .array [.text result.typeName, .ofText? result.metadata]

def document (descriptor : MethodDescriptor) : Document :=
  .table [
    ("name", .text descriptor.name),
    ("is_static", .bool descriptor.isStatic),
    ("is_virtual", .bool descriptor.isVirtual),
    ("is_vararg", .bool descriptor.isVararg),
    ("is_const", .bool descriptor.isConst),
    ("abi_hash", (descriptor.abiHash.map AbiHash.document).getD .null),
    ("type_names", .array (descriptor.typeNames.map .text)),
    ("arguments", .array (descriptor.arguments.map argumentDocument)),
    ("return_value", (descriptor.returnValue.map returnDocument).getD .null)]

end MethodDescriptor

namespace ClassDescription

def document (description : ClassDescription) : Document :=
  .table [
    ("name", description.name),
    ("methods", .array (description.methods.map MethodDescriptor.document))]

end ClassDescription

end EngineBridge
