import EngineBridge.Document.Lenient
import EngineBridge.Engine.Calls

/-!
Engines in documents: what they keep, what they were asked for, and what their callables do.

The content of a slot is written as it is, bytes as a table with their hexadecimal digits. An event
is an array that starts with its name. A callable is described by what it reads and writes.
-/

namespace EngineBridge

def contentOfHex (digits : Document) : Except Failure (List UInt8) := do
  match Text.bytesOfHex? (← digits.asText).toList with
  | some content => return content
  | none => throw .unreadable

def hexDocument (content : List UInt8) : Document :=
  .text (Text.hexOfBytes content)

namespace Held

def document : Held → Document
  | .nothing => .null
  | .bool value => .bool value
  | .int value => .int value
  | .float value => .float value
  | .text value => .text value
  | .bytes content => .table [("bytes", hexDocument content)]

/-- The content that a document stands for; floats and bytes stand in tables. -/
def ofDocument : Document → Except Failure Held
  | .bool value => .ok (.bool value)
  | .int value => .ok (.int value)
  | .float value => .ok (.float value)
  | .text value => .ok (.text value)
  | .table [("float", written)] => return .float (← Document.floatOf written)
  | .table [("bytes", digits)] => return .bytes (← contentOfHex digits)
  | _ => .ok .nothing

end Held

namespace Seen

def document : Seen → Document
  | .absent => .null
  | .held content => content.document
  | .variant typeNumber content => .array [.int typeNumber, content.document]
  | .hex content => hexDocument content

end Seen

namespace CallView

def parts (view : CallView) : List Document :=
  [.int view.pointerCount, .array (view.seen.map Seen.document), .bool view.hasResult,
    .int view.liveSlots, .int view.liveStrings]

end CallView

namespace Event

def parts : Event → List Document
  | .tables => [.text "tables"]
  | .fromType typeNumber slot content =>
      [.text "from_type", .int typeNumber, .int slot, content.document]
  | .toType typeNumber slot => [.text "to_type", .int typeNumber, .int slot]
  | .newNil slot => [.text "new_nil", .int slot]
  | .newCopy slot source => [.text "new_copy", .int slot, .int source]
  | .destroy slot => [.text "destroy", .int slot]
  | .getType slot => [.text "get_type", .int slot]
  | .evaluate operator left right result content valid =>
      [.text "evaluate", .int operator, .int left, .int right, .int result, content.document,
        valid]
  | .hash slot => [.text "hash", .int slot]
  | .stringify slot string => [.text "stringify", .int slot, .int string]
  | .stringNew string content => [.text "string_new", .int string, .text content]
  | .stringRead string hasBuffer maxLength =>
      [.text "string_read", .int string, .bool hasBuffer, .int maxLength]
  | .stringDestroy string => [.text "string_destroy", .int string]
  | .methodLookup className methodName key found =>
      [.text "method_lookup", className, methodName, key, .int found]
  | .utilityLookup name key found => [.text "utility_lookup", name, key, .bool found]
  | .pointerCall bind target view => .text "ptrcall" :: .int bind :: target :: view.parts
  | .variantCall bind target count view =>
      .text "call" :: .int bind :: target :: .int count :: view.parts
  | .utilityCall name count view => .text "utility" :: name :: .int count :: view.parts
  | .resultString string => [.text "result_string", .int string]
  | .resultVariant slot => [.text "result_variant", .int slot]

def document (event : Event) : Document :=
  .array event.parts

end Event

namespace ReadForm

/-- The form of a name; any other name gives a number of bytes behind a colon. -/
def ofName (name : String) : ReadForm :=
  match name with
  | "int" => .int
  | "bool" => .bool
  | "float" => .float
  | "string" => .string
  | "handle" => .handle
  | "variant" => .variant
  | other => .hex ((Number.readInt? ((other.toList.dropWhile (· != ':')).drop 1)).getD 0).toNat

example : ofName "hex:12" = .hex 12 := by decide +kernel

end ReadForm

namespace WriteForm

/-- A form made of what was read, or the refusal to write what could not be read. -/
def orRefused {α : Type} (form : α → WriteForm) : Except Failure α → WriteForm
  | .ok value => form value
  | .error failure => .refused failure

/-- The integer that is written for a document, which has to be one. -/
def integerOf (document : Document) : Except Failure Int :=
  match document.number? with
  | some number => .ok number
  | none => .error .wrongShape

/-- The form of a table with one key, which says what is written. The null handle may be written
as null. -/
def ofDocument : Document → WriteForm
  | .table [("int", value)] => orRefused .int (integerOf value)
  | .table [("bool", value)] => orRefused .bool (integerOf value)
  | .table [("float", value)] => orRefused .float (Document.floatOf value)
  | .table [("string", .text content)] => .string content
  | .table [("handle", .null)] => .handle 0
  | .table [("handle", value)] => orRefused .handle (integerOf value)
  | .table [("hex", digits)] => orRefused .hex (contentOfHex digits)
  | .table [("variant", .array [typeNumber, content])] =>
      orRefused (.variant typeNumber.integerValue) (Held.ofDocument content)
  | .table [("copy_arg", index)] => orRefused .copyArgument (integerOf index)
  | _ => .nil

end WriteForm

namespace NativeScript

/-- A callable by what it reads and writes, and whether it fails or reports an error. -/
def ofDocument (document : Document) : NativeScript where
  reads := (document.valueAt "reads").itemList.map fun name =>
    ReadForm.ofName (name.textValue?.getD "")
  writes := (document.valueAt "writes").itemList.map WriteForm.ofDocument
  isVararg := (document.valueAt "vararg").isTruthy
  failure := match document.valueAt "raise" with
    | .null => none
    | cause => some cause.wording
  error := match (document.valueAt "error").itemList.map Document.integerValue with
    | [error, argument, expected] => ⟨error, argument, expected⟩
    | _ => .ok

end NativeScript

namespace Engine

def typeNumbers (documents : List Document) : List Int :=
  documents.filterMap fun document =>
    match document.key? with
    | some (.integer number) => some number
    | _ => none

/-- A new engine by its options: the types without construction routines, and the answer that it
gives to every comparison. -/
def ofOptions (kindName : String) (options : Document) : Except Failure Engine := do
  let answer := options.valueAt "evaluate"
  let fixedAnswer : Option FixedAnswer ←
    if answer.isTable then do
      let content ← Held.ofDocument (answer.valueAt "value")
      pure (some ⟨(answer.valueAt "gtype").integerValue, content, answer.valueAt "valid"⟩)
    else pure none
  return Engine.fresh kindName (typeNumbers (options.valueAt "missing_constructors").itemList)
    fixedAnswer

end Engine

end EngineBridge
