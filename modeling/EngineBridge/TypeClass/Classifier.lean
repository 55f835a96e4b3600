import EngineBridge.TypeClass.KnownClasses
import EngineBridge.TypeClass.Sizes

/-!
The class of a type name.

Prefixes mark enumerations, sets of flags and typed arrays; then come the root class, the built-in
types of the size table and the known classes. Every other name is taken for a primitive.
-/

namespace EngineBridge

/-- Sizes and classes to classify by. The sizes include that of an array. -/
structure TypeClassifier where
  sizes : SizeTable
  classes : List String
  arraySize : Size
  arraySize_mem : sizes.get? arrayType = some arraySize

namespace TypeClassifier

/-- The classifier of a size table and some class names, which needs the size of an array. -/
def ofTables (sizes : SizeTable) (classes : List String) : Except Failure TypeClassifier :=
  match found : sizes.get? arrayType with
  | some arraySize => .ok ⟨sizes, classes, arraySize, found⟩
  | none => .error (.badValue .noArraySize)

def enumLead : String := "enum::"

def bitfieldLead : String := "bitfield::"

def typedArrayLead : String := "typedarray::"

def classifyPlain (classifier : TypeClassifier) (typeName : String) (metadata : Document) :
    TypeClass :=
  if typeName = objectType then .classHandle typeName
  else match classifier.sizes.get? typeName with
    | some size => .builtin typeName size
    | none =>
        if classifier.classes.contains typeName then .classHandle typeName
        else .primitive typeName metadata

def classify (classifier : TypeClassifier) (typeName : String) (metadata : Document) : TypeClass :=
  match Text.after? enumLead typeName, Text.after? bitfieldLead typeName,
    Text.after? typedArrayLead typeName with
  | some base, _, _ => .enumeration base false
  | none, some base, _ => .enumeration base true
  | none, none, some element => .typedArray element classifier.arraySize
  | none, none, none => classifier.classifyPlain typeName metadata

/-- What there is to say about a type. -/
structure Report where
  description : Document
  needsCopy : Bool
  default : Document
  isRawPointer : Bool
  isNarrow : Bool
  nativeForm : Option NativeForm

namespace Report

def document (report : Report) : Document :=
  .table [
    ("describe", report.description),
    ("needs_copy", .bool report.needsCopy),
    ("default", report.default),
    ("raw_pointer", .bool report.isRawPointer),
    ("small_int", .bool report.isNarrow),
    ("ctype", match report.nativeForm with
      | some form => .text form.name
      | none => .null)]

end Report

/-- Report on a type. The name has to be a text, and the metadata something that can be compared
with the names of widths. -/
def report (classifier : TypeClassifier) (typeName metadata : Document) : Except Failure Report :=
  match typeName with
  | .text name => do
      let _ ← metadata.keyOf
      let typeClass := classifier.classify name metadata
      return {
        description := .table typeClass.description
        needsCopy := typeClass.needsCopy
        default := typeClass.defaultValue
        isRawPointer := EngineBridge.isRawPointer name
        isNarrow := isNarrowInteger metadata
        nativeForm := typeClass.nativeForm? }
  | _ => .error .noSuchField

end TypeClassifier

end EngineBridge
