import EngineBridge.Document.Key
import EngineBridge.Text.Lead

/-!
Classes of engine types, as far as passing a value depends on them.

A type is a primitive, a built-in value of a fixed size, an enumeration, an array with a declared
element type, or a handle of a class. How a value crosses to the engine follows from the class.
-/

namespace EngineBridge

/-- The size of a built-in type. A table read from a text has numbers of bytes, and a configuration
may also give a truth value, which counts as one byte or none. A table that is put together by hand
may have anything, which is noticed where the bytes are needed. -/
inductive Size where
  | bytes (count : Int)
  | flag (value : Bool)
  | unusable (given : Document)

namespace Size

def ofDocument : Document → Size
  | .int count => .bytes count
  | .bool value => .flag value
  | other => .unusable other

def document : Size → Document
  | .bytes count => .int count
  | .flag value => .bool value
  | .unusable given => given

/-- The number of bytes, if the size is one. -/
def count? : Size → Option Int
  | .bytes count => some count
  | .flag value => some (if value then 1 else 0)
  | .unusable _ => none

end Size

def objectType : String := "Object"

def arrayType : String := "Array"

def stringType : String := "String"

def variantType : String := "Variant"

inductive TypeClass where
  /-- A type passed in its native width. -/
  | primitive (name : String) (metadata : Document)
  /-- A value held as bytes that only the engine can read. -/
  | builtin (name : String) (size : Size)
  /-- An enumeration, or a set of flags. -/
  | enumeration (base : String) (isBitfield : Bool)
  | typedArray (element : String) (size : Size)
  | classHandle (name : String)

/-- The native form of a value that is no buffer. -/
inductive NativeForm where
  | word
  | real
  | truth
deriving DecidableEq, Repr

namespace NativeForm

def name : NativeForm → String
  | .word => "int64"
  | .real => "double"
  | .truth => "uint8"

end NativeForm

def narrowIntegers : List String :=
  ["int8", "uint8", "int16", "uint16", "int32", "uint32"]

def isNarrowInteger (metadata : Document) : Bool :=
  match metadata with
  | .text width => narrowIntegers.contains width
  | _ => false

def isRawPointer (typeName : String) : Bool :=
  Text.holds '*' typeName

namespace TypeClass

/-- The native form of a primitive type. Names that are not known are taken for integers. -/
def primitiveForm (name : String) : NativeForm :=
  if name = "bool" then .truth
  else if name = "float" then .real
  else .word

/-- The native form of a value, for the classes that have one. -/
def nativeForm? : TypeClass → Option NativeForm
  | .primitive name _ => some (primitiveForm name)
  | .enumeration .. => some .word
  | _ => none

/-- Whether the value that is passed is not the value at hand: an enumeration contributes its
number, and a narrow integer is widened. -/
def needsCopy : TypeClass → Bool
  | .enumeration .. => true
  | .primitive name metadata => name = "int" && isNarrowInteger metadata
  | _ => false

def defaultValue : TypeClass → Document
  | .enumeration .. => .int 0
  | .primitive name _ => match primitiveForm name with
      | .truth => .bool false
      | .real => .float 0.0
      | .word => .int 0
  | .builtin name _ => if name = stringType then .text "" else .null
  | _ => .null

/-- An entry of a description, which is left out where there is nothing to say. -/
def entry (key : String) : Document → List (String × Document)
  | .null => []
  | value => [(key, value)]

def description : TypeClass → List (String × Document)
  | .primitive name metadata =>
      [("kind", .text "Primitive"), ("name", .text name)] ++ entry "meta" metadata
  | .builtin name size =>
      [("kind", .text "BuiltinValue"), ("name", .text name)] ++ entry "size" size.document
  | .enumeration base isBitfield =>
      [("kind", .text "Enum"), ("base", .text base), ("bitfield", .bool isBitfield)]
  | .typedArray element size =>
      [("kind", .text "TypedArray"), ("element", .text element)] ++ entry "size" size.document
  | .classHandle name => [("kind", .text "ClassHandle"), ("name", .text name)]

end TypeClass

end EngineBridge
