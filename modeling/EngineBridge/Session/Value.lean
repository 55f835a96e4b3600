import EngineBridge.Document.Shown
import EngineBridge.Engine.Slots
import EngineBridge.Number.Conversion

/-!
Values on the caller's side of the bridge.

Variants and native strings are owners of something in the engine and are referred to by number.
Built-in values are held as bytes that only the engine can read. All that can be written as a single
document is compared and converted as that document.
-/

namespace EngineBridge

inductive Value where
  | nothing
  | bool (value : Bool)
  | int (value : Int)
  | float (value : Float)
  /-- A float that is kept under a name. It is one thing with itself even if it is not a number. -/
  | keptFloat (name : String) (value : Float)
  | text (value : String)
  | variant (reference : Nat)
  | nativeString (reference : Nat)
  /-- A built-in value with its type name. -/
  | opaqueValue (typeName : Document) (content : List UInt8)
  /-- An array whose elements are declared to be of a type. -/
  | typedArray (element : Document) (content : List UInt8)
  /-- An object of the engine, by its handle. -/
  | object (className : Document) (handle : Value)
  /-- A member of an enumeration that is known only by its number. -/
  | member (value : Value)
  | list (items : List Value)
  | bytes (content : List UInt8)
  /-- A value of which nothing is known but its kind and the name under which it is kept. -/
  | plain (kind : String) (name : Option String)
  /-- A member of a known enumeration. It is its number in all respects but how it is shown. -/
  | enumerator (enumeration name : String) (number : Int)
deriving Inhabited

namespace Value

/-- The document that a value is, if it is a single one. -/
def scalar? : Value → Option Document
  | .nothing => some .null
  | .bool value => some (.bool value)
  | .int value => some (.int value)
  | .float value | .keptFloat _ value => some (.float value)
  | .text value => some (.text value)
  | .enumerator _ _ number => some (.int number)
  | _ => none

def kindName : Value → String
  | .nothing => "NoneType"
  | .bool _ => "bool"
  | .int _ => "int"
  | .float _ | .keptFloat .. => "float"
  | .text _ => "str"
  | .variant _ => "Variant"
  | .nativeString _ => "GString"
  | .opaqueValue .. => "OpaqueValue"
  | .typedArray .. => "TypedArrayValue"
  | .object .. => "EngineObject"
  | .member _ => "Member"
  | .list _ => "list"
  | .bytes _ => "bytes"
  | .plain kind _ => kind
  | .enumerator enumeration .. => enumeration

/-- Whether a value counts as true. Values other than documents, lists and bytes always do. -/
def isTruthy (value : Value) : Bool :=
  match value.scalar?, value with
  | some document, _ => document.isTruthy
  | none, .list items => !items.isEmpty
  | none, .bytes content => !content.isEmpty
  | none, _ => true

/-- The number of a value that is an integer; a truth value counts as one or zero. -/
def integer? (value : Value) : Option Int :=
  value.scalar?.bind Document.number?

/-- The integer that a value is converted to: floats are cut toward zero, texts are read. -/
def toInt (value : Value) : Except Failure Int :=
  match value.scalar?, value with
  | some (.text content), _ => Number.integerOfCharacters content.toList
  | some (.float real), _ => Number.integerOfFloat real
  | none, .bytes content => Number.integerOfBytes content
  | _, _ =>
      match value.integer? with
      | some number => .ok number
      | none => .error .wrongShape

/-- The float that a number is passed as. Integers beyond the range of floats have none. -/
def toReal (value : Value) : Except Failure Float :=
  match value.scalar?, value.integer? with
  | some (.float real), _ => .ok real
  | _, some number => Number.floatOfInt number
  | _, none => .error .wrongShape

/-- The integer that a value is, where no conversion is made. -/
def exactInt (value : Value) : Except Failure Int :=
  match value.integer? with
  | some number => .ok number
  | none => .error .wrongShape

def content? : Value → Option (List UInt8)
  | .opaqueValue _ content => some content
  | .typedArray _ content => some content
  | _ => none

def opaqueTypeName? : Value → Option Document
  | .opaqueValue typeName _ => some typeName
  | .typedArray .. => some (.text arrayType)
  | _ => none

/-- The number behind a member of an enumeration, and any other value as it is. -/
def ordinal : Value → Value
  | .member value => value
  | .enumerator _ _ number => .int number
  | other => other

def ofDocument : Document → Value
  | .bool value => .bool value
  | .int value => .int value
  | .float value => .float value
  | .text value => .text value
  | _ => .nothing

/-- Whether two values are one thing, which is then equal to itself wherever it is a part. -/
def isSameThing : Value → Value → Bool
  | .variant left, .variant right => left == right
  | .keptFloat left _, .keptFloat right _ => left == right
  | .plain _ (some left), .plain _ (some right) => left == right
  | _, _ => false

/-- Equality of values without parts, for which the engine is not asked: documents are equal as
documents, and what is held as bytes is equal if its type name and its bytes are. -/
def equalsAlone (left right : Value) : Bool :=
  match left.scalar?, right.scalar?, left, right with
  | some first, some second, _, _ => first.same second
  | _, _, .bytes first, .bytes second => first == second
  | _, _, .nativeString first, .nativeString second => first == second
  | _, _, .plain _ (some first), .plain _ (some second) => first == second
  | _, _, _, _ =>
      match left.opaqueTypeName?, right.opaqueTypeName? with
      | some first, some second => first.same second && left.content? == right.content?
      | _, _ => false

mutual

/-- How a value is spelled in a message. -/
def spelling : Value → String
  | .nothing => Document.null.spelling
  | .bool value => Document.shownBool value
  | .int value => Number.writeInt value
  | .float value | .keptFloat _ value => Number.writeFloat value
  | .text value => Text.quoted value
  | .variant _ => "Variant"
  | .nativeString _ => "GString"
  | .opaqueValue typeName content =>
      "OpaqueValue(" ++ typeName.wording ++ ", " ++ Text.hexOfBytes content ++ ")"
  | .typedArray element content =>
      "TypedArrayValue(" ++ element.wording ++ ", " ++ Text.hexOfBytes content ++ ")"
  | .object className handle =>
      "EngineObject(class_name=" ++ className.spelling ++ ", handle=" ++ handle.spelling ++ ")"
  | .member _ => "Member"
  | .list items => "[" ++ Document.joinParts (itemSpellings items) ++ "]"
  | .bytes content => Text.quotedBytes content
  | .plain kind _ => kind
  | .enumerator enumeration name number =>
      "<" ++ enumeration ++ "." ++ name ++ ": " ++ Number.writeInt number ++ ">"

def itemSpellings : List Value → List String
  | [] => []
  | item :: rest => item.spelling :: itemSpellings rest

end

mutual

/-- Whether a value can be written: no integer that its spelling has is too long. -/
def isWritable : Value → Bool
  | .int value => Number.isWritable value
  | .opaqueValue typeName _ => typeName.isWritable
  | .typedArray element _ => element.isWritable
  | .object className handle => className.isWritable && handle.isWritable
  | .list items => itemsAreWritable items
  | .enumerator _ _ number => Number.isWritable number
  | _ => true

def itemsAreWritable : List Value → Bool
  | [] => true
  | item :: rest => item.isWritable && itemsAreWritable rest

end

def shown (value : Value) : Except Failure String :=
  if value.isWritable then .ok value.spelling else .error .unreadable

/-- A value as a text: documents as they stand in a text, and all else as it is shown. -/
def plainText (value : Value) : Except Failure String :=
  match value.scalar? with
  | some document => document.plainText
  | none => value.shown

/-- The hash of a number. What is compared by its parts has no hash, and of anything else the hash
is not determined. -/
def hash (value : Value) : Except Failure Int :=
  let determined? : Option Int := match value, value.scalar? with
    | .enumerator .., _ => none
    | _, some (.float real) => Number.hashOfFloat? real
    | _, scalar? => (scalar?.bind Document.number?).map Number.hashOfInt
  match value, determined? with
  | .opaqueValue .., _ | .typedArray .., _ | .list _, _ => .error .wrongShape
  | _, some number => .ok number
  | _, none => .error .noSuchField

mutual

/-- A value as part of a document: what a document cannot hold is a text, as it is spelled. -/
def document : Value → Document
  | .nothing => .null
  | .bool value => .bool value
  | .int value => .int value
  | .float value | .keptFloat _ value => .float value
  | .text value => .text value
  | .enumerator _ _ number => .int number
  | .list items => .array (itemDocuments items)
  | other => .text other.spelling

def itemDocuments : List Value → List Document
  | [] => []
  | item :: rest => item.document :: itemDocuments rest

end

end Value

namespace Size

/-- The number of bytes of a buffer of a size. It has to fit into a signed word. -/
def byteCount (size : Size) : Except Failure Nat :=
  match size.count? with
  | none => .error .wrongShape
  | some count =>
      if count < -0x8000000000000000 || 0x8000000000000000 ≤ count then .error .tooLarge
      else if count < 0 then .error .unreadable
      else .ok count.toNat

/-- The bytes of a fresh buffer, for which there is taken to be memory. -/
def zeros (size : Size) : Except Failure (List UInt8) := do
  return List.replicate (← size.byteCount) 0

end Size

namespace Value

/-- The content of a value of a type: as given, in which case it must have the size, or zeros, for
as many of which there has to be memory. -/
def checkedContent (memory : Nat) (typeName size : Document) (content? : Option (List UInt8)) :
    Except Failure (List UInt8) :=
  match content? with
  | none => do
      if memory < (← (Size.ofDocument size).byteCount) then throw .outOfMemory
      (Size.ofDocument size).zeros
  | some content =>
      if size.same (.int content.length) then .ok content
      else .error (Failure.raised (.badValue (.contentSize typeName size content.length)))

def ofContent (memory : Nat) (typeName size : Document) (content? : Option (List UInt8)) :
    Except Failure Value := do
  return .opaqueValue typeName (← checkedContent memory typeName size content?)

def arrayOfContent (memory : Nat) (element size : Document) (content? : Option (List UInt8)) :
    Except Failure Value := do
  return .typedArray element (← checkedContent memory (.text arrayType) size content?)

end Value

end EngineBridge
