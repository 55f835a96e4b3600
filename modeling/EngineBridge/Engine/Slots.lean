import EngineBridge.Engine.Basic
import EngineBridge.Text.Encoded

/-!
What the engine does with boxed values and native strings.

Each operation keeps one event. Where an operation meets a slot that is gone it is a fault, before
its event or after it as stated.
-/

namespace EngineBridge.Native

def newNil : Native Payload := do
  let payload ← newSlot GType.nil.number .nothing
  happen (.newNil payload.slot)
  return payload

/-- An independent copy. The source has to be live. -/
def newCopy (source : Payload) : Native Payload := do
  let (typeNumber, content) ← load source
  let payload ← newSlot typeNumber content
  happen (.newCopy payload.slot source.slot)
  return payload

/-- Release a slot. The event comes first, so that a second release leaves one too. -/
def destroy (payload : Payload) : Native Unit := do
  happen (.destroy payload.slot)
  if payload.slot == 0 then return
  if ((← get).slot? payload.slot).isSome then
    modify fun engine =>
      { engine with slots := engine.slots.filter fun entry => entry.1 != payload.slot }
  else
    throw (.engineFault ("Variant slot " ++ Number.writeInt payload.slot ++ " destroyed twice"))

def getType (payload : Payload) : Native Int := do
  happen (.getType payload.slot)
  return (← load payload).1

/-- Whether values of two types can be compared: those of one type, and the two kinds of numbers. -/
def comparable (left right : Int) : Bool :=
  let numeric := fun typeNumber : Int =>
    typeNumber == GType.int.number || typeNumber == GType.float.number
  left == right || (numeric left && numeric right)

/-- The number of the operator that asks for equality. -/
def equalOperator : Nat := 0

/-- Whether two values are equal, as a new boxed value, and whether they could be compared, which
the engine says in one byte. -/
def evaluateEqual (left right : Payload) : Native (Payload × Bool) := do
  let (leftType, leftContent) ← load left
  let (rightType, rightContent) ← load right
  let answer : FixedAnswer := match (← get).fixedAnswer with
    | some answer => answer
    | none =>
        if comparable leftType rightType then
          ⟨GType.bool.number, .bool (leftContent.same rightContent), .int 1⟩
        else ⟨GType.nil.number, .nothing, .int 0⟩
  let result ← newSlot answer.typeNumber answer.content
  happen (.evaluate equalOperator left.slot right.slot result.slot answer.content answer.valid)
  match answer.valid.number? with
  | some valid => return (result, valid % 256 != 0)
  | none => throw .wrongShape

/-- The hash of a text: over its bytes, with factor 31, in 32 bits. -/
def textHash (text : String) : Nat :=
  text.toUTF8.toList.foldl (fun hash byte => (hash * 31 + byte.toNat) % 0x100000000) 7

/-- The hash of a boxed value, from its type and its display. -/
def hash (payload : Payload) : Native Nat := do
  happen (.hash payload.slot)
  let (typeNumber, content) ← load payload
  return textHash (Number.writeInt typeNumber ++ ":" ++ content.display)

/-- The display of a boxed value, as a new native string. -/
def stringify (payload : Payload) : Native Int := do
  let (_, content) ← load payload
  let string ← newString content.display
  happen (.stringify payload.slot string)
  return string

/-- A native string with the text that the given bytes encode. -/
def stringNew (data : List UInt8) : Native Int := do
  let text ← Text.ofUtf8 data
  let string ← newString text
  happen (.stringNew string text)
  return string

/-- The length of a native string in bytes, and what is copied of them: as many as a buffer takes,
if there is one. -/
def stringRead (string : Int) (hasBuffer : Bool) (maxLength : Nat) :
    Native (Nat × List UInt8) := do
  happen (.stringRead string hasBuffer maxLength)
  let encoded := Text.utf8 ((← get).stringAt string)
  return (encoded.length, if hasBuffer then encoded.take maxLength else [])

/-- Release a native string. The event comes first. -/
def stringDestroy (string : Int) : Native Unit := do
  happen (.stringDestroy string)
  if string == 0 then return
  if ((← get).strings.lookup string).isSome then
    modify fun engine =>
      { engine with strings := engine.strings.filter fun entry => entry.1 != string }
  else
    throw (.engineFault ("native string " ++ Number.writeInt string ++ " destroyed twice"))

/-- A typed value in native form, as the content of a slot. -/
def readTyped (engine : Engine) (gtype : GType) (source : List UInt8) : Held :=
  match gtype with
  | .bool => .bool (Number.bytesAt source 1 != [0])
  | .int => .int (Number.signedWordAt source 0)
  | .float => .float (Float.ofBits (Number.wordAt source 0).toUInt64)
  | .string => .text (engine.stringAt (Number.signedWordAt source 0))
  | .object => .int (Number.wordAt source 0)
  | other => .bytes (Number.bytesAt source other.byteCount)

def fromType (gtype : GType) (source : List UInt8) : Native Payload := do
  let content := readTyped (← get) gtype source
  let payload ← newSlot gtype.number content
  happen (.fromType gtype.number payload.slot content)
  return payload

/-- The bytes of an integer, for contents that are integers. -/
def integerBytes (content : Held) : Except Failure (List UInt8) :=
  match content.integer? with
  | some number => .ok (Number.wordBytes number)
  | none => .error .wrongShape

/-- The native form of a content. A truth value is one byte of the number of the content, and a
text becomes a new native string. -/
def writeTyped (gtype : GType) (content : Held) : Native (List UInt8) :=
  match gtype with
  | .bool => do
      let number ← content.toInt
      return [(number % 256).toNat.toUInt8]
  | .int => integerBytes content
  | .float =>
      match content with
      | .float value => return Number.littleEndian 8 value.toBits.toNat
      | other =>
          match other.integer? with
          | some number => do
              let real ← Number.floatOfInt number
              return Number.littleEndian 8 real.toBits.toNat
          | none => throw .wrongShape
  | .string => do
      let string ← newString (match content with
        | .text text => text
        | other => other.display)
      return Number.wordBytes string
  | .object =>
      match content with
      | .nothing => return Number.wordBytes 0
      | other => integerBytes other
  | _ =>
      match content with
      | .bytes bytes => return bytes
      | _ => throw .wrongShape

/-- The native form of a boxed value, if it is of the type that is asked for; nothing is written
otherwise. The slot has to be live. -/
def toType (gtype : GType) (payload : Payload) : Native (List UInt8) := do
  let (typeNumber, content) ← load payload
  happen (.toType gtype.number payload.slot)
  if typeNumber == gtype.number then writeTyped gtype content else return []

/-- Look up the construction routines of all types. The answers say which types have them. -/
def lookUpConstructors : Native (List (Option GType)) := do
  happen .tables
  modify fun engine => { engine with
    fromLookups := engine.fromLookups + GType.constructible.length
    toLookups := engine.toLookups + GType.constructible.length }
  let missing := (← get).missing
  return GType.constructible.map fun gtype =>
    if missing.contains (gtype.number : Int) then none else some gtype

end EngineBridge.Native
