import EngineBridge.Document.Access
import EngineBridge.Engine.Slots

/-!
Calls into the engine.

A callable gets pointers to its arguments and, where there is a result, an address to write it to.
It sees its arguments first, then it is entered, then it writes, and then it may fail; what it has
written by then stays written.
-/

namespace EngineBridge

/-- What stands in the array of pointers. -/
inductive Pointer where
  | address (content : List UInt8)
  /-- A word that is passed in place of an address; zero is the null pointer. -/
  | word (value : Nat)
deriving DecidableEq, Repr

namespace Pointer

def content? : Pointer → Option (List UInt8)
  | .address content => some content
  | .word _ => none

/-- The pointer at an index, where negative indexes count from the end. -/
def at? (pointers : List Pointer) (index : Int) : Option Pointer :=
  let place := if index < 0 then index + pointers.length else index
  if place < 0 then none else pointers[place.toNat]?

end Pointer

/-- The bytes of a result, where there is an address for it. -/
abbrev Landing := Option (List UInt8)

namespace Native

def readArgument (form : ReadForm) (pointer : Pointer) : Native Seen :=
  match form, pointer with
  | .handle, .word value => return .held (.int value)
  | .handle, .address _ => return .held (.int 0)
  | _, .word _ => return .absent
  | .int, .address content => return .held (.int (Number.signedWordAt content 0))
  | .bool, .address content => return .held (.int (Number.ofLittleEndian (content.take 1)))
  | .float, .address content =>
      return .held (.float (Float.ofBits (Number.wordAt content 0).toUInt64))
  | .string, .address content => do
      return .held (.text ((← get).stringAt (Number.signedWordAt content 0)))
  | .variant, .address content => do
      let (typeNumber, held) ← load (Payload.ofBytes content)
      return .variant typeNumber held
  | .hex count, .address content => return .hex (Number.bytesAt content count)

/-- What a callable sees of its arguments: as many as it reads and as there are. -/
def readArguments : List ReadForm → List Pointer → Native (List Seen)
  | form :: forms, pointer :: pointers => do
      let seen ← readArgument form pointer
      return seen :: (← readArguments forms pointers)
  | _, _ => return []

def readForms (script : NativeScript) (asVariants : Bool) (pointers : List Pointer) :
    List ReadForm :=
  if asVariants then pointers.map fun _ => .variant else script.reads

def view (script : NativeScript) (asVariants : Bool) (pointers : List Pointer)
    (landing : Landing) : Native CallView := do
  let seen ← readArguments (readForms script asVariants pointers) pointers
  let engine ← get
  return {
    pointerCount := pointers.length
    seen
    hasResult := landing.isSome
    liveSlots := engine.liveSlots
    liveStrings := engine.liveStrings }

def writtenBytes (pointers : List Pointer) : WriteForm → Native (List UInt8)
  | .int value => return Number.wordBytes value
  | .bool value => return [(value % 256).toNat.toUInt8]
  | .float value => return Number.littleEndian 8 value.toBits.toNat
  | .string text => do
      let string ← newString text
      happen (.resultString string)
      return Number.wordBytes string
  | .handle value => return Number.wordBytes value
  | .hex content => return content
  | .variant typeNumber content => do
      let payload ← newSlot typeNumber content
      happen (.resultVariant payload.slot)
      return payload.bytes
  | .nil => return (← newNil).bytes
  | .copyArgument index =>
      match Pointer.at? pointers index with
      | some pointer => do
          return (← newCopy (Payload.ofBytes (pointer.content?.getD []))).bytes
      | none => throw .indexOutOfRange
  | .refused failure => throw failure

/-- The outcome of a native action with the bytes of the result as they stand after it. -/
structure Written (α : Type) where
  outcome : Except Failure α
  landing : List UInt8

/-- The writes of a callable one after the other, up to the first that fails. -/
def writeAll (pointers : List Pointer) : List WriteForm → List UInt8 →
    StateM Engine (Written Unit)
  | [], landing => return ⟨.ok (), landing⟩
  | form :: forms, landing => do
      match ← (writtenBytes pointers form).run with
      | .ok bytes => writeAll pointers forms (Number.overwrite landing bytes)
      | .error failure => return ⟨.error failure, landing⟩

/-- What a callable does once it has been entered: write the result, then fail if it has to. The
landing comes back as it stands afterwards in either case. -/
def perform (script : NativeScript) (pointers : List Pointer) (landing : Landing) :
    StateM Engine (Except Failure Unit × Landing) := do
  let (written, landing) ← match landing with
    | none => pure (.ok (), none)
    | some bytes => do
        let result ← writeAll pointers script.writes bytes
        pure (result.outcome, some result.landing)
  match written, script.failure with
  | .ok (), some message => return (.error (.engineFailure message), landing)
  | outcome, _ => return (outcome, landing)

/-- Enter a callable: see the arguments, keep the event, and perform. -/
def enter (script : NativeScript) (asVariants : Bool) (pointers : List Pointer)
    (landing : Landing) (event : CallView → Event) :
    StateM Engine (Except Failure Unit × Landing) := do
  match ← (view script asVariants pointers landing).run with
  | .error failure => return (.error failure, landing)
  | .ok view => do
      let _ ← (happen (event view)).run
      perform script pointers landing

/-- The number under which a method is called, zero if the engine has none. -/
def lookUpMethod (className methodName hash : Document) : Native Nat := do
  let key := (← className.keyOf, ← methodName.keyOf, ← hash.keyOf)
  let found := ((← get).methods.lookup key).getD 0
  happen (.methodLookup className methodName hash found)
  return found

def lookUpUtility (name hash : Document) : Native (Option NativeScript) := do
  let found? := (← get).utilities.lookup (← name.keyOf, ← hash.keyOf)
  happen (.utilityLookup name hash found?.isSome)
  return found?

def pointerCall (bind : Nat) (target : Document) (pointers : List Pointer) (landing : Landing) :
    StateM Engine (Except Failure CallError × Landing) := do
  match (← get).scripts.lookup bind with
  | none => return (.error .noSuchKey, landing)
  | some script => do
      let (outcome, landing) ← enter script false pointers landing (.pointerCall bind target)
      return (outcome.map fun _ => .ok, landing)

/-- Call a method with boxed values. It may report an error besides its result. -/
def variantCall (bind : Nat) (target : Document) (pointers : List Pointer) (landing : Landing) :
    StateM Engine (Except Failure CallError × Landing) := do
  match (← get).scripts.lookup bind with
  | none => return (.error .noSuchKey, landing)
  | some script => do
      let (outcome, landing) ←
        enter script true pointers landing (.variantCall bind target pointers.length)
      return (outcome.map fun _ => {
        error := Number.wrapSignedShort script.error.error
        argument := Number.wrapSignedShort script.error.argument
        expected := Number.wrapSignedShort script.error.expected }, landing)

/-- Call a utility function. It reports no errors. -/
def utilityCall (name : Document) (script : NativeScript) (pointers : List Pointer)
    (landing : Landing) : StateM Engine (Except Failure CallError × Landing) := do
  let (outcome, landing) ←
    enter script script.isVararg pointers landing (.utilityCall name pointers.length)
  return (outcome.map fun _ => .ok, landing)

end Native

end EngineBridge
