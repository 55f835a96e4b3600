import EngineBridge.Plan.Basic
import EngineBridge.Session.Variants

/-!
Results on their way back from the engine.

A result lands in bytes that are zero before the call. What lands there belongs to the caller:
after a call that fails it is released, and after one that succeeds it is decoded, which either
adopts it or releases it.
-/

namespace EngineBridge

/-- What is known about the objects and the enumerations of a program. -/
structure ResultTypes where
  /-- The object behind a handle of a class. -/
  lookUpObject : Nat → String → Except Failure Value
  /-- The members of enumerations by their numbers. -/
  enumerations : Entries (Int → Except Failure Value)

namespace ResultTypes

/-- Nothing is known: an object is its handle, and a member is its number. -/
def none : ResultTypes where
  lookUpObject handle className := .ok (.object (.text className) (.int handle))
  enumerations := []

/-- The member of an enumeration with a number; the number itself if the enumeration is not
known. -/
def member (types : ResultTypes) (enumeration : String) (number : Int) : Except Failure Value :=
  match types.enumerations.get? enumeration with
  | .none => .ok (.int number)
  | some member => member number

/-- The object behind a handle. The null handle is no object. -/
def object (types : ResultTypes) (handle : Nat) (className : String) : Except Failure Value :=
  if handle == 0 then .ok .nothing else types.lookUpObject handle className

end ResultTypes

namespace NativeForm

def byteCount : NativeForm → Nat
  | .truth => 1
  | .word => 8
  | .real => 8

def value (form : NativeForm) (bytes : List UInt8) : Value :=
  match form with
  | .truth => .bool (Number.bytesAt bytes 1 != [0])
  | .word => .int (Number.signedWordAt bytes 0)
  | .real => .float (Float.ofBits (Number.wordAt bytes 0).toUInt64)

end NativeForm

namespace TypeClass

/-- The kind of plain value that a boxed result of a class is converted to. -/
def plainKind? : TypeClass → Option Bridge.PlainKind
  | .primitive "bool" _ => some .bool
  | .primitive "int" _ => some .int
  | .primitive "float" _ => some .float
  | .builtin name _ => if name = stringType then some .text else none
  | _ => none

end TypeClass

namespace ReturnStep

/-- The bytes in which a result is to land, before the call. -/
def landing (step : ReturnStep) : Except Failure Landing :=
  match step.storage, step.typeClass with
  | .none, _ => .ok none
  | .variant, _ => .ok (some Payload.zeroed.bytes)
  | .nativeString, _ | .handle, _ | .intEnum, _ => .ok (some (Number.wordBytes 0))
  | .typedArray, some (.typedArray _ size) | .value, some (.builtin _ size) =>
      return some (← size.zeros)
  | .value, some typeClass =>
      match typeClass.nativeForm? with
      | some form => .ok (some (List.replicate form.byteCount 0))
      | none => .error .noSuchField
  | _, _ => .error .noSuchField

end ReturnStep

namespace Bridge

/-- Release what has landed, for a call that failed. A landing that was never written is nil, or
the empty string, and can be released like any other. -/
def releaseLanding (storage : ReturnStorage) (bytes : List UInt8) : Bridge Unit :=
  match storage with
  | .variant => destroyPayload (Payload.ofBytes bytes)
  | .nativeString => native (Native.stringDestroy (Number.signedWordAt bytes 0))
  | _ => return ()

/-- The object in a boxed value, nothing if it holds none. -/
def objectIn (types : ResultTypes) (className : String) (payload : Payload) : Bridge Value := do
  if (← typeOf (pure payload)) == .object then
    let bytes ← toNative GType.object.number (pure payload)
    types.object (Number.wordAt bytes 0) className
  else return .nothing

/-- Decode a boxed result to the declared class. A value of another kind gives the default; classes
without a plain form stay boxed. -/
def unbox (types : ResultTypes) (typeClass : Option TypeClass) (default : Value)
    (payload : Payload) : Bridge Value :=
  match typeClass with
  | some (.enumeration base _) =>
      releasing (do types.member base ((← readInt (pure payload)).getD 0)) (destroyPayload payload)
  | some (.classHandle name) =>
      releasing (objectIn types name payload) (destroyPayload payload)
  | other =>
      match other.bind TypeClass.plainKind? with
      | some kind => do
          let converted ← releasing (convert kind (pure payload)) (destroyPayload payload)
          return converted.getD default
      | none => do return .variant (← adopt payload)

def identityValue (step : ReturnStep) (bytes : List UInt8) : Bridge Value := do
  match step.storage, step.typeClass with
  | .variant, _ => return .variant (← adopt (Payload.ofBytes bytes))
  | _, some (.builtin name _) => return .opaqueValue (.text name) bytes
  | _, some typeClass =>
      match typeClass.nativeForm? with
      | some form => return form.value bytes
      | none => throw .noSuchField
  | _, none => throw .noSuchField

def decode (types : ResultTypes) (step : ReturnStep) (bytes : List UInt8) : Bridge Value :=
  match step.conversion, step.typeClass with
  | .none, _ => return .nothing
  | .fromVariant, typeClass =>
      unbox types typeClass (Value.ofDocument step.default) (Payload.ofBytes bytes)
  | .wrapTypedArray, some (.typedArray element _) => return .typedArray (.text element) bytes
  | .stringDescription, _ => do return .text (← takeString (Number.signedWordAt bytes 0))
  | .lookupObject, some (.classHandle name) => types.object (Number.wordAt bytes 0) name
  | .enumRawValue, some (.enumeration base _) => types.member base (Number.signedWordAt bytes 0)
  | .identity, _ => identityValue step bytes
  | _, _ => throw .noSuchField

end Bridge

end EngineBridge
