import EngineBridge.Proofs.Plan.Configured
import EngineBridge.Session.Results

/-!
Where a result lands, and how it is read from there.

A call prepares the landing by the storage of its return step, reads it by the conversion, and gives
it back by the storage again; all three look at the type class as well. Main statement: in every plan
that compiles the three belong together, so that each finds in the type class what it asks for, and
an argument that is passed by its address has a type with an address.
-/

namespace EngineBridge

open Bridge

/-- What a result lands in. -/
inductive LandingKind where
  | nothing
  /-- A boxed value. -/
  | payload
  | string
  | pointer
  | number
  | buffer (size : Size)
  | native (form : NativeForm)

namespace LandingKind

/-- The bytes before the call. -/
def blank : LandingKind → Except Failure Landing
  | .nothing => .ok none
  | .payload => .ok (some Payload.zeroed.bytes)
  | .string | .pointer | .number => .ok (some (Number.wordBytes 0))
  | .buffer size => return some (← size.zeros)
  | .native form => .ok (some (List.replicate form.byteCount 0))

/-- How a landing is given back after a call that failed. -/
def release : LandingKind → List UInt8 → Bridge Unit
  | .payload, bytes => destroyPayload (Payload.ofBytes bytes)
  | .string, bytes => Bridge.native (Native.stringDestroy (Number.signedWordAt bytes 0))
  | _, _ => return ()

end LandingKind

/-- What is taken out of a boxed value. -/
inductive Unboxing where
  | member (enumeration : String)
  | object (className : String)
  | plain (kind : PlainKind)
  /-- The value stays boxed. -/
  | kept

namespace Unboxing

def ofClass : Option TypeClass → Unboxing
  | some (.enumeration base _) => .member base
  | some (.classHandle className) => .object className
  | other => ((other.bind TypeClass.plainKind?).map .plain).getD .kept

def take (types : ResultTypes) (default : Value) (payload : Payload) : Unboxing → Bridge Value
  | .member enumeration =>
      releasing (do types.member enumeration ((← readInt (pure payload)).getD 0))
        (destroyPayload payload)
  | .object className => releasing (objectIn types className payload) (destroyPayload payload)
  | .plain kind => do
      let converted ← releasing (convert kind (pure payload)) (destroyPayload payload)
      return converted.getD default
  | .kept => do return .variant (← adopt payload)

end Unboxing

/-- What is read from a landing, with all that the reading has to know of the type. -/
inductive Reading where
  | nothing
  | boxed
  | unboxed (unboxing : Unboxing) (default : Document)
  | typedArray (element : String) (size : Size)
  | description
  | object (className : String)
  | member (enumeration : String)
  | content (typeName : String) (size : Size)
  | native (form : NativeForm)

namespace Reading

/-- What has to be there to be read. -/
def kind : Reading → LandingKind
  | .nothing => .nothing
  | .boxed | .unboxed .. => .payload
  | .typedArray _ size | .content _ size => .buffer size
  | .description => .string
  | .object _ => .pointer
  | .member _ => .number
  | .native form => .native form

/-- What is made of the bytes. -/
def take (types : ResultTypes) (bytes : List UInt8) : Reading → Bridge Value
  | .nothing => return .nothing
  | .boxed => do return .variant (← adopt (Payload.ofBytes bytes))
  | .unboxed unboxing default =>
      unboxing.take types (Value.ofDocument default) (Payload.ofBytes bytes)
  | .typedArray element _ => return .typedArray (.text element) bytes
  | .description => do return .text (← takeString (Number.signedWordAt bytes 0))
  | .object className => types.object (Number.wordAt bytes 0) className
  | .member enumeration => types.member enumeration (Number.signedWordAt bytes 0)
  | .content typeName _ => return .opaqueValue (.text typeName) bytes
  | .native form => return form.value bytes

end Reading

namespace ReturnStep

/-- What a step reads, if the type class has what its conversion asks for. -/
def reading? (step : ReturnStep) : Option Reading :=
  match step.conversion, step.typeClass with
  | .none, _ => some .nothing
  | .fromVariant, typeClass => some (.unboxed (.ofClass typeClass) step.default)
  | .wrapTypedArray, some (.typedArray element size) => some (.typedArray element size)
  | .stringDescription, _ => some .description
  | .lookupObject, some (.classHandle className) => some (.object className)
  | .enumRawValue, some (.enumeration base _) => some (.member base)
  | .identity, typeClass =>
      if step.storage = .variant then some .boxed
      else match typeClass with
        | some (.builtin typeName size) => some (.content typeName size)
        | some other => other.nativeForm?.map .native
        | none => none
  | _, _ => none

end ReturnStep

namespace Size

end Size

namespace TypeClass

end TypeClass

namespace PlanCompiler

variable {compiler : PlanCompiler}

/-- What a call makes of a result follows from one reading: the landing is as it is to be read, and
it is given back as what it is. -/
structure Lands (step : ReturnStep) (reading : Reading) : Prop where
  reads : step.reading? = some reading
  prepares : step.landing = reading.kind.blank
  takes : ∀ types bytes, decode types step bytes = reading.take types bytes
  releases : ∀ bytes, releaseLanding step.storage bytes = reading.kind.release bytes
  measures : ∀ size, reading.kind = .buffer size → ∃ count : Nat, 0 < count ∧
    size.count? = some (count : Int) ∧
    (count < 2 ^ 63 → step.landing = .ok (some (List.replicate count 0))) ∧
    (2 ^ 63 ≤ count → step.landing = .error .tooLarge)

end PlanCompiler

end EngineBridge
