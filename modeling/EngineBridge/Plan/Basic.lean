import EngineBridge.Failure
import EngineBridge.TypeClass.Basic

/-!
Marshaling plans.

A plan says everything about the calls of one method: how the engine is asked, how each argument is
stored for the call, where the result lands and what is made of it. Plans are data; they can be
compared, written to a document and executed.
-/

namespace EngineBridge

/-- Methods of classes, and utility functions that belong to none. -/
inductive MethodKind where
  | classMethod
  | utility
deriving DecidableEq, Repr

/-- A bound method is called in the engine; a virtual one is called by it. -/
inductive BindingState where
  | bound
  | virtual
deriving DecidableEq, Repr

inductive CallStrategy where
  /-- Typed pointers, one for each declared argument. -/
  | directPointerCall
  /-- Pointers to boxed values, the extra arguments among them. -/
  | variantArrayCall
deriving DecidableEq, Repr

inductive Visibility where
  | open_
  | internal
  | public_
deriving DecidableEq, Repr

/-- How an argument is stored while a call runs. -/
inductive ArgumentStorage where
  | variantBox
  | nativeString
  | scratchCopy
  /-- The address of the value at hand. -/
  | address
  /-- The handle itself takes the place of an address. -/
  | handle
deriving DecidableEq, Repr

/-- Where a result lands. -/
inductive ReturnStorage where
  | none
  | variant
  | typedArray
  | nativeString
  | handle
  | intEnum
  | value
deriving DecidableEq, Repr

/-- What is made of a result. -/
inductive ReturnConversion where
  | none
  | fromVariant
  | wrapTypedArray
  | stringDescription
  | lookupObject
  | enumRawValue
  | identity
deriving DecidableEq, Repr

namespace MethodKind

def name : MethodKind → String
  | .classMethod => "CLASS"
  | .utility => "UTILITY"

end MethodKind

namespace BindingState

def name : BindingState → String
  | .bound => "BOUND"
  | .virtual => "VIRTUAL"

end BindingState

namespace CallStrategy

def name : CallStrategy → String
  | .directPointerCall => "DIRECT_POINTER_CALL"
  | .variantArrayCall => "VARIANT_ARRAY_CALL"

end CallStrategy

namespace Visibility

def name : Visibility → String
  | .open_ => "OPEN"
  | .internal => "INTERNAL"
  | .public_ => "PUBLIC"

end Visibility

namespace ArgumentStorage

def name : ArgumentStorage → String
  | .variantBox => "VARIANT_BOX"
  | .nativeString => "NATIVE_STRING"
  | .scratchCopy => "SCRATCH_COPY"
  | .address => "ADDRESS"
  | .handle => "HANDLE"

end ArgumentStorage

namespace ReturnStorage

def name : ReturnStorage → String
  | .none => "NONE"
  | .variant => "VARIANT"
  | .typedArray => "TYPED_ARRAY"
  | .nativeString => "NATIVE_STRING"
  | .handle => "HANDLE"
  | .intEnum => "INT_ENUM"
  | .value => "VALUE"

end ReturnStorage

namespace ReturnConversion

def name : ReturnConversion → String
  | .none => "NONE"
  | .fromVariant => "FROM_VARIANT"
  | .wrapTypedArray => "WRAP_TYPED_ARRAY"
  | .stringDescription => "STRING_DESCRIPTION"
  | .lookupObject => "LOOKUP_OBJECT"
  | .enumRawValue => "ENUM_RAW_VALUE"
  | .identity => "IDENTITY"

end ReturnConversion

/-- What happens to one argument. -/
structure ArgumentStep where
  name : Document
  typeClass : TypeClass
  storage : ArgumentStorage
  /-- Whether an address is passed, and not the value itself. -/
  takeAddress : Bool
  /-- The expression whose value is handed to the engine. -/
  source : Document
  /-- The name of the value that is made for the call, where one is made. -/
  scratch : Option String

/-- What happens to the result. -/
structure ReturnStep where
  typeClass : Option TypeClass
  storage : ReturnStorage
  conversion : ReturnConversion
  /-- The value that stands in where there is no result. -/
  default : Document
  /-- Whether the call receives the buffer of the landing value, and not the value. -/
  passContent : Bool

namespace ReturnStep

def noReturn : ReturnStep := ⟨none, .none, .none, .null, false⟩

def hasResult (step : ReturnStep) : Bool :=
  step.storage != .none

end ReturnStep

structure MarshalingPlan where
  methodName : Document
  /-- The owning class, null for utility functions, which have none. -/
  className : Document
  kind : MethodKind
  bindingState : BindingState
  callStrategy : Option CallStrategy
  visibility : Visibility
  exposedName : Document
  arguments : List ArgumentStep
  returnStep : ReturnStep
  /-- Whether a call needs no instance, as the descriptor says it. -/
  isStatic : Document
  /-- Whether a call takes extra arguments, as the descriptor says it. -/
  isVararg : Document
  /-- The hash, null for virtual methods. -/
  abiHash : Document
  discardableResult : Bool

namespace MarshalingPlan

def isVirtual (plan : MarshalingPlan) : Bool :=
  plan.bindingState == .virtual

def takesExtras (plan : MarshalingPlan) : Bool :=
  plan.isVararg.isTruthy

/-- The number of declared arguments. -/
def declaredCount (plan : MarshalingPlan) : Nat :=
  plan.arguments.length

def requireExtras (plan : MarshalingPlan) : Except Failure Unit :=
  if plan.takesExtras then .ok ()
  else .error (Failure.raised (.badValue (.noExtraArguments plan.methodName)))

/-- The number of pointers in a call with extra arguments, which only a vararg method takes. -/
def pointerCount (plan : MarshalingPlan) (extraCount : Int) : Except Failure Int := do
  if extraCount != 0 then plan.requireExtras
  return plan.declaredCount + extraCount

end MarshalingPlan

end EngineBridge
