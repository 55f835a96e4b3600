import EngineBridge.Plan.Basic
import EngineBridge.Session.Variants

/-!
Arguments on their way to the engine.

Each argument becomes one operand: the address of some bytes, or a word in place of an address.
What is made for a call is released when the call is over, the last first, whether the call
succeeds or not; for that, the call is given as a continuation.
-/

namespace EngineBridge

/-- What is passed for one argument. -/
inductive Operand where
  | address (content : List UInt8)
  /-- A handle that is passed as it is. -/
  | handle (value : Value)

namespace Operand

/-- The pointer that stands for an operand. A handle has to be an integer, or nothing for the null
pointer. -/
def pointer : Operand → Except Failure Pointer
  | .address content => .ok (.address content)
  | .handle .nothing => .ok (.word 0)
  | .handle value => return .word (Number.wrapUnsigned (← value.exactInt))

/-- The pointers that stand for operands, in order. -/
def pointers (operands : List Operand) : Except Failure (List Pointer) :=
  operands.mapM pointer

end Operand

namespace Value

def handle : Value → Except Failure Value
  | .object _ handle => .ok handle
  | _ => .error .noSuchField

end Value

namespace TypeClass

def isEnumeration : TypeClass → Bool
  | .enumeration .. => true
  | _ => false

end TypeClass

namespace ArgumentStep

/-- The value that crosses: members of an enumeration cross as their numbers. -/
def crossing (step : ArgumentStep) (value : Value) : Value :=
  if step.typeClass.isEnumeration then value.ordinal else value

end ArgumentStep

def nativeBytes (form : NativeForm) (value : Value) : Except Failure (List UInt8) :=
  match form with
  | .truth => .ok [if value.isTruthy then 1 else 0]
  | .real => return Number.littleEndian 8 (← value.toReal).toBits.toNat
  | .word => return Number.wordBytes (← value.exactInt)

namespace Bridge

variable {α : Type}

/-- The bytes of a value that is passed by its address. For the owner of a boxed value or of a
native string these are the words that it holds, live or not. -/
def contentBytes : Value → Bridge (List UInt8)
  | .variant reference => do return (← variantCell reference).payload.bytes
  | .nativeString reference => do return Number.wordBytes (← stringCell reference).string
  | other =>
      match other.content? with
      | some content => return content
      | none => throw .noSuchField

/-- The text that is passed for a value: a text, or what a native string reads. -/
def crossingText : Value → Bridge String
  | .text text => return text
  | .nativeString reference => stringDescription reference
  | _ => throw .noSuchField

/-- A value passed by its address. A boxed value is passed as it is; where one is asked for, any
other value is boxed for the call. -/
def withAddress (typeClass : TypeClass) (value : Value) (use : Operand → Bridge α) : Bridge α :=
  match typeClass, value with
  | .primitive name _, value => do
      use (.address (← nativeBytes (TypeClass.primitiveForm name) value))
  | .builtin name _, .variant reference => do
      if name = variantType then use (.address (← livePayload reference).bytes)
      else use (.address (← contentBytes (.variant reference)))
  | .builtin name _, other => do
      if name = variantType then withBoxed other fun payload => use (.address payload.bytes)
      else use (.address (← contentBytes other))
  | _, other => do use (.address (← contentBytes other))

def withArgument (step : ArgumentStep) (value : Value) (use : Operand → Bridge α) : Bridge α :=
  match step.storage with
  | .variantBox =>
      withBoxed (step.crossing value) fun payload => use (.address payload.bytes)
  | .nativeString => do
      withString (← crossingText value) fun string => use (.address (Number.wordBytes string))
  | .scratchCopy => do
      use (.address (Number.wordBytes (← (step.crossing value).toInt)))
  | .handle =>
      match value with
      | .nothing => use (.handle .nothing)
      | other => do use (.handle (← other.handle))
  | .address => withAddress step.typeClass value use

/-- Store arguments one after the other, as many as there are steps for. -/
def withArguments : List ArgumentStep → List Value → (List Operand → Bridge α) → Bridge α
  | step :: steps, value :: values, use =>
      withArgument step value fun operand =>
        withArguments steps values fun operands => use (operand :: operands)
  | _, _, use => use []

def withExtras : List Value → (List Operand → Bridge α) → Bridge α
  | [], use => use []
  | value :: values, use =>
      withBoxed value fun payload =>
        withExtras values fun operands => use (.address payload.bytes :: operands)

end Bridge

end EngineBridge
