import EngineBridge.Session.Strings
import EngineBridge.Session.Tables

/-!
Boxed values and their owners.

A value is boxed by exactly one construction and released by exactly one destruction. Reading a
value gives nothing if it is of another type. What a boxed value is asked for goes through its
payload; an owner gives out the payload only while it has not released it.
-/

namespace EngineBridge.Bridge

variable {α : Type}

def variantCell (reference : Nat) : Bridge VariantCell := do
  match (← get).variants[reference]? with
  | some cell => return cell
  | none => throw .noSuchKey

def livePayload (reference : Nat) : Bridge Payload := do
  let cell ← variantCell reference
  if cell.isAlive then return cell.payload else throw (.lifetime .variantUsedAfterDestroy)

def construct (tables : FunctionTables) (gtype : GType) (source : List UInt8) : Bridge Payload := do
  let routine ← tables.fromRoutine gtype.number
  nativeOn routine.engine (Native.fromType routine.gtype source)

/-- The type and the native form of a value that is neither nil, nor boxed, nor a text. -/
def typedSource : Value → Bridge (GType × List UInt8)
  | .bool value => return (.bool, [if value then 1 else 0])
  | .int value => return (.int, Number.wordBytes value)
  | .float value | .keptFloat _ value =>
      return (.float, Number.littleEndian 8 value.toBits.toNat)
  | .enumerator _ _ number => return (.int, Number.wordBytes number)
  | .nativeString reference => do
      return (.string, Number.wordBytes (← liveString reference))
  | .typedArray _ content => return (.array, content)
  | .opaqueValue typeName content => return (← GType.ofTypeName typeName, content)
  | .object className handle =>
      match handle.integer? with
      | some number => return (.object, Number.wordBytes number)
      | none => throw (.badKind (.cannotBox (Value.object className handle).kindName))
  | other => throw (.badKind (.cannotBox other.kindName))

def box (value : Value) : Bridge Payload := do
  let _ ← installedEngine
  match value with
  | .nothing => native Native.newNil
  | .variant reference => do native (Native.newCopy (← livePayload reference))
  | .text text => do
      let tables ← functionTables
      withString text fun string => construct tables .string (Number.wordBytes string)
  | other => do
      let tables ← functionTables
      let (gtype, source) ← typedSource other
      construct tables gtype source

def destroyPayload (payload : Payload) : Bridge Unit :=
  native (Native.destroy payload)

def withBoxed (value : Value) (operation : Payload → Bridge α) : Bridge α := do
  let payload ← box value
  releasing (operation payload) (destroyPayload payload)

def adopt (payload : Payload) : Bridge Nat := do
  let session ← get
  set { session with variants := session.variants ++ [VariantCell.mk payload true] }
  return session.variants.length

def newVariant (value : Value) : Bridge Nat := do
  adopt (← box value)

def destroyVariant (reference : Nat) : Bridge Unit := do
  let cell ← variantCell reference
  if cell.isAlive then
    destroyPayload cell.payload
    modify fun session =>
      { session with variants := session.variants.set reference { cell with isAlive := false } }
  else throw (.lifetime .variantDestroyedTwice)

/-- Use an owner for the time of an operation; its value is released at the end unless it was
released before. -/
def usingVariant (reference : Nat) (operation : Bridge α) : Bridge α :=
  releasing operation do
    if (← variantCell reference).isAlive then destroyVariant reference

/-- The type of a boxed value. A number that no type has counts as nil. -/
def typeOf (address : Bridge Payload) : Bridge GType := do
  let _ ← installedEngine
  let typeNumber ← native (Native.getType (← address))
  return (GType.ofNumber? typeNumber).getD .nil

/-- The native form of a boxed value as a type. The routine is looked up before the payload. -/
def toNative (typeNumber : Int) (address : Bridge Payload) : Bridge (List UInt8) := do
  let tables ← functionTables
  let routine ← tables.toRoutine typeNumber
  let payload ← address
  nativeOn routine.engine (Native.toType routine.gtype payload)

def readAs (gtype : GType) (address : Bridge Payload) (decode : List UInt8 → Bridge α) :
    Bridge (Option α) := do
  if (← typeOf address) == gtype then return some (← decode (← toNative gtype.number address))
  else return none

def readBool (address : Bridge Payload) : Bridge (Option Bool) :=
  readAs .bool address fun bytes => return Number.bytesAt bytes 1 != [0]

def readInt (address : Bridge Payload) : Bridge (Option Int) :=
  readAs .int address fun bytes => return Number.signedWordAt bytes 0

def readFloat (address : Bridge Payload) : Bridge (Option Float) :=
  readAs .float address fun bytes => return Float.ofBits (Number.wordAt bytes 0).toUInt64

def readText (address : Bridge Payload) : Bridge (Option String) :=
  readAs .string address fun bytes => takeString (Number.signedWordAt bytes 0)

/-- The kinds of values that a boxed value can be converted to. -/
inductive PlainKind where
  | bool
  | int
  | float
  | text
deriving DecidableEq, Repr

/-- Convert a boxed value, if it is of the kind. -/
def convert (kind : PlainKind) (address : Bridge Payload) : Bridge (Option Value) :=
  match kind with
  | .bool => do return (← readBool address).map .bool
  | .int => do return (← readInt address).map .int
  | .float => do return (← readFloat address).map .float
  | .text => do return (← readText address).map .text

def display (address : Bridge Payload) : Bridge String := do
  let _ ← installedEngine
  takeString (← native (Native.stringify (← address)))

def hash (address : Bridge Payload) : Bridge Nat := do
  let _ ← installedEngine
  native (Native.hash (← address))

/-- Whether two boxed values are equal, as the engine compares them. Values that cannot be compared
are not. -/
def equalVariants (left right : Bridge Payload) : Bridge Bool := do
  let _ ← installedEngine
  let first ← left
  let second ← right
  let (result, valid) ← native (Native.evaluateEqual first second)
  releasing
    (if valid then return (← readBool (pure result)).getD false else return false)
    (destroyPayload result)

def shownVariant (reference : Nat) : Bridge String := do
  let cell ← variantCell reference
  if cell.isAlive then
    let gtype ← typeOf (livePayload reference)
    return "Variant(" ++ gtype.name ++ ": " ++ (← display (livePayload reference)) ++ ")"
  else return "Variant(<destroyed>)"

mutual

/-- Equality of values. Boxed values are compared by the engine, objects and lists part by part, and
all else by itself. Lists of different lengths are different, and so are objects of different
classes; neither takes the engine. -/
def equalValues : Value → Value → Bridge Bool
  | .variant left, .variant right => equalVariants (livePayload left) (livePayload right)
  | .object leftClass leftHandle, .object rightClass rightHandle =>
      if !leftClass.same rightClass then return false
      else if leftHandle.isSameThing rightHandle then return true
      else equalValues leftHandle rightHandle
  | .list left, .list right =>
      if left.length == right.length then equalItems left right else return false
  | left, right => return left.equalsAlone right

/-- Equality of the items of lists, up to the first that differ. -/
def equalItems : List Value → List Value → Bridge Bool
  | [], [] => return true
  | left :: lefts, right :: rights => do
      if left.isSameThing right then equalItems lefts rights
      else if ← equalValues left right then equalItems lefts rights
      else return false
  | _, _ => return false

end

end EngineBridge.Bridge
