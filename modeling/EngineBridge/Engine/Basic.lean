import EngineBridge.Document.Key
import EngineBridge.Engine.Held

/-!
The engine: numbered value slots and native strings, and a register of callables.

Slots and strings are numbered by one counter. Number zero is nil, or the empty string; it can be
used and released freely. Any other number is good from its construction to its release, and using
or releasing it after that is a fault. Everything the engine is asked for is kept as an event.
-/

namespace EngineBridge

/-- How a native callable reads one of its arguments. -/
inductive ReadForm where
  | int
  | bool
  | float
  | string
  | handle
  /-- The type and the content of a boxed value. -/
  | variant
  | hex (count : Nat)
deriving DecidableEq, Repr

/-- What a native callable saw of one argument. -/
inductive Seen where
  | absent
  | held (content : Held)
  | variant (typeNumber : Int) (content : Held)
  | hex (content : List UInt8)

/-- What a native callable writes to its result. -/
inductive WriteForm where
  | int (value : Int)
  | bool (value : Int)
  | float (value : Float)
  | string (text : String)
  | handle (value : Int)
  | hex (content : List UInt8)
  | variant (typeNumber : Int) (content : Held)
  | nil
  /-- A copy of the boxed value in an argument; a negative index counts from the end. -/
  | copyArgument (index : Int)
  /-- Something that cannot be written. -/
  | refused (failure : Failure)

/-- The report of a call in which something went wrong; zero means that nothing did. -/
structure CallError where
  error : Int
  argument : Int
  expected : Int
deriving DecidableEq, Repr

namespace CallError

def ok : CallError := ⟨0, 0, 0⟩

end CallError

/-- What a native callable does: it reads its arguments, writes its result, may fail, and may
report an error. -/
structure NativeScript where
  reads : List ReadForm
  writes : List WriteForm
  /-- Read every argument as a boxed value. -/
  isVararg : Bool
  failure : Option String
  error : CallError

/-- What a callable sees when it is entered. -/
structure CallView where
  pointerCount : Nat
  seen : List Seen
  /-- Whether there is an address for the result. -/
  hasResult : Bool
  liveSlots : Nat
  liveStrings : Nat

/-- What the engine was asked for, in the order of happening. -/
inductive Event where
  /-- The construction routines of all types were looked up. -/
  | tables
  | fromType (typeNumber : Nat) (slot : Int) (content : Held)
  | toType (typeNumber : Nat) (slot : Int)
  | newNil (slot : Int)
  | newCopy (slot source : Int)
  | destroy (slot : Int)
  | getType (slot : Int)
  | evaluate (operator : Nat) (left right result : Int) (content : Held) (valid : Document)
  | hash (slot : Int)
  | stringify (slot string : Int)
  | stringNew (string : Int) (text : String)
  | stringRead (string : Int) (hasBuffer : Bool) (maxLength : Nat)
  | stringDestroy (string : Int)
  | methodLookup (className methodName hash : Document) (found : Nat)
  | utilityLookup (name hash : Document) (found : Bool)
  | pointerCall (bind : Nat) (target : Document) (view : CallView)
  | variantCall (bind : Nat) (target : Document) (count : Nat) (view : CallView)
  | utilityCall (name : Document) (count : Nat) (view : CallView)
  | resultString (string : Int)
  | resultVariant (slot : Int)

/-- The key of a method: that of its class, of its name and of its hash. -/
abbrev MethodKey := Document.Key × Document.Key × Document.Key

/-- The key of a utility function: that of its name and of its hash. -/
abbrev UtilityKey := Document.Key × Document.Key

/-- The answer of an engine that compares values in a way of its own. -/
structure FixedAnswer where
  typeNumber : Int
  content : Held
  /-- Whether the values could be compared, as it is written. -/
  valid : Document

structure Engine where
  /-- The name of the kind of engine, as it is logged. -/
  kindName : String
  /-- The live slots, each with a type number and a content. -/
  slots : List (Int × Int × Held)
  strings : List (Int × String)
  /-- The number of the next slot or string. -/
  next : Int
  methods : List (MethodKey × Nat)
  /-- What the methods do, by the numbers under which they are called. -/
  scripts : List (Nat × NativeScript)
  utilities : List (UtilityKey × NativeScript)
  /-- The types for which no construction routines exist. -/
  missing : List Int
  fixedAnswer : Option FixedAnswer
  /-- How many construction routines were looked up. -/
  fromLookups : Nat
  toLookups : Nat
  events : List Event

/-- What is done inside the engine: it may fail, and what it did before stays done. -/
abbrev Native := ExceptT Failure (StateM Engine)

namespace Engine

def fresh (kindName : String) (missing : List Int) (fixedAnswer : Option FixedAnswer) : Engine where
  kindName
  slots := []
  strings := []
  next := 1
  methods := []
  scripts := []
  utilities := []
  missing
  fixedAnswer
  fromLookups := 0
  toLookups := 0
  events := []

def liveSlots (engine : Engine) : Nat :=
  engine.slots.length

def liveStrings (engine : Engine) : Nat :=
  engine.strings.length

def slot? (engine : Engine) (slot : Int) : Option (Int × Held) :=
  engine.slots.lookup slot

/-- The text of a native string; one that is gone reads as empty. -/
def stringAt (engine : Engine) (string : Int) : String :=
  (engine.strings.lookup string).getD ""

/-- The first number under which a method is called. -/
def firstBind : Nat := 4096

/-- Enter a method, in place of an earlier one with its key. Its number is new in any case. -/
def addMethod (engine : Engine) (key : MethodKey) (script : NativeScript) : Engine × Nat :=
  let bind := firstBind + engine.scripts.length
  ({ engine with
      methods := (key, bind) :: engine.methods.filter fun entry => entry.1 != key
      scripts := (bind, script) :: engine.scripts }, bind)

/-- Enter a utility function, in place of an earlier one with its key. -/
def addUtility (engine : Engine) (key : UtilityKey) (script : NativeScript) : Engine :=
  { engine with
      utilities := (key, script) :: engine.utilities.filter fun entry => entry.1 != key }

end Engine

namespace Native

def happen (event : Event) : Native Unit :=
  modify fun engine => { engine with events := engine.events ++ [event] }

def freshNumber : Native Int := do
  let engine ← get
  set { engine with next := engine.next + 1 }
  return engine.next

def newSlot (typeNumber : Int) (content : Held) : Native Payload := do
  let slot ← freshNumber
  modify fun engine => { engine with slots := (slot, typeNumber, content) :: engine.slots }
  return ⟨typeNumber, slot, 0⟩

def newString (text : String) : Native Int := do
  let string ← freshNumber
  modify fun engine => { engine with strings := (string, text) :: engine.strings }
  return string

/-- The content of a slot. Slot zero is nil; using any other slot that is not live is a fault. -/
def load (payload : Payload) : Native (Int × Held) := do
  if payload.slot == 0 then return (GType.nil.number, .nothing)
  match (← get).slot? payload.slot with
  | some content => return content
  | none =>
      throw (.engineFault ("use of dead Variant slot " ++ Number.writeInt payload.slot))

end Native

end EngineBridge
