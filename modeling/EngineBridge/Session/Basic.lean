import EngineBridge.Engine.Calls
import EngineBridge.Log.Record
import EngineBridge.Session.Value

/-!
Sessions: everything that outlives a single operation on the caller's side.

A session knows the engines that were made and which of them is installed, the owners of boxed
values and native strings, and the two kinds of memory of what the engine was asked for: the
function tables and the caches of callables. An operation may fail; what it has done by then stays
done.
-/

namespace EngineBridge

/-- The owner of a boxed value. -/
structure VariantCell where
  payload : Payload
  isAlive : Bool

/-- The owner of a native string. -/
structure StringCell where
  string : Int
  isAlive : Bool

/-- A construction routine of a type, as an engine gave it out. -/
structure Routine where
  engine : String
  gtype : GType
deriving DecidableEq, Repr

/-- The construction routines by type number. The place of nil is empty. -/
structure FunctionTables where
  fromType : List (Option Routine)
  toType : List (Option Routine)

/-- What a resolved callable is known by: the kind of its target, and the keys of its names and of
its hash. -/
inductive TargetKey where
  | method (className methodName hash : Document.Key)
  | utility (name hash : Document.Key)
deriving DecidableEq, Repr

/-- A callable that an engine gave out. -/
inductive Callable where
  /-- The number under which a method is called. -/
  | bind (number : Nat)
  | function (engine : String) (name : Document) (script : NativeScript)

abbrev BindingCache := List (TargetKey × Callable)

/-- Where a dispatcher keeps its callables. -/
inductive CacheReference where
  /-- The cache that is cleared when another engine is installed. -/
  | shared
  | own (index : Nat)
deriving DecidableEq, Repr

structure Session where
  engines : Entries Engine
  installed : Option String
  variants : List VariantCell
  strings : List StringCell
  tables : Option FunctionTables
  sharedCache : BindingCache
  ownCaches : List BindingCache
  records : List Log.Record

namespace Session

def empty : Session := ⟨[], none, [], [], none, [], [], []⟩

def engine? (session : Session) : Option Engine :=
  session.installed.bind session.engines.get?

end Session

abbrev Bridge := ExceptT Failure (StateM Session)

namespace Bridge

variable {α β : Type}

def emit (record : Log.Record) : Bridge Unit :=
  modify fun session => { session with records := session.records ++ [record] }

def installedEngine : Bridge String := do
  match (← get).installed with
  | some name => return name
  | none => throw .noEngine

def runOn (name : String) (action : StateM Engine α) : Bridge α := do
  match (← get).engines.get? name with
  | none => throw .noEngine
  | some engine => do
      let (value, changed) := action.run engine
      modify fun session => { session with engines := session.engines.put name changed }
      return value

def nativeOn (name : String) (action : Native α) : Bridge α := do
  match ← runOn name action.run with
  | .ok value => return value
  | .error failure => throw failure

def native (action : Native α) : Bridge α := do
  nativeOn (← installedEngine) action

def attempt (operation : Bridge α) : Bridge (Except Failure α) :=
  fun session => operation.run.run session |>.map Except.ok id

/-- Run an operation and then a release, in any case. A failure of the release takes the place of
the outcome. -/
def releasing (operation : Bridge α) (release : Bridge Unit) : Bridge α := do
  let outcome ← attempt operation
  release
  match outcome with
  | .ok value => return value
  | .error failure => throw failure

/-- Install an engine, or none. Everything that was resolved from an earlier engine is forgotten,
then the given hooks are run. -/
def installEngine (name : Option String) (hooks : List (Bridge Unit)) : Bridge Unit := do
  modify fun session =>
    { session with installed := name, sharedCache := [], tables := none }
  hooks.forM id
  let kindName := match (← get).engine? with
    | some engine => engine.kindName
    | none => Document.null.wording
  emit (Log.Record.plain Log.Level.debug "gdmarshal.engine" "engine" ("Engine set to " ++ kindName))

end Bridge

end EngineBridge
