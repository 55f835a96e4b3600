import EngineBridge.Document.NameTable
import EngineBridge.Log.Record
import EngineBridge.Plan.Basic

/-!
The register of virtual methods: for each class, the methods through which the engine calls out.

Classes stand in the order of their first method and methods in the order of their first
registration; registering a method again changes nothing.
-/

namespace EngineBridge

/-- The virtual methods of each class. -/
structure VirtualRegistrar where
  byClass : NameTable (List Document)

namespace VirtualRegistrar

def empty : VirtualRegistrar := ⟨[]⟩

/-- The methods of a class in order, none if it has none. -/
def virtualMethods (registrar : VirtualRegistrar) (className : Document) :
    Except Failure (List Document) := do
  return (← registrar.byClass.get? className).getD []

def classes (registrar : VirtualRegistrar) : List Document :=
  registrar.byClass.names

def registeredRecord (className methodName : Document) : Log.Record :=
  Log.Record.plain Log.Level.debug "gdmarshal.registrar" "registrar"
    ("Registered virtual " ++ className.wording ++ "." ++ methodName.wording)

def register (registrar : VirtualRegistrar) (className methodName : Document) :
    Logged VirtualRegistrar := do
  let names ← registrar.virtualMethods className
  if names.any methodName.same then
    return ⟨← registrar.byClass.put className names⟩
  else
    Logged.emit (registeredRecord className methodName)
    return ⟨← registrar.byClass.put className (names ++ [methodName])⟩

/-- Register a plan if it is virtual, and say whether it was. A virtual method needs a class. -/
def registerPlan (registrar : VirtualRegistrar) (plan : MarshalingPlan) :
    Logged (VirtualRegistrar × Bool) :=
  if plan.isVirtual then
    match plan.className with
    | .null => throw (Failure.raised (.badValue (.virtualWithoutClass plan.methodName)))
    | className => do
        return (← registrar.register className plan.exposedName, true)
  else return (registrar, false)

def document (registrar : VirtualRegistrar) : Document :=
  .table (registrar.byClass.map fun entry => (entry.1.wording, .array entry.2))

end VirtualRegistrar

end EngineBridge
