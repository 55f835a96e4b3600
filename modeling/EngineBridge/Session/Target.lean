import EngineBridge.Plan.Basic
import EngineBridge.Session.Basic

/-!
Where a call goes: a method of a class, or a utility function.

Both kinds of targets are called in the same two ways; what differs is how the engine is asked for
the callable.
-/

namespace EngineBridge

inductive CallTarget where
  | method (className methodName hash : Document)
  | utility (name hash : Document)

namespace CallTarget

/-- The target of the calls of a plan. Virtual methods have none. -/
def ofPlan (plan : MarshalingPlan) : Except Failure CallTarget :=
  match plan.abiHash, plan.kind, plan.className with
  | .null, _, _ => .error (Failure.raised (.invariant (.virtualTarget plan.methodName)))
  | hash, .utility, _ => .ok (.utility plan.methodName hash)
  | _, .classMethod, .null =>
      .error (Failure.raised (.invariant (.noOwningClass plan.methodName)))
  | hash, .classMethod, className => .ok (.method className plan.methodName hash)

def key : CallTarget → Except Failure TargetKey
  | .method className methodName hash => do
      return .method (← className.keyOf) (← methodName.keyOf) (← hash.keyOf)
  | .utility name hash => do return .utility (← name.keyOf) (← hash.keyOf)

/-- The parts of a target as they are written: the word for its kind, its names and its hash. -/
def parts : CallTarget → List Document
  | .method className methodName hash => [.text "method", className, methodName, hash]
  | .utility name hash => [.text "utility", name, hash]

/-- The target of the given parts, if they are those of one. -/
def ofParts? : List Document → Option CallTarget
  | [.text "method", className, methodName, hash] => some (.method className methodName hash)
  | [.text "utility", name, hash] => some (.utility name hash)
  | _ => none

/-- The parts of a target give the target back. -/
theorem ofParts?_parts (target : CallTarget) : ofParts? target.parts = some target := by
  cases target <;> rfl

def kindName : CallTarget → String
  | .method .. => "MethodBindTarget"
  | .utility .. => "UtilityFunctionTarget"

/-- A target as records name it. -/
def wording : CallTarget → String
  | .method className methodName hash =>
      (method className methodName hash).kindName ++ "(" ++ className.wording ++ "." ++
        methodName.wording ++ ")"
  | .utility name hash => (utility name hash).kindName ++ "(" ++ name.wording ++ ")"

example : (method (.text "Node") (.text "add") (.int 7)).wording = "MethodBindTarget(Node.add)" := rfl

/-- What is broken by an engine that does not have a target. -/
def absence : CallTarget → BrokenInvariant
  | .method className methodName hash => .noMethodBind className methodName hash
  | .utility name hash => .noUtilityFunction name hash

/-- Ask the installed engine for the callable. An engine that has none breaks its contract. -/
def resolve : CallTarget → Bridge Callable
  | .method className methodName hash => do
      let bind ← Bridge.native (Native.lookUpMethod className methodName hash)
      if bind == 0 then
        throw (Failure.raised (.invariant (method className methodName hash).absence))
      else return .bind bind
  | .utility name hash => do
      let engine ← Bridge.installedEngine
      match ← Bridge.native (Native.lookUpUtility name hash) with
      | some script => return .function engine name script
      | none => throw (Failure.raised (.invariant (utility name hash).absence))

end CallTarget

end EngineBridge
