import EngineBridge.Descriptor.Document
import EngineBridge.Document.Order
import EngineBridge.Number.Conversion
import EngineBridge.Plan.Basic
import EngineBridge.Plan.Policy

/-!
Plans and policies written as documents.
-/

namespace EngineBridge

namespace ArgumentStep

def document (step : ArgumentStep) : Document :=
  .table [
    ("name", step.name),
    ("type", .table step.typeClass.description),
    ("storage", .text step.storage.name),
    ("take_address", .bool step.takeAddress),
    ("source", step.source),
    ("scratch", .ofText? step.scratch)]

end ArgumentStep

namespace ReturnStep

def document (step : ReturnStep) : Document :=
  .table [
    ("type", match step.typeClass with
      | some typeClass => .table typeClass.description
      | none => .null),
    ("storage", .text step.storage.name),
    ("conversion", .text step.conversion.name),
    ("default", step.default),
    ("pass_content", .bool step.passContent)]

end ReturnStep

namespace MarshalingPlan

def document (plan : MarshalingPlan) : Document :=
  .table [
    ("method", plan.methodName),
    ("class", plan.className),
    ("kind", .text plan.kind.name),
    ("binding_state", .text plan.bindingState.name),
    ("call_strategy", .ofText? (plan.callStrategy.map CallStrategy.name)),
    ("visibility", .text plan.visibility.name),
    ("exposed_name", plan.exposedName),
    ("is_static", plan.isStatic),
    ("is_vararg", plan.isVararg),
    ("hash", plan.abiHash),
    ("discardable_result", .bool plan.discardableResult),
    ("arguments", .array (plan.arguments.map ArgumentStep.document)),
    ("return", plan.returnStep.document)]

/-- The number of pointers in a call with as many extra arguments as a document says. The answer
is a number of the same kind: half an argument is counted as one half. -/
def pointerCountOf (plan : MarshalingPlan) (extraCount : Document) : Except Failure Document :=
  match extraCount with
  | .int count => return .int (← plan.pointerCount count)
  | .bool value => return .int (← plan.pointerCount (if value then 1 else 0))
  | .float count => do
      if extraCount.isTruthy then plan.requireExtras
      return .float ((← Number.floatOfInt plan.declaredCount) + count)
  | other => do
      if other.isTruthy then plan.requireExtras
      throw .wrongShape

end MarshalingPlan

namespace PolicyTable

def document : PolicyTable → Except Failure Document
  | .listed classes => do
      return .table (← classes.mapM fun entry => do
        return (entry.1.wording, .array (← Document.sorted entry.2)))
  | .byHand table => .ok table

end PolicyTable

end EngineBridge
