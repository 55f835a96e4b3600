import EngineBridge.Binding.Registrar
import EngineBridge.Plan.Compiler
import EngineBridge.Plan.Document

/-!
Binding classes: the plans of all methods of a class.

A method whose signature holds a raw pointer is skipped with a warning; any other failure ends the
binding. Virtual methods are entered in the register as they are met, so that a binding that ends
early leaves behind those that it met before.
-/

namespace EngineBridge

/-- The result of binding a class. Plans and skipped methods stand under the name of the method. -/
structure ClassBinding where
  className : Document
  kind : MethodKind
  plans : NameTable MarshalingPlan
  virtualMethods : List Document
  /-- Why each skipped method was skipped. -/
  skipped : NameTable String

namespace ClassBinding

def empty (className : Document) (kind : MethodKind) : ClassBinding :=
  ⟨className, kind, [], [], []⟩

def document (binding : ClassBinding) : Document :=
  .table [
    ("class", binding.className),
    ("kind", .text binding.kind.name),
    ("plans", .array (binding.plans.values.map MarshalingPlan.document)),
    ("virtual_methods", .array binding.virtualMethods),
    ("skipped", .table (binding.skipped.map fun entry => (entry.1.wording, .text entry.2)))]

def binderLogger : String := "gdmarshal.binder"

def skippedRecord (reason : String) : Log.Record :=
  Log.Record.plain Log.Level.warning binderLogger "binder" ("Skipping " ++ reason)

def boundRecord (binding : ClassBinding) : Log.Record :=
  let subject := if binding.className.isTruthy then binding.className.wording
    else "utility functions"
  Log.Record.plain Log.Level.info binderLogger "binder"
    ("Bound " ++ subject ++ ": " ++ Number.writeInt binding.plans.length ++ " plan(s), " ++
      Number.writeInt binding.virtualMethods.length ++ " virtual, " ++
      Number.writeInt binding.skipped.length ++ " skipped")

end ClassBinding

/-- What a binder is made of, and what it has come to: the register outlives each binding. -/
structure BinderState where
  binding : ClassBinding
  registrar : VirtualRegistrar

namespace BinderState

def addMethod (compiler : PlanCompiler) (state : BinderState) (draft : MethodDraft) :
    Logged BinderState := do
  let binding := state.binding
  match ← (compiler.compile draft binding.className binding.kind).attempt with
  | .error (.unsupportedSignature location typeName position) =>
      let reason :=
        ((Failure.unsupportedSignature location typeName position).message).getD ""
      Logged.emit (ClassBinding.skippedRecord reason)
      let skipped ← binding.skipped.put draft.name reason
      return { state with binding := { binding with skipped } }
  | .error failure => throw failure
  | .ok plan =>
      let plans ← binding.plans.put draft.name plan
      let (registrar, isVirtual) ← state.registrar.registerPlan plan
      let virtualMethods :=
        if isVirtual then binding.virtualMethods ++ [plan.exposedName] else binding.virtualMethods
      return { binding := { binding with plans, virtualMethods }, registrar }

end BinderState

/-- A binding attempt: the register as it stands afterwards, in any case, and the outcome. -/
structure BindResult where
  registrar : VirtualRegistrar
  outcome : Except Failure ClassBinding

namespace BindResult

/-- Add methods one after the other. The register keeps what was entered before a failure. -/
def addMethods (compiler : PlanCompiler) : List MethodDraft → BinderState → Logged BindResult
  | [], state => do
      Logged.emit state.binding.boundRecord
      return ⟨state.registrar, .ok state.binding⟩
  | draft :: rest, state => do
      match ← (state.addMethod compiler draft).attempt with
      | .ok next => addMethods compiler rest next
      | .error failure => return ⟨state.registrar, .error failure⟩

end BindResult

/-- Bind the methods of a class, or the utility functions if there is no class. -/
def bindMethods (compiler : PlanCompiler) (registrar : VirtualRegistrar)
    (className : Document) (drafts : List MethodDraft) (kind : MethodKind) :
    Logged BindResult :=
  BindResult.addMethods compiler drafts ⟨ClassBinding.empty className kind, registrar⟩

def bindUtilities (compiler : PlanCompiler) (registrar : VirtualRegistrar)
    (drafts : List MethodDraft) : Logged BindResult :=
  bindMethods compiler registrar .null drafts .utility

end EngineBridge
