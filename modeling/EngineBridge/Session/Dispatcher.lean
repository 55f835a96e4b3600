import EngineBridge.Session.Arguments
import EngineBridge.Session.Cache
import EngineBridge.Session.Notation
import EngineBridge.Session.Results

/-!
The execution of plans.

A call checks its arguments against the plan before anything is asked of the engine. Then it
resolves the callable, stores the arguments, runs, and decodes the result. A call in which the
engine reports an error still has a result; the error is logged.
-/

namespace EngineBridge

/-- What executes plans. -/
structure Dispatcher where
  types : ResultTypes
  /-- Where resolved callables are kept. -/
  cache : CacheReference

namespace Dispatcher

def default : Dispatcher := ⟨ResultTypes.none, .shared⟩

end Dispatcher

/-- What a call is made with. -/
structure CallArguments where
  /-- The object whose method is called. -/
  receiver : Value
  declared : List Value
  extra : List Value

namespace MarshalingPlan

/-- Whether a call has as many arguments as the plan declares, and extra ones only where the plan
takes them. -/
def checkArguments (plan : MarshalingPlan) (arguments : CallArguments) : Except Failure Unit :=
  if arguments.declared.length != plan.declaredCount then
    .error (Failure.raised (.badKind
      (.argumentCount plan.exposedName plan.declaredCount arguments.declared.length)))
  else if !arguments.extra.isEmpty && !plan.takesExtras then
    .error (Failure.raised (.badKind (.extraArguments plan.exposedName)))
  else .ok ()

/-- The handle of the object that a call is made on, zero where there is none. An integer is a
handle itself. -/
def receiverHandle (plan : MarshalingPlan) (receiver : Value) : Except Failure Value :=
  if plan.isStatic.isTruthy || plan.kind == .utility then .ok (.int 0)
  else match receiver with
    | .nothing =>
        .error (Failure.raised (.badKind (.missingInstance plan.className plan.methodName)))
    | other => if other.integer?.isSome then .ok other else other.handle

end MarshalingPlan

namespace Bridge

/-- Run a callable. The landing comes back as it stands afterwards, whatever happened. -/
def invoke (callable : Callable) (strategy : CallStrategy) (receiver : Document)
    (pointers : List Pointer) (landing : Landing) :
    Bridge (Except Failure CallError × Landing) := do
  match callable, strategy with
  | .bind number, .directPointerCall => do
      runOn (← installedEngine) (Native.pointerCall number receiver pointers landing)
  | .bind number, .variantArrayCall => do
      runOn (← installedEngine) (Native.variantCall number receiver pointers landing)
  | .function engine name script, _ =>
      runOn engine (Native.utilityCall name script pointers landing)

def callErrorRecord (target : CallTarget) (error : CallError) : Log.Record :=
  Log.Record.plain Log.Level.warning "gdmarshal.dispatcher.call_dispatcher" "call_dispatcher"
    (target.wording ++ " reported call error " ++ Number.writeInt error.error ++ " (argument " ++
      Number.writeInt error.argument ++ ", expected " ++ Number.writeInt error.expected ++ ")")

/-- Run a callable and report its call error. After a failure the landing is released. -/
def invokeChecked (target : CallTarget) (callable : Callable) (plan : MarshalingPlan)
    (receiver : Document) (pointers : List Pointer) : Bridge (List UInt8) := do
  let landing ← plan.returnStep.landing
  let (outcome, landed) ←
    invoke callable (plan.callStrategy.getD .directPointerCall) receiver pointers landing
  let bytes := landed.getD []
  match outcome with
  | .error failure => do
      releaseLanding plan.returnStep.storage bytes
      throw failure
  | .ok error => do
      if error.error != 0 then emit (callErrorRecord target error)
      return bytes

def call (dispatcher : Dispatcher) (plan : MarshalingPlan) (arguments : CallArguments) :
    Bridge Value := do
  if plan.isVirtual then return Value.ofDocument plan.returnStep.default
  plan.checkArguments arguments
  let _ ← installedEngine
  let target ← CallTarget.ofPlan plan
  let callable ← resolve dispatcher.cache target
  let receiver ← plan.receiverHandle arguments.receiver
  withArguments plan.arguments arguments.declared fun declared =>
    withExtras arguments.extra fun extra => do
      let pointers ← Operand.pointers (declared ++ extra)
      let bytes ← invokeChecked target callable plan ((← get).document receiver) pointers
      decode dispatcher.types plan.returnStep bytes

end Bridge

end EngineBridge
