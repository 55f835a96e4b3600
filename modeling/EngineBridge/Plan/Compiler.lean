import EngineBridge.Document.Shown
import EngineBridge.Log.Record
import EngineBridge.Plan.Basic
import EngineBridge.Plan.Draft
import EngineBridge.Plan.Policy
import EngineBridge.TypeClass.Classifier

/-!
Compiling methods into marshaling plans.

A signature with a raw pointer is refused before anything else. A method has an ABI hash exactly if
it is not virtual. Everything else that is well named compiles: each argument and the result get
the step that follows from their type class, and one trace record is left for each decision.
-/

namespace EngineBridge

structure PlanCompiler where
  classifier : TypeClassifier
  policy : BindingPolicy

namespace PlanCompiler

/-- A method with its class, where the class counts as one. -/
def location (className methodName : Document) : Document :=
  if className.isTruthy then .text (className.wording ++ "." ++ methodName.wording)
  else methodName

/-- The location of a method, which is a text of both names where the class counts as one. -/
def locate (className methodName : Document) : Except Failure Document := do
  Document.requireWritable (if className.isTruthy then [className, methodName] else [])
  return location className methodName

@[simp] theorem locate_texts (className : Option String) (methodName : String) :
    locate (.ofText? className) (.text methodName) =
      .ok (location (.ofText? className) (.text methodName)) := by
  unfold locate
  cases className <;> split <;> rfl

/-- The text of a type name, if it is that of a raw pointer. -/
def pointerName? : Document → Option String
  | .text typeName => if isRawPointer typeName then some typeName else none
  | _ => none

/-- The first raw pointer in a signature: its type, and where it stands. -/
def rawPointer? (draft : MethodDraft) : Option (String × String) :=
  let inArguments := draft.arguments.findSome? fun argument =>
    (pointerName? argument.typeName).map fun typeName =>
      (typeName, "argument '" ++ argument.name.wording ++ "'")
  let inResult := draft.returnValue.bind fun result =>
    (pointerName? result.typeName).map fun typeName => (typeName, "return value")
  inArguments.or inResult

/-- The name of the first argument that is a raw pointer, which its position quotes. -/
def pointerArgument? (draft : MethodDraft) : Option Document :=
  (draft.arguments.find? fun argument => (pointerName? argument.typeName).isSome).map
    ArgumentDraft.name

def hasHash (draft : MethodDraft) : Bool :=
  !(draft.abiHash matches .null)

/-- A method with a hash is bound and one without is virtual; the draft must agree. -/
def bindingState (draft : MethodDraft) (className : Document) : Except Failure BindingState :=
  match hasHash draft, draft.isVirtual with
  | true, false => .ok .bound
  | false, true => .ok .virtual
  | true, true => do
      let location ← locate className draft.name
      throw (Failure.raised (.invariant (.hashOnVirtual location draft.abiHash)))
  | false, false => do
      throw (Failure.raised (.invariant (.missingHash (← locate className draft.name))))

/-- The class of a type name, which has to be a text, together with the text. -/
def classifyName (compiler : PlanCompiler) (typeName metadata : Document) :
    Except Failure (String × TypeClass) :=
  match typeName with
  | .text name => .ok (name, compiler.classifier.classify name metadata)
  | _ => .error .noSuchField

/-- The step of an argument, by the class of its type. The reference is the name under which the
argument can be used. -/
def argumentStep (takesExtras : Bool) (name reference : Document) (typeName : String)
    (typeClass : TypeClass) : ArgumentStep :=
  let value := reference.wording
  let step := fun storage takeAddress source scratch =>
    (⟨name, typeClass, storage, takeAddress, source, scratch⟩ : ArgumentStep)
  let made := fun storage source lead =>
    step storage true (.text source) (some (lead ++ name.wording))
  if takesExtras then made .variantBox ("Variant(" ++ value ++ ")") "copy_"
  else if typeName = stringType then made .nativeString ("GString.from_str(" ++ value ++ ")") "gstr_"
  else if typeClass.needsCopy then
    match typeClass with
    | .enumeration .. => made .scratchCopy ("int(" ++ value ++ ".value)") "copy_"
    | _ => made .scratchCopy ("int(" ++ value ++ ")") "copy_"
  else match typeClass with
    | .classHandle _ => step .handle false (.text (value ++ ".handle")) none
    | .builtin .. | .typedArray .. => step .address true (.text (value ++ ".content")) none
    | _ => step .address true reference none

def readsMetadata (takesExtras : Bool) : TypeClass → Bool
  | .primitive name _ => !takesExtras && name = "int"
  | _ => false

/-- What is written into the texts of a step: the reference into a source that is made of it, and the
name of the argument into a scratch name. -/
def namesIn (step : ArgumentStep) (reference : Document) : List Document :=
  (if step.source.textValue?.isSome then [reference] else []) ++
    if step.scratch.isSome then [step.name] else []

theorem namesIn_writable {step : ArgumentStep} {name : String} (named : step.name = .text name)
    (reference : String) : Document.requireWritable (namesIn step (.text reference)) = .ok () := by
  unfold namesIn
  rw [named]
  split <;> split <;> rfl

/-- The step of the argument of a draft. The name has to be one under which something can be found,
and so does the metadata where the step depends on it. -/
def stepOf (compiler : PlanCompiler) (takesExtras : Bool) (argument : ArgumentDraft) :
    Except Failure ArgumentStep := do
  let (typeName, typeClass) ← compiler.classifyName argument.typeName argument.metadata
  let reference ← Naming.escaped.apply argument.name
  if readsMetadata takesExtras typeClass then
    let _ ← argument.metadata.keyOf
  let step := argumentStep takesExtras argument.name reference typeName typeClass
  Document.requireWritable (namesIn step reference)
  return step

/-- The step of a result, by the class of its type. -/
def returnStep (takesExtras : Bool) (typeName : String) (typeClass : TypeClass) : ReturnStep :=
  let step := fun storage conversion passContent =>
    (⟨some typeClass, storage, conversion, typeClass.defaultValue, passContent⟩ : ReturnStep)
  if takesExtras then
    if typeName = variantType then step .variant .identity false
    else step .variant .fromVariant false
  else if typeName = variantType then step .variant .identity true
  else match typeClass with
    | .typedArray .. => step .typedArray .wrapTypedArray false
    | other =>
        if typeName = stringType then step .nativeString .stringDescription true
        else match other with
          | .classHandle _ => step .handle .lookupObject false
          | .enumeration .. => step .intEnum .enumRawValue false
          | .builtin .. => step .value .identity true
          | _ => step .value .identity false

/-- The logger of the compiler, and that of its single decisions. -/
def compilerLogger : String := "gdmarshal.planner.plan_compiler"

def planLogger : String := "gdmarshal.plan"

def trace (message : String) (event : List (String × Document)) : Logged Unit :=
  Logged.emit { Log.Record.plain Log.Level.trace planLogger "logging" message with
    event := some (.table event) }

/-- The steps of the arguments in order, with a record for each. -/
def compileArguments (compiler : PlanCompiler) (draft : MethodDraft) :
    List ArgumentDraft → Logged (List ArgumentStep)
  | [] => pure []
  | argument :: rest => do
      let step ← compiler.stepOf draft.takesExtras argument
      trace (draft.name.wording ++ "." ++ argument.name.wording ++ " -> " ++ step.storage.name)
        [("method", draft.name), ("argument", argument.name),
          ("storage", .text step.storage.name)]
      return step :: (← compileArguments compiler draft rest)

/-- The step of the result, with a record if there is one. -/
def compileReturn (compiler : PlanCompiler) (draft : MethodDraft) : Logged ReturnStep :=
  match draft.returnValue with
  | none => pure ReturnStep.noReturn
  | some result => do
      let (typeName, typeClass) ← compiler.classifyName result.typeName result.metadata
      let step := returnStep draft.takesExtras typeName typeClass
      trace (draft.name.wording ++ " -> return " ++ step.storage.name)
        [("method", draft.name), ("storage", .text step.storage.name)]
      return step

/-- How a bound method is called; a virtual one is not. -/
def callStrategy (draft : MethodDraft) : BindingState → Option CallStrategy
  | .virtual => none
  | .bound => some (if draft.takesExtras then .variantArrayCall else .directPointerCall)

/-- Who sees a method, and under which name. -/
def exposure (compiler : PlanCompiler) (methodName className : Document) :
    BindingState → Except Failure (Visibility × Document)
  | .virtual => .ok (.open_, methodName)
  | .bound => do
      if ← compiler.policy.isUsedByProperty className methodName then
        return (.internal, methodName)
      else return (.public_, ← compiler.policy.naming.apply methodName)

def rejectPointers (draft : MethodDraft) (className : Document) : Except Failure Unit :=
  match rawPointer? draft with
  | some (typeName, position) => do
      let location ← locate className draft.name
      Document.requireWritable (pointerArgument? draft).toList
      throw (Failure.raised (.unsupportedSignature location typeName position))
  | none => .ok ()

def compiledRecord (plan : MarshalingPlan) : Log.Record :=
  let strategy := match plan.callStrategy with
    | some strategy => strategy.name
    | none => "-"
  Log.Record.plain Log.Level.debug compilerLogger "plan_compiler"
    ("Compiled " ++ (location plan.className plan.methodName).wording ++ ": " ++
      plan.bindingState.name ++ "/" ++ strategy ++ " with " ++
      Number.writeInt plan.arguments.length ++ " argument step(s), return " ++
      plan.returnStep.storage.name)

def compile (compiler : PlanCompiler) (draft : MethodDraft) (className : Document)
    (kind : MethodKind) : Logged MarshalingPlan := do
  rejectPointers draft className
  let state ← bindingState draft className
  let arguments ← compileArguments compiler draft draft.arguments
  let returnStep ← compileReturn compiler draft
  let (visibility, exposedName) ← compiler.exposure draft.name className state
  let discardableResult ← compiler.policy.isDiscardable className draft.name
  let plan : MarshalingPlan := {
    methodName := draft.name
    className
    kind
    bindingState := state
    callStrategy := callStrategy draft state
    visibility
    exposedName
    arguments
    returnStep
    isStatic := draft.isStatic
    isVararg := draft.isVararg
    abiHash := draft.abiHash
    discardableResult }
  let _ ← locate className draft.name
  Logged.emit (compiledRecord plan)
  return plan

end PlanCompiler

end EngineBridge
