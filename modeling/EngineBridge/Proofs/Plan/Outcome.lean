import EngineBridge.Proofs.Descriptor.FromJson
import EngineBridge.Proofs.Plan.Compiled
import EngineBridge.Proofs.TypeClass.Bundled

/-!
The outcome of compiling a described method.

A signature with a raw pointer is refused, whatever else is wrong with the method. After that a hash
has to be there exactly if the method is not virtual. Every other method compiles, and
`PlanCompiler.IsPlanFor` says what its plan is. This holds for all tables of sizes and classes, and
for all policies whose tables list method names.

What is said against a virtual method quotes its hash. A hash that cannot be written takes the place
of the refusal with its own failure; no JSON text holds such a hash.
-/

namespace EngineBridge

theorem Logged.outcome_bind_of_ok {α β : Type} {first : Logged α} {value : α} (next : α → Logged β)
    (succeeded : first.outcome = .ok value) :
    (first >>= next).outcome = (next value).outcome := by
  rw [bind_of_ok next succeeded]

namespace PolicyTable

/-- Whether a table that was put together by hand gives a collection of names to each class. -/
def WellTyped : PolicyTable → Prop
  | .listed _ => True
  | .byHand table => ∃ entries, table = .table entries ∧
      ∀ entry ∈ entries, ∃ names, entry.2 = Document.array names

theorem classKey_ofText? (className : Option String) :
    ∃ key, classKey (.ofText? className) = .text key := by
  cases className with
  | none => exact ⟨utilityKey, rfl⟩
  | some name => exact ⟨name, rfl⟩

theorem lists_byHand {className : Document} {key : String} (keyed : classKey className = .text key)
    (entries : List (String × Document)) (methodName : String) :
    (byHand (.table entries)).lists className (.text methodName) =
      match Entries.get? entries key with
      | some container => container.holds (.text methodName)
      | none => .ok false := by
  simp only [lists, keyed]
  rfl

theorem exists_lists_eq_ok {table : PolicyTable} (typed : table.WellTyped)
    (className : Option String) (methodName : String) :
    ∃ listed, table.lists (.ofText? className) (.text methodName) = .ok listed := by
  obtain ⟨key, keyed⟩ := classKey_ofText? className
  cases table with
  | listed classes =>
      simp only [lists, keyed]
      exact ⟨_, rfl⟩
  | byHand table =>
      obtain ⟨entries, rfl, collections⟩ := typed
      rw [lists_byHand keyed]
      cases found : Entries.get? entries key with
      | none => exact ⟨false, rfl⟩
      | some container =>
          obtain ⟨names, rfl⟩ := collections (key, container) (mem_of_lookup found)
          exact ⟨_, rfl⟩

end PolicyTable

/-- Whether the tables of a policy list method names. How methods are named does not matter. -/
structure BindingPolicy.WellTyped (policy : BindingPolicy) : Prop where
  usedByProperty : policy.usedByProperty.WellTyped
  discardableResult : policy.discardableResult.WellTyped

namespace MethodDescriptor

/-- A raw pointer type stands somewhere in the signature. -/
def HasPointer (descriptor : MethodDescriptor) : Prop :=
  ∃ typeName ∈ descriptor.typeNames, '*' ∈ typeName.toList

instance (descriptor : MethodDescriptor) : Decidable descriptor.HasPointer :=
  inferInstanceAs (Decidable (∃ typeName ∈ descriptor.typeNames, '*' ∈ typeName.toList))

/-- The raw pointer type that comes first in a signature, and the place that it has there. The
result comes after all arguments. -/
inductive FirstPointer (descriptor : MethodDescriptor) : String → String → Prop
  | argument {before after : List Argument} {argument : Argument}
      (split : descriptor.arguments = before ++ argument :: after)
      (plain : ∀ earlier ∈ before, '*' ∉ earlier.typeName.toList)
      (pointer : '*' ∈ argument.typeName.toList) :
      FirstPointer descriptor argument.typeName ("argument '" ++ argument.name ++ "'")
  | result {result : ReturnValue}
      (plain : ∀ argument ∈ descriptor.arguments, '*' ∉ argument.typeName.toList)
      (given : descriptor.returnValue = some result) (pointer : '*' ∈ result.typeName.toList) :
      FirstPointer descriptor result.typeName "return value"

theorem FirstPointer.hasPointer {descriptor : MethodDescriptor} {typeName position : String}
    (first : descriptor.FirstPointer typeName position) : descriptor.HasPointer := by
  cases first with
  | argument split plain pointer =>
      refine ⟨_, ?_, pointer⟩
      simp [typeNames, split]
  | result plain given pointer =>
      refine ⟨_, ?_, pointer⟩
      simp [typeNames, given]

end MethodDescriptor

namespace PlanCompiler

theorem pointerName?_text (typeName : String) :
    pointerName? (.text typeName) = if '*' ∈ typeName.toList then some typeName else none := by
  simp [pointerName?, isRawPointer, Text.holds]

/-- What the search for a raw pointer makes of one argument. -/
private def pointerOf (argument : Argument) : Option (String × String) :=
  if '*' ∈ argument.typeName.toList then
    some (argument.typeName, "argument '" ++ argument.name ++ "'")
  else none

private theorem pointerOf_eq_none {argument : Argument} :
    pointerOf argument = none ↔ '*' ∉ argument.typeName.toList := by
  simp [pointerOf]

private theorem rawPointer?_ofDescriptor (descriptor : MethodDescriptor) :
    rawPointer? (.ofDescriptor descriptor) =
      (descriptor.arguments.findSome? pointerOf).or (descriptor.returnValue.bind fun result =>
        if '*' ∈ result.typeName.toList then some (result.typeName, "return value") else none) := by
  simp only [rawPointer?, MethodDraft.ofDescriptor, List.findSome?_map, Option.bind_map]
  congr 1
  · congr 1
    funext argument
    simp only [Function.comp, ArgumentDraft.ofArgument, pointerName?_text, pointerOf]
    split <;> rfl
  · congr 1
    funext result
    simp only [Function.comp, ReturnDraft.ofReturnValue, pointerName?_text]
    split <;> rfl

/-- A pointer that is found is the first one. -/
theorem firstPointer_of_rawPointer? {descriptor : MethodDescriptor} {typeName position : String}
    (found : rawPointer? (.ofDescriptor descriptor) = some (typeName, position)) :
    descriptor.FirstPointer typeName position := by
  rw [rawPointer?_ofDescriptor, Option.or_eq_some_iff] at found
  rcases found with found | ⟨plain, found⟩
  · obtain ⟨before, argument, after, split, here, plain⟩ := List.findSome?_eq_some_iff.mp found
    obtain ⟨pointer, here⟩ := Option.ite_none_right_eq_some.mp here
    cases here
    exact .argument split (fun earlier member => pointerOf_eq_none.mp (plain earlier member)) pointer
  · obtain ⟨result, given, here⟩ := Option.bind_eq_some_iff.mp found
    obtain ⟨pointer, here⟩ := Option.ite_none_right_eq_some.mp here
    cases here
    exact .result
      (fun argument member => pointerOf_eq_none.mp (List.findSome?_eq_none_iff.mp plain _ member))
      given pointer

theorem rawPointer?_eq_none_iff {descriptor : MethodDescriptor} :
    rawPointer? (.ofDescriptor descriptor) = none ↔ ¬ descriptor.HasPointer := by
  constructor
  · rintro plain ⟨typeName, member, pointer⟩
    rw [rawPointer?_ofDescriptor, Option.or_eq_none_iff, List.findSome?_eq_none_iff] at plain
    obtain ⟨inArguments, inResult⟩ := plain
    rcases List.mem_append.mp member with inSignature | inSignature
    · obtain ⟨argument, listed, rfl⟩ := List.mem_map.mp inSignature
      exact pointerOf_eq_none.mp (inArguments argument listed) pointer
    · obtain ⟨result, given, rfl⟩ := Option.map_eq_some_iff.mp (Option.mem_toList.mp inSignature)
      simp [given, pointer] at inResult
  · intro plain
    cases found : rawPointer? (.ofDescriptor descriptor) with
    | none => rfl
    | some pointer => exact absurd (firstPointer_of_rawPointer? found).hasPointer plain

/-- How the step of an argument follows from the argument. -/
structure IsStepFor (compiler : PlanCompiler) (takesExtras : Bool) (argument : Argument)
    (step : ArgumentStep) : Prop where
  name : step.name = .text argument.name
  typeClass : step.typeClass =
    compiler.classifier.classify argument.typeName (.ofText? argument.metadata)
  boxed_iff : step.storage = .variantBox ↔ takesExtras = true
  string_iff : step.storage = .nativeString ↔
    takesExtras = false ∧ argument.typeName = stringType
  copied_iff : step.storage = .scratchCopy ↔
    takesExtras = false ∧ argument.typeName ≠ stringType ∧ step.typeClass.needsCopy = true
  handle_iff : step.storage = .handle ↔
    takesExtras = false ∧ argument.typeName ≠ stringType ∧ ∃ name, step.typeClass = .classHandle name
  takeAddress_iff : step.takeAddress = false ↔ step.storage = .handle
  scratch_iff : step.scratch.isSome ↔
    step.storage = .variantBox ∨ step.storage = .nativeString ∨ step.storage = .scratchCopy

/-- How the step of the result follows from what a descriptor says about the result. -/
structure IsResultFor (compiler : PlanCompiler) (takesExtras : Bool) (given : Option ReturnValue)
    (step : ReturnStep) : Prop where
  typeClass : step.typeClass = given.map fun result =>
    compiler.classifier.classify result.typeName (.ofText? result.metadata)
  none_iff : step.storage = .none ↔ given = none
  conversion_none_iff : step.conversion = .none ↔ given = none
  variant_iff : step.storage = .variant ↔
    ∃ result, given = some result ∧ (takesExtras = true ∨ result.typeName = variantType)
  fromVariant_iff : step.conversion = .fromVariant ↔
    ∃ result, given = some result ∧ takesExtras = true ∧ result.typeName ≠ variantType
  string_iff : step.storage = .nativeString ↔ step.conversion = .stringDescription
  typedArray_iff : step.storage = .typedArray ↔ step.conversion = .wrapTypedArray
  handle_iff : step.storage = .handle ↔ step.conversion = .lookupObject
  enum_iff : step.storage = .intEnum ↔ step.conversion = .enumRawValue

theorem stepOf_ofArgument (compiler : PlanCompiler) (takesExtras : Bool) (argument : Argument) :
    compiler.stepOf takesExtras (.ofArgument argument) =
      .ok (argumentStep takesExtras (.text argument.name) (.text (escapeIdentifier argument.name))
        argument.typeName
        (compiler.classifier.classify argument.typeName (.ofText? argument.metadata))) := by
  have keyed : ∃ key, (Document.ofText? argument.metadata).keyOf = .ok key := by
    cases argument.metadata with
    | none => exact ⟨.null, rfl⟩
    | some width => exact ⟨.text width, rfl⟩
  obtain ⟨key, keyed⟩ := keyed
  simp only [stepOf, ArgumentDraft.ofArgument, classifyName, Naming.apply, keyed]
  generalize compiler.classifier.classify argument.typeName (.ofText? argument.metadata) = typeClass
  have written := namesIn_writable (name_argumentStep takesExtras (.text argument.name)
    (.text (escapeIdentifier argument.name)) argument.typeName typeClass)
    (escapeIdentifier argument.name)
  have finished (step : ArgumentStep) :
      (Except.ok () >>= fun _ => pure step : Except Failure ArgumentStep) = .ok step := rfl
  change (if readsMetadata takesExtras typeClass = true then _ else _) = _
  split
  · exact (congrArg (· >>= _) written).trans (finished _)
  · exact (congrArg (· >>= _) written).trans (finished _)

theorem isStepFor_of_stepOf {compiler : PlanCompiler} {takesExtras : Bool} {argument : Argument}
    {step : ArgumentStep} (stepped : compiler.stepOf takesExtras (.ofArgument argument) = .ok step) :
    compiler.IsStepFor takesExtras argument step := by
  rw [stepOf_ofArgument] at stepped
  cases stepped
  generalize classified :
    compiler.classifier.classify argument.typeName (.ofText? argument.metadata) = typeClass
  unfold argumentStep
  by_cases boxed : takesExtras = true
  · rw [if_pos boxed]
    constructor <;> simp [boxed, classified]
  rw [if_neg boxed]
  by_cases isString : argument.typeName = stringType
  · rw [if_pos isString]
    constructor <;> simp_all
  rw [if_neg isString]
  by_cases copied : typeClass.needsCopy = true
  · rw [if_pos copied]
    cases typeClass with
    | enumeration base isBitfield => constructor <;> simp_all
    | primitive name metadata => constructor <;> simp_all
    | builtin name size => cases copied
    | typedArray element size => cases copied
    | classHandle name => cases copied
  · rw [if_neg copied]
    cases typeClass <;> constructor <;> simp_all

theorem isResultFor_returnStep {compiler : PlanCompiler} (takesExtras : Bool)
    (result : ReturnValue) :
    compiler.IsResultFor takesExtras (some result) (returnStep takesExtras result.typeName
      (compiler.classifier.classify result.typeName (.ofText? result.metadata))) := by
  generalize classified :
    compiler.classifier.classify result.typeName (.ofText? result.metadata) = typeClass
  unfold returnStep
  by_cases boxed : takesExtras = true
  · rw [if_pos boxed]
    by_cases isVariant : result.typeName = variantType
    · rw [if_pos isVariant]
      constructor <;> simp_all
    · rw [if_neg isVariant]
      constructor <;> simp [boxed, isVariant, classified]
  rw [if_neg boxed]
  by_cases isVariant : result.typeName = variantType
  · rw [if_pos isVariant]
    constructor <;> simp_all
  rw [if_neg isVariant]
  cases typeClass with
  | typedArray element size => constructor <;> simp [boxed, isVariant, classified]
  | _ =>
      by_cases isString : result.typeName = stringType
      · simp only [if_pos isString]
        constructor <;> simp [boxed, isVariant, classified]
      · simp only [if_neg isString]
        constructor <;> simp [boxed, isVariant, classified]

theorem isResultFor_of_isReturnStep {compiler : PlanCompiler} {descriptor : MethodDescriptor}
    {step : ReturnStep} (returned : compiler.IsReturnStep (.ofDescriptor descriptor) step) :
    compiler.IsResultFor descriptor.isVararg descriptor.returnValue step := by
  simp only [IsReturnStep, MethodDraft.ofDescriptor] at returned
  cases given : descriptor.returnValue with
  | none =>
      rw [given] at returned
      cases returned
      constructor <;> simp [ReturnStep.noReturn]
  | some result =>
      rw [given] at returned
      obtain ⟨typeName, typeClass, classified, rfl⟩ := returned
      cases classified
      exact isResultFor_returnStep descriptor.isVararg result

/-- What the plan of a described method says. -/
structure IsPlanFor (compiler : PlanCompiler) (descriptor : MethodDescriptor)
    (className : Option String) (kind : MethodKind) (plan : MarshalingPlan) : Prop where
  methodName : plan.methodName = .text descriptor.name
  owner : plan.className = .ofText? className
  kind : plan.kind = kind
  isStatic : plan.isStatic = .bool descriptor.isStatic
  isVararg : plan.isVararg = .bool descriptor.isVararg
  abiHash : plan.abiHash = (descriptor.abiHash.map AbiHash.document).getD .null
  /-- A method is bound or virtual as it says itself. -/
  virtual_iff : plan.bindingState = .virtual ↔ descriptor.isVirtual = true
  bound_iff_hash : plan.bindingState = .bound ↔ plan.abiHash ≠ .null
  bound_iff_strategy : plan.bindingState = .bound ↔ plan.callStrategy.isSome
  strategy : plan.bindingState = .bound →
    (plan.callStrategy = some .variantArrayCall ↔ descriptor.isVararg = true)
  argumentCount : plan.arguments.length = descriptor.arguments.length
  arguments : ∀ (index : Nat) (step : ArgumentStep), plan.arguments[index]? = some step →
    ∃ argument, descriptor.arguments[index]? = some argument ∧
      compiler.IsStepFor descriptor.isVararg argument step
  returned : compiler.IsResultFor descriptor.isVararg descriptor.returnValue plan.returnStep
  open_iff : plan.visibility = .open_ ↔ plan.bindingState = .virtual
  internal_iff : plan.visibility = .internal ↔ plan.bindingState = .bound ∧
    compiler.policy.isUsedByProperty (.ofText? className) (.text descriptor.name) = .ok true
  exposedName : plan.exposedName = .text
    (if plan.visibility = .public_ then compiler.policy.naming.ofText descriptor.name
      else descriptor.name)
  discardableResult : compiler.policy.isDiscardable (.ofText? className) (.text descriptor.name) =
    .ok plan.discardableResult

theorem exposure_of_compile {compiler : PlanCompiler} {draft : MethodDraft} {className : Document}
    {kind : MethodKind} {plan : MarshalingPlan}
    (compiled : (compiler.compile draft className kind).outcome = .ok plan) :
    compiler.exposure draft.name className plan.bindingState =
        .ok (plan.visibility, plan.exposedName) ∧
      compiler.policy.isDiscardable className draft.name = .ok plan.discardableResult := by
  obtain ⟨-, -, compiled⟩ := Logged.exists_of_bind_eq_ok compiled
  obtain ⟨state, -, compiled⟩ := Logged.exists_of_bind_eq_ok compiled
  obtain ⟨arguments, -, compiled⟩ := Logged.exists_of_bind_eq_ok compiled
  obtain ⟨returnStep, -, compiled⟩ := Logged.exists_of_bind_eq_ok compiled
  obtain ⟨⟨visibility, exposedName⟩, exposed, compiled⟩ := Logged.exists_of_bind_eq_ok compiled
  obtain ⟨discardable, judged, compiled⟩ := Logged.exists_of_bind_eq_ok compiled
  obtain ⟨-, -, compiled⟩ := Logged.exists_of_bind_eq_ok compiled
  obtain ⟨-, -, compiled⟩ := Logged.exists_of_bind_eq_ok compiled
  cases compiled
  exact ⟨exposed, judged⟩

theorem hasHash_ofDescriptor (descriptor : MethodDescriptor) :
    hasHash (.ofDescriptor descriptor) = descriptor.abiHash.isSome := by
  simp only [hasHash, MethodDraft.ofDescriptor]
  cases descriptor.abiHash with
  | none => rfl
  | some hash => cases hash <;> rfl

theorem bindingState_eq_ok_iff {draft : MethodDraft} {className : Document} {state : BindingState} :
    bindingState draft className = .ok state ↔
      hasHash draft = (state == .bound) ∧ draft.isVirtual = (state == .virtual) := by
  have unplaced (place : Except Failure Document) (refused : Document → Failure) :
      (place >>= fun location => throw (refused location)) ≠ .ok state := by
    cases place <;> exact nofun
  unfold bindingState
  cases hashed : hasHash draft <;> cases isVirtual : draft.isVirtual <;> cases state <;>
    simp [unplaced]

/-- The exposure that a successful look at the policy gives, case by case. -/
private theorem exposure_eq_ok {compiler : PlanCompiler} {methodName : String}
    {className : Document} {state : BindingState} {visibility : Visibility} {exposedName : Document}
    (exposed : compiler.exposure (.text methodName) className state = .ok (visibility, exposedName)) :
    (visibility = .open_ ↔ state = .virtual) ∧
      (visibility = .internal ↔ state = .bound ∧
        compiler.policy.isUsedByProperty className (.text methodName) = .ok true) ∧
      exposedName = .text (if visibility = .public_ then compiler.policy.naming.ofText methodName
        else methodName) := by
  cases state with
  | virtual =>
      cases exposed
      simp
  | bound =>
      obtain ⟨used, judged, exposed⟩ := exists_of_bind_eq_ok exposed
      cases used with
      | true =>
          cases exposed
          simp [judged]
      | false =>
          cases exposed
          simp [judged]

theorem isPlanFor_of_compile {compiler : PlanCompiler} {descriptor : MethodDescriptor}
    {className : Option String} {kind : MethodKind} {plan : MarshalingPlan}
    (compiled :
      (compiler.compile (.ofDescriptor descriptor) (.ofText? className) kind).outcome = .ok plan) :
    compiler.IsPlanFor descriptor className kind plan := by
  have compiles := compiles_of_compile compiled
  obtain ⟨exposed, judged⟩ := exposure_of_compile compiled
  obtain ⟨opened, internal, exposedName⟩ := exposure_eq_ok exposed
  obtain ⟨hashed, isVirtual⟩ := bindingState_eq_ok_iff.mp compiles.state
  rw [hasHash_ofDescriptor] at hashed
  obtain ⟨count, each⟩ := compiles.steps
  have strategy := compiles.strategy
  change descriptor.isVirtual = _ at isVirtual
  exact {
    methodName := compiles.methodName
    owner := compiles.className
    kind := compiles.kind
    isStatic := compiles.isStatic
    isVararg := compiles.isVararg
    abiHash := compiles.abiHash
    virtual_iff := by rw [isVirtual, beq_iff_eq]
    bound_iff_hash := by
      rw [compiles.abiHash, ← beq_iff_eq, ← hashed]
      cases given : descriptor.abiHash with
      | none => simp [MethodDraft.ofDescriptor, given]
      | some hash => cases hash <;> simp [MethodDraft.ofDescriptor, given, AbiHash.document]
    bound_iff_strategy := by
      rw [strategy]
      cases plan.bindingState <;> simp [callStrategy]
    strategy := by
      intro bound
      rw [strategy, bound]
      change some (if descriptor.isVararg = true then _ else _) = _ ↔ _
      split <;> simp_all
    argumentCount := count
    arguments := by
      intro index step found
      obtain ⟨argument, given, stepped⟩ := each index step found
      exact ⟨argument, given, isStepFor_of_stepOf stepped⟩
    returned := isResultFor_of_isReturnStep compiles.returned
    open_iff := opened
    internal_iff := internal
    exposedName := exposedName
    discardableResult := judged }

/-- The step of an argument, as it follows from the argument. -/
def stepFor (compiler : PlanCompiler) (takesExtras : Bool) (argument : Argument) : ArgumentStep :=
  argumentStep takesExtras (.text argument.name) (.text (escapeIdentifier argument.name))
    argument.typeName (compiler.classifier.classify argument.typeName (.ofText? argument.metadata))

/-- The step of the result, as it follows from what a descriptor says about the result. -/
def resultStepFor (compiler : PlanCompiler) (takesExtras : Bool) : Option ReturnValue → ReturnStep
  | none => .noReturn
  | some result => returnStep takesExtras result.typeName
      (compiler.classifier.classify result.typeName (.ofText? result.metadata))

theorem arguments_of_compile {compiler : PlanCompiler} {descriptor : MethodDescriptor}
    {className : Document} {kind : MethodKind} {plan : MarshalingPlan}
    (compiled : (compiler.compile (.ofDescriptor descriptor) className kind).outcome = .ok plan) :
    plan.arguments = descriptor.arguments.map (compiler.stepFor descriptor.isVararg) := by
  have stepped := (compiles_of_compile compiled).arguments
  change (descriptor.arguments.map ArgumentDraft.ofArgument).mapM
    (compiler.stepOf descriptor.isVararg) = .ok plan.arguments at stepped
  have each : compiler.stepOf descriptor.isVararg ∘ ArgumentDraft.ofArgument =
      fun argument => pure (compiler.stepFor descriptor.isVararg argument) := by
    funext argument
    exact stepOf_ofArgument compiler descriptor.isVararg argument
  rw [List.mapM_map, each, List.mapM_pure] at stepped
  exact (Except.ok.inj stepped).symm

theorem returnStep_of_compile {compiler : PlanCompiler} {descriptor : MethodDescriptor}
    {className : Document} {kind : MethodKind} {plan : MarshalingPlan}
    (compiled : (compiler.compile (.ofDescriptor descriptor) className kind).outcome = .ok plan) :
    plan.returnStep = compiler.resultStepFor descriptor.isVararg descriptor.returnValue := by
  have returned := (compiles_of_compile compiled).returned
  simp only [IsReturnStep, MethodDraft.ofDescriptor] at returned
  cases given : descriptor.returnValue with
  | none =>
      rw [given] at returned
      exact returned
  | some result =>
      rw [given] at returned
      obtain ⟨typeName, typeClass, classified, same⟩ := returned
      cases classified
      exact same

theorem exists_steps (compiler : PlanCompiler) (draft : MethodDraft) (arguments : List Argument) :
    ∃ steps, (compiler.compileArguments draft (arguments.map .ofArgument)).outcome = .ok steps := by
  induction arguments with
  | nil => exact ⟨[], rfl⟩
  | cons argument rest induction =>
      obtain ⟨steps, compiled⟩ := induction
      simp only [List.map_cons, compileArguments, stepOf_ofArgument]
      rw [Logged.outcome_bind_of_ok _ rfl, Logged.outcome_bind_of_ok _ rfl,
        Logged.outcome_bind_of_ok _ compiled]
      exact ⟨_, rfl⟩

theorem exists_returnStep (compiler : PlanCompiler) (descriptor : MethodDescriptor) :
    ∃ step, (compiler.compileReturn (.ofDescriptor descriptor)).outcome = .ok step := by
  simp only [compileReturn, MethodDraft.ofDescriptor]
  cases descriptor.returnValue with
  | none => exact ⟨_, rfl⟩
  | some result => exact ⟨_, rfl⟩

theorem exists_exposure {compiler : PlanCompiler} (typed : compiler.policy.WellTyped)
    (methodName : String) (className : Option String) (state : BindingState) :
    ∃ exposed, compiler.exposure (.text methodName) (.ofText? className) state = .ok exposed := by
  cases state with
  | virtual => exact ⟨_, rfl⟩
  | bound =>
      obtain ⟨used, judged⟩ :=
        PolicyTable.exists_lists_eq_ok typed.usedByProperty className methodName
      simp only [exposure, BindingPolicy.isUsedByProperty, judged]
      cases used <;> exact ⟨_, rfl⟩

/-- Where every stage gives something, a plan is put together. -/
theorem exists_plan {compiler : PlanCompiler} {draft : MethodDraft} {className : Document}
    {state : BindingState} {steps : List ArgumentStep} {returnStep : ReturnStep}
    {exposed : Visibility × Document} {discardable : Bool} {place : Document}
    (accepted : rejectPointers draft className = .ok ())
    (stated : bindingState draft className = .ok state)
    (stepped : (compiler.compileArguments draft draft.arguments).outcome = .ok steps)
    (returned : (compiler.compileReturn draft).outcome = .ok returnStep)
    (exposes : compiler.exposure draft.name className state = .ok exposed)
    (judged : compiler.policy.isDiscardable className draft.name = .ok discardable)
    (placed : locate className draft.name = .ok place) (kind : MethodKind) :
    ∃ plan, (compiler.compile draft className kind).outcome = .ok plan := by
  simp only [compile, accepted, stated, judged, placed]
  rw [Logged.outcome_bind_of_ok _ rfl, Logged.outcome_bind_of_ok _ rfl,
    Logged.outcome_bind_of_ok _ stepped, Logged.outcome_bind_of_ok _ returned, exposes]
  exact ⟨_, rfl⟩

theorem exists_plan_of_fits {compiler : PlanCompiler} (typed : compiler.policy.WellTyped)
    {descriptor : MethodDescriptor} (plain : ¬ descriptor.HasPointer)
    (fits : descriptor.abiHash.isSome ≠ descriptor.isVirtual) (className : Option String)
    (kind : MethodKind) :
    ∃ plan, (compiler.compile (.ofDescriptor descriptor) (.ofText? className) kind).outcome =
      .ok plan := by
  have accepted : rejectPointers (.ofDescriptor descriptor) (.ofText? className) = .ok () := by
    rw [rejectPointers, rawPointer?_eq_none_iff.mpr plain]
  have stated : bindingState (.ofDescriptor descriptor) (.ofText? className) =
      .ok (if descriptor.isVirtual then .virtual else .bound) := by
    rw [bindingState_eq_ok_iff, hasHash_ofDescriptor]
    change _ ∧ descriptor.isVirtual = _
    cases hashed : descriptor.abiHash.isSome <;> cases isVirtual : descriptor.isVirtual <;>
      simp_all
  obtain ⟨steps, stepped⟩ := exists_steps compiler (.ofDescriptor descriptor) descriptor.arguments
  obtain ⟨returnStep, returned⟩ := exists_returnStep compiler descriptor
  obtain ⟨exposed, exposes⟩ := exists_exposure typed descriptor.name className
    (if descriptor.isVirtual then .virtual else .bound)
  obtain ⟨discardable, judged⟩ :=
    PolicyTable.exists_lists_eq_ok typed.discardableResult className descriptor.name
  exact exists_plan accepted stated stepped returned exposes judged
    (locate_texts className descriptor.name) kind

theorem isWritable_location (className : Option String) (methodName : String) :
    (location (.ofText? className) (.text methodName)).isWritable = true := by
  unfold location
  split <;> rfl

/-- The position of a pointer quotes the name of an argument, which is a text. -/
theorem requireWritable_pointerArgument? (descriptor : MethodDescriptor) :
    Document.requireWritable (pointerArgument? (.ofDescriptor descriptor)).toList = .ok () := by
  apply Document.requireWritable_of_all
  intro name inside
  obtain ⟨draft, found, rfl⟩ := Option.map_eq_some_iff.mp (Option.mem_toList.mp inside)
  obtain ⟨argument, -, rfl⟩ := List.mem_map.mp (List.mem_of_find?_eq_some found)
  rfl

theorem compile_of_pointer (compiler : PlanCompiler) {descriptor : MethodDescriptor}
    {className : Option String} {typeName position : String}
    (found : rawPointer? (.ofDescriptor descriptor) = some (typeName, position))
    (kind : MethodKind) :
    (compiler.compile (.ofDescriptor descriptor) (.ofText? className) kind).outcome =
      .error (.unsupportedSignature (location (.ofText? className) (.text descriptor.name))
        typeName position) := by
  have worded : Failure.raised (.unsupportedSignature
      (location (.ofText? className) (.text descriptor.name)) typeName position) = _ :=
    Failure.raised_of_writable (List.forall_mem_singleton.mpr (isWritable_location _ _))
  have refused : rejectPointers (.ofDescriptor descriptor) (.ofText? className) =
      .error (.unsupportedSignature (location (.ofText? className) (.text descriptor.name))
        typeName position) := by
    have placed := locate_texts className descriptor.name
    rw [rejectPointers, found, ← worded]
    change (locate (.ofText? className) (.text descriptor.name) >>= _) = _
    rw [placed]
    change (Document.requireWritable _ >>= _) = _
    rw [requireWritable_pointerArgument?]
    rfl
  simp only [compile, refused]
  rw [Logged.bind_of_error _ rfl]

/-- What is said against a method whose hash does not agree with its being virtual. -/
def mismatch (descriptor : MethodDescriptor) (className : Option String) : BrokenInvariant :=
  match descriptor.abiHash with
  | some hash => .hashOnVirtual (location (.ofText? className) (.text descriptor.name)) hash.document
  | none => .missingHash (location (.ofText? className) (.text descriptor.name))

/-- What such a method is refused with: what is said against it, if it can be worded. -/
def mismatchFailure (descriptor : MethodDescriptor) (className : Option String) : Failure :=
  Failure.raised (.invariant (mismatch descriptor className))

theorem mismatchFailure_eq_or (descriptor : MethodDescriptor) (className : Option String) :
    mismatchFailure descriptor className = .invariant (mismatch descriptor className) ∨
      mismatchFailure descriptor className = .unreadable :=
  Failure.raised_eq_or _

theorem mismatchFailure_of_writable {descriptor : MethodDescriptor}
    (writable : descriptor.HasWritableHash) (className : Option String) :
    mismatchFailure descriptor className = .invariant (mismatch descriptor className) := by
  apply Failure.raised_of_writable
  have place := isWritable_location className descriptor.name
  unfold mismatch
  cases given : descriptor.abiHash with
  | none => exact List.forall_mem_singleton.mpr place
  | some hash =>
      exact List.forall_mem_cons.mpr
        ⟨place, List.forall_mem_singleton.mpr (writable hash given)⟩

/-- A hash that cannot be written fails where it is quoted. -/
theorem mismatchFailure_of_unwritable {descriptor : MethodDescriptor}
    (unwritable : ¬descriptor.HasWritableHash) (className : Option String) :
    mismatchFailure descriptor className = .unreadable := by
  obtain ⟨hash, unwritable⟩ := Classical.not_forall.mp unwritable
  obtain ⟨given, tooLong⟩ := Classical.not_imp.mp unwritable
  apply if_neg
  unfold mismatch
  rw [given]
  simp [Failure.quoted, BrokenInvariant.quoted, tooLong]

theorem compile_of_mismatch (compiler : PlanCompiler) {descriptor : MethodDescriptor}
    (plain : ¬ descriptor.HasPointer) (agrees : descriptor.abiHash.isSome = descriptor.isVirtual)
    (className : Option String) (kind : MethodKind) :
    (compiler.compile (.ofDescriptor descriptor) (.ofText? className) kind).outcome =
      .error (mismatchFailure descriptor className) := by
  have accepted : rejectPointers (.ofDescriptor descriptor) (.ofText? className) = .ok () := by
    rw [rejectPointers, rawPointer?_eq_none_iff.mpr plain]
  have unstated : bindingState (.ofDescriptor descriptor) (.ofText? className) =
      .error (mismatchFailure descriptor className) := by
    have same : (MethodDraft.ofDescriptor descriptor).isVirtual = descriptor.abiHash.isSome :=
      agrees.symm
    have placed := locate_texts className descriptor.name
    rw [bindingState, hasHash_ofDescriptor, same, mismatchFailure, mismatch]
    cases hashed : descriptor.abiHash with
    | none =>
        change (locate (.ofText? className) (.text descriptor.name) >>= _) = _
        rw [placed]
        rfl
    | some hash =>
        change (locate (.ofText? className) (.text descriptor.name) >>= _) = _
        rw [placed]
        simp only [MethodDraft.ofDescriptor, hashed]
        rfl
  simp only [compile, accepted, unstated]
  rw [Logged.outcome_bind_of_ok _ rfl, Logged.bind_of_error _ rfl]

end PlanCompiler

namespace MarshalingPlan

variable {plan : MarshalingPlan}

/-- Whether a message can quote the names and the hash of a plan. -/
structure IsQuotable (plan : MarshalingPlan) : Prop where
  methodName : plan.methodName.isWritable = true
  className : plan.className.isWritable = true
  exposedName : plan.exposedName.isWritable = true
  abiHash : plan.abiHash.isWritable = true

/-- Whether a plan was compiled from a descriptor that stands in a JSON text. -/
def IsFromJson (plan : MarshalingPlan) : Prop :=
  ∃ (compiler : PlanCompiler) (descriptor : MethodDescriptor) (className : Option String)
    (kind : MethodKind), descriptor.IsFromJson ∧
      (compiler.compile (.ofDescriptor descriptor) (.ofText? className) kind).outcome = .ok plan

/-- The names of a described method are texts, and JSON gives no hash that cannot be written. -/
theorem IsFromJson.isQuotable (fromJson : plan.IsFromJson) : plan.IsQuotable := by
  obtain ⟨compiler, descriptor, className, kind, given, compiled⟩ := fromJson
  have isPlan := PlanCompiler.isPlanFor_of_compile compiled
  exact {
    methodName := by rw [isPlan.methodName, Document.isWritable_text]
    className := by
      rw [isPlan.owner]
      cases className <;> rfl
    exposedName := by rw [isPlan.exposedName, Document.isWritable_text]
    abiHash := by
      rw [isPlan.abiHash]
      cases hashed : descriptor.abiHash with
      | none => rfl
      | some hash => exact given.hasWritableHash hash hashed }

end MarshalingPlan

namespace PlanCompiler

/-- What comes of compiling a described method, whichever tables it is compiled with. A refusal for
its hash can be worded unless it quotes a hash that cannot be written, and no JSON text holds such a
hash. -/
theorem compile_outcome (compiler : PlanCompiler) (typed : compiler.policy.WellTyped)
    (descriptor : MethodDescriptor) (className : Option String) (kind : MethodKind) :
    let outcome := (compiler.compile (.ofDescriptor descriptor) (.ofText? className) kind).outcome
    ((∃ location typeName position,
        outcome = .error (.unsupportedSignature location typeName position)) ↔
      descriptor.HasPointer) ∧
    (∀ location typeName position,
        outcome = .error (.unsupportedSignature location typeName position) →
      location = PlanCompiler.location (.ofText? className) (.text descriptor.name) ∧
        descriptor.FirstPointer typeName position) ∧
    ((∃ cause, outcome = .error (.invariant cause)) ↔
      ¬ descriptor.HasPointer ∧ descriptor.abiHash.isSome = descriptor.isVirtual ∧
        descriptor.HasWritableHash) ∧
    (∀ cause, outcome = .error (.invariant cause) → cause = mismatch descriptor className) ∧
    (outcome = .error .unreadable ↔
      ¬ descriptor.HasPointer ∧ descriptor.abiHash.isSome = descriptor.isVirtual ∧
        ¬ descriptor.HasWritableHash) ∧
    (descriptor.IsFromJson → ((∃ cause, outcome = .error (.invariant cause)) ↔
      ¬ descriptor.HasPointer ∧ descriptor.abiHash.isSome = descriptor.isVirtual)) ∧
    ((∃ plan, outcome = .ok plan) ↔
      ¬ descriptor.HasPointer ∧ descriptor.abiHash.isSome ≠ descriptor.isVirtual) ∧
    ∀ plan, outcome = .ok plan → compiler.IsPlanFor descriptor className kind plan := by
  intro outcome
  by_cases pointer : descriptor.HasPointer
  · cases found : rawPointer? (.ofDescriptor descriptor) with
    | none => exact absurd pointer (rawPointer?_eq_none_iff.mp found)
    | some first =>
        obtain ⟨typeName, position⟩ := first
        have refused : outcome = _ := compile_of_pointer compiler found kind
        have isFirst := firstPointer_of_rawPointer? found
        clear_value outcome
        subst refused
        refine ⟨by simp [pointer], ?_, by simp [pointer], by simp, by simp [pointer],
          by simp [pointer], by simp [pointer], by simp⟩
        intro place typeName position same
        cases same
        exact ⟨rfl, isFirst⟩
  by_cases agrees : descriptor.abiHash.isSome = descriptor.isVirtual
  · have refused : outcome = _ := compile_of_mismatch compiler pointer agrees className kind
    clear_value outcome
    subst refused
    by_cases writable : descriptor.HasWritableHash
    · rw [mismatchFailure_of_writable writable]
      refine ⟨by simp [pointer], by simp, by simp [pointer, agrees, writable], ?_,
        by simp [writable], by simp [pointer, agrees], by simp [agrees], by simp⟩
      intro cause same
      cases same
      rfl
    · rw [mismatchFailure_of_unwritable writable]
      exact ⟨by simp [pointer], by simp, by simp [writable], by simp,
        by simp [pointer, agrees, writable], fun fromJson => absurd fromJson.hasWritableHash writable,
        by simp [agrees], by simp⟩
  · obtain ⟨plan, compiled⟩ := exists_plan_of_fits typed pointer agrees className kind
    have made : outcome = _ := compiled
    clear_value outcome
    subst made
    refine ⟨by simp [pointer], by simp, by simp [agrees], by simp, by simp [agrees],
      by simp [agrees], by simp [pointer, agrees], ?_⟩
    intro other same
    cases same
    exact isPlanFor_of_compile compiled

/-- A virtual method with a hash. -/
def hashedVirtual : MethodDescriptor :=
  ⟨"_ready", [], none, false, true, false, false, some (.int 7)⟩

theorem isFromJson_hashedVirtual : hashedVirtual.IsFromJson := by
  have keeps : Document.Json.Keeps Document.Json.nestingRoom
      (.table [("name", .text "_ready"), ("is_virtual", .bool true), ("hash", .int 7)]) :=
    .table (by decide) (by simp)
  exact ⟨_, Document.isFromJson_of_keeps keeps (by decide +kernel), rfl⟩

/-- A method with extra arguments and a name that is listed by hand, and a virtual method with a hash
that an entry of a JSON text describes. -/
theorem compile_outcome_listed :
    let descriptor : MethodDescriptor :=
      ⟨"call", [⟨"method", "StringName", none, none⟩, ⟨"count", "int", some "int32", none⟩],
        some ⟨"int", some "int64"⟩, false, false, true, false, some (.int 7)⟩
    let policy : BindingPolicy :=
      ⟨.byHand (.table [("Object", .array [.text "call"])]), .empty, .escaped⟩
    let compiler : PlanCompiler := ⟨.bundled ["Node"], policy⟩
    policy.WellTyped ∧ (∃ plan,
      (compiler.compile (.ofDescriptor descriptor) (.ofText? (some "Object")) .classMethod).outcome =
          .ok plan ∧
        compiler.IsPlanFor descriptor (some "Object") .classMethod plan) ∧
    hashedVirtual.IsFromJson ∧ ∃ cause,
      (compiler.compile (.ofDescriptor hashedVirtual) (.ofText? (some "Node")) .classMethod).outcome =
        .error (.invariant cause) := by
  intro descriptor policy compiler
  have typed : policy.WellTyped := {
    usedByProperty := ⟨_, rfl, by simp⟩
    discardableResult := trivial }
  obtain ⟨-, -, -, -, -, -, compiles, describes⟩ :=
    compile_outcome compiler typed descriptor (some "Object") .classMethod
  obtain ⟨-, -, -, -, -, refuses, -, -⟩ :=
    compile_outcome compiler typed hashedVirtual (some "Node") .classMethod
  have plain : ¬ descriptor.HasPointer := by
    rintro ⟨typeName, member, pointer⟩
    revert pointer
    revert typeName
    decide +kernel
  have untyped : ¬ hashedVirtual.HasPointer := by
    rintro ⟨typeName, member, -⟩
    cases member
  obtain ⟨plan, compiled⟩ := compiles.mpr ⟨plain, by decide⟩
  exact ⟨typed, ⟨plan, compiled, describes plan compiled⟩, isFromJson_hashedVirtual,
    (refuses isFromJson_hashedVirtual).mpr ⟨untyped, by decide⟩⟩

end PlanCompiler

end EngineBridge
