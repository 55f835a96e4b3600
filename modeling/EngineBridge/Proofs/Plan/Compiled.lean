import EngineBridge.Plan.Compiler
import EngineBridge.Proofs.Running

/-!
What a compiled plan says.

`PlanCompiler.Compiles` collects what a plan owes to the draft that it was compiled from. Proofs
about calls read a plan through it and do not open the compiler.
-/

namespace EngineBridge

namespace Logged

variable {α β : Type}

/-- What succeeds in two steps succeeds in each. -/
theorem exists_of_bind_eq_ok {first : Logged α} {next : α → Logged β} {result : β}
    (succeeded : (first >>= next).outcome = .ok result) :
    ∃ value, first.outcome = .ok value ∧ (next value).outcome = .ok result := by
  cases ran : first.outcome with
  | error failure =>
      rw [bind_of_error next ran] at succeeded
      cases succeeded
  | ok value =>
      rw [bind_of_ok next ran] at succeeded
      exact ⟨value, rfl, succeeded⟩

end Logged

/-- What is made of a list item by item has as many items, each made of the item at its place. -/
theorem exists_of_mapM_eq_ok {α β : Type} {make : α → Except Failure β} {items : List α}
    {results : List β} (made : items.mapM make = .ok results) :
    results.length = items.length ∧ ∀ (index : Nat) (result : β), results[index]? = some result →
      ∃ item, items[index]? = some item ∧ make item = .ok result := by
  induction items generalizing results with
  | nil =>
      cases made
      exact ⟨rfl, nofun⟩
  | cons first rest induction =>
      rw [List.mapM_cons] at made
      rcases exists_of_bind_eq_ok made with ⟨result, here, made⟩
      rcases exists_of_bind_eq_ok made with ⟨others, there, made⟩
      cases made
      rcases induction there with ⟨length, each⟩
      refine ⟨by rw [List.length_cons, length, List.length_cons], fun index other found => ?_⟩
      cases index with
      | zero =>
          cases found
          exact ⟨first, rfl, here⟩
      | succ index => exact each index other found

namespace PlanCompiler

/-- The step of a result, as it follows from what a draft says about the result. -/
def IsReturnStep (compiler : PlanCompiler) (draft : MethodDraft) (step : ReturnStep) : Prop :=
  match draft.returnValue with
  | none => step = .noReturn
  | some result => ∃ typeName typeClass,
      compiler.classifyName result.typeName result.metadata = .ok (typeName, typeClass) ∧
        step = returnStep draft.takesExtras typeName typeClass

/-- How a plan follows from a draft. -/
structure Compiles (compiler : PlanCompiler) (draft : MethodDraft) (className : Document)
    (kind : MethodKind) (plan : MarshalingPlan) : Prop where
  plain : rawPointer? draft = none
  state : bindingState draft className = .ok plan.bindingState
  strategy : plan.callStrategy = callStrategy draft plan.bindingState
  arguments : draft.arguments.mapM (compiler.stepOf draft.takesExtras) = .ok plan.arguments
  returned : compiler.IsReturnStep draft plan.returnStep
  methodName : plan.methodName = draft.name
  className : plan.className = className
  kind : plan.kind = kind
  isStatic : plan.isStatic = draft.isStatic
  isVararg : plan.isVararg = draft.isVararg
  abiHash : plan.abiHash = draft.abiHash

theorem name_argumentStep (takesExtras : Bool) (argumentName reference : Document)
    (typeName : String) (typeClass : TypeClass) :
    (argumentStep takesExtras argumentName reference typeName typeClass).name = argumentName := by
  unfold argumentStep
  dsimp only
  split
  · rfl
  · split
    · rfl
    · split
      · cases typeClass <;> rfl
      · cases typeClass <;> rfl

theorem typeClass_argumentStep (takesExtras : Bool) (argumentName reference : Document)
    (typeName : String) (typeClass : TypeClass) :
    (argumentStep takesExtras argumentName reference typeName typeClass).typeClass = typeClass := by
  unfold argumentStep
  dsimp only
  split
  · rfl
  · split
    · rfl
    · split
      · cases typeClass <;> rfl
      · cases typeClass <;> rfl

/-- The step of an argument follows from the class of its type and from a name. -/
theorem step_of_stepOf {compiler : PlanCompiler} {takesExtras : Bool} {argument : ArgumentDraft}
    {step : ArgumentStep} (stepped : compiler.stepOf takesExtras argument = .ok step) :
    ∃ typeName reference, argument.typeName = .text typeName ∧
      step = argumentStep takesExtras argument.name reference typeName
        (compiler.classifier.classify typeName argument.metadata) := by
  rcases exists_of_bind_eq_ok stepped with ⟨⟨typeName, typeClass⟩, classified, stepped⟩
  rcases exists_of_bind_eq_ok stepped with ⟨reference, -, stepped⟩
  cases named : argument.typeName with
  | text known =>
      rw [named] at classified
      cases classified
      refine ⟨typeName, reference, rfl, ?_⟩
      dsimp only at stepped
      split at stepped
      · rcases exists_of_bind_eq_ok stepped with ⟨-, -, stepped⟩
        rcases exists_of_bind_eq_ok stepped with ⟨-, -, stepped⟩
        cases stepped
        rfl
      · rcases exists_of_bind_eq_ok stepped with ⟨-, -, stepped⟩
        cases stepped
        rfl
  | _ =>
      rw [named] at classified
      cases classified

/-- Nothing with a raw pointer passes. -/
theorem rawPointer?_of_rejectPointers {draft : MethodDraft} {className : Document} {done : Unit}
    (accepted : rejectPointers draft className = .ok done) : rawPointer? draft = none := by
  unfold rejectPointers at accepted
  cases pointer : rawPointer? draft with
  | none => rfl
  | some found =>
      rw [pointer] at accepted
      rcases exists_of_bind_eq_ok accepted with ⟨location, -, accepted⟩
      rcases exists_of_bind_eq_ok accepted with ⟨-, -, accepted⟩
      cases accepted

private theorem mapM_of_compileArguments {compiler : PlanCompiler} {draft : MethodDraft}
    {arguments : List ArgumentDraft} {steps : List ArgumentStep}
    (compiled : (compiler.compileArguments draft arguments).outcome = .ok steps) :
    arguments.mapM (compiler.stepOf draft.takesExtras) = .ok steps := by
  induction arguments generalizing steps with
  | nil =>
      cases compiled
      rfl
  | cons argument rest induction =>
      rcases Logged.exists_of_bind_eq_ok compiled with ⟨step, stepped, compiled⟩
      rcases Logged.exists_of_bind_eq_ok compiled with ⟨-, -, compiled⟩
      rcases Logged.exists_of_bind_eq_ok compiled with ⟨others, compiledRest, compiled⟩
      cases compiled
      change compiler.stepOf draft.takesExtras argument = .ok step at stepped
      rw [List.mapM_cons, stepped, induction compiledRest]
      rfl

private theorem isReturnStep_of_compileReturn {compiler : PlanCompiler} {draft : MethodDraft}
    {step : ReturnStep} (compiled : (compiler.compileReturn draft).outcome = .ok step) :
    compiler.IsReturnStep draft step := by
  unfold compileReturn at compiled
  unfold IsReturnStep
  cases given : draft.returnValue with
  | none =>
      rw [given] at compiled
      cases compiled
      rfl
  | some result =>
      rw [given] at compiled
      rcases Logged.exists_of_bind_eq_ok compiled with ⟨⟨typeName, typeClass⟩, classified, compiled⟩
      rcases Logged.exists_of_bind_eq_ok compiled with ⟨-, -, compiled⟩
      cases compiled
      exact ⟨typeName, typeClass, classified, rfl⟩

/-- A plan has a step for each argument of a described method, in their order. -/
theorem Compiles.steps {compiler : PlanCompiler} {descriptor : MethodDescriptor}
    {className : Document} {kind : MethodKind} {plan : MarshalingPlan}
    (compiles : compiler.Compiles (.ofDescriptor descriptor) className kind plan) :
    plan.arguments.length = descriptor.arguments.length ∧
      ∀ (index : Nat) (step : ArgumentStep), plan.arguments[index]? = some step →
        ∃ argument, descriptor.arguments[index]? = some argument ∧
          compiler.stepOf descriptor.isVararg (.ofArgument argument) = .ok step := by
  rcases exists_of_mapM_eq_ok compiles.arguments with ⟨length, each⟩
  change plan.arguments.length =
    (descriptor.arguments.map ArgumentDraft.ofArgument).length at length
  rw [List.length_map] at length
  refine ⟨length, fun index step found => ?_⟩
  rcases each index step found with ⟨draft, placed, stepped⟩
  change (descriptor.arguments.map ArgumentDraft.ofArgument)[index]? = some draft at placed
  rw [List.getElem?_map] at placed
  rcases Option.map_eq_some_iff.mp placed with ⟨argument, given, rfl⟩
  exact ⟨argument, given, stepped⟩

/-- A plan that was compiled from a draft follows from it. -/
theorem compiles_of_compile {compiler : PlanCompiler} {draft : MethodDraft} {className : Document}
    {kind : MethodKind} {plan : MarshalingPlan}
    (compiled : (compiler.compile draft className kind).outcome = .ok plan) :
    compiler.Compiles draft className kind plan := by
  rcases Logged.exists_of_bind_eq_ok compiled with ⟨done, accepted, compiled⟩
  rcases Logged.exists_of_bind_eq_ok compiled with ⟨state, stated, compiled⟩
  rcases Logged.exists_of_bind_eq_ok compiled with ⟨arguments, stepped, compiled⟩
  rcases Logged.exists_of_bind_eq_ok compiled with ⟨returnStep, returned, compiled⟩
  rcases Logged.exists_of_bind_eq_ok compiled with ⟨⟨visibility, exposedName⟩, -, compiled⟩
  rcases Logged.exists_of_bind_eq_ok compiled with ⟨discardable, -, compiled⟩
  rcases Logged.exists_of_bind_eq_ok compiled with ⟨-, -, compiled⟩
  rcases Logged.exists_of_bind_eq_ok compiled with ⟨-, -, compiled⟩
  cases compiled
  exact {
    plain := rawPointer?_of_rejectPointers accepted
    state := stated
    strategy := rfl
    arguments := mapM_of_compileArguments stepped
    returned := isReturnStep_of_compileReturn returned
    methodName := rfl
    className := rfl
    kind := rfl
    isStatic := rfl
    isVararg := rfl
    abiHash := rfl }

end PlanCompiler

end EngineBridge
