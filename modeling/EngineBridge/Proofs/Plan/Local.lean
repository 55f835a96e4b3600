import EngineBridge.Proofs.Plan.Outcome

/-!
What a plan depends on.

A compiler looks up the type names of a signature and the size of an array, and asks its policy
about the method. Main statement: compilers whose tables agree on these names refuse a method for
the same reason or compile it to plans that differ in nothing but who sees the method, under which
name, and whether its result may be ignored; where the policies answer alike, the plans are the same.
-/

namespace EngineBridge

namespace TypeClassifier

/-- Whether two classifiers have the same to say about some type names and about arrays. -/
structure AgreeOn (first second : TypeClassifier) (typeNames : List String) : Prop where
  sizes : ∀ typeName ∈ typeNames, first.sizes.get? typeName = second.sizes.get? typeName
  classes : ∀ typeName ∈ typeNames, (typeName ∈ first.classes ↔ typeName ∈ second.classes)
  array : first.sizes.get? arrayType = second.sizes.get? arrayType

variable {first second : TypeClassifier} {typeNames : List String} {typeName : String}

theorem AgreeOn.arraySize (agree : first.AgreeOn second typeNames) :
    first.arraySize = second.arraySize := by
  have same := agree.array
  rw [first.arraySize_mem, second.arraySize_mem] at same
  exact Option.some.inj same

/-- The class of a name follows from what the tables say about this name and about arrays. -/
theorem AgreeOn.classify (agree : first.AgreeOn second typeNames) (inside : typeName ∈ typeNames)
    (metadata : Document) :
    first.classify typeName metadata = second.classify typeName metadata := by
  have plain : first.classifyPlain typeName metadata = second.classifyPlain typeName metadata := by
    have listed : first.classes.contains typeName = second.classes.contains typeName := by
      rw [Bool.eq_iff_iff, List.contains_iff_mem, List.contains_iff_mem]
      exact agree.classes typeName inside
    simp only [classifyPlain, agree.sizes typeName inside, listed]
  simp only [TypeClassifier.classify, plain, agree.arraySize]

end TypeClassifier

/-- Whether two policies answer alike what a compiler asks them about a method. -/
structure BindingPolicy.AnswersAlike (first second : BindingPolicy) (className : Document)
    (methodName : String) : Prop where
  usedByProperty : first.isUsedByProperty className (.text methodName) =
    second.isUsedByProperty className (.text methodName)
  discardableResult : first.isDiscardable className (.text methodName) =
    second.isDiscardable className (.text methodName)
  publicName : first.naming.ofText methodName = second.naming.ofText methodName

/-- Whether two plans say the same, but for what a policy decides. -/
def MarshalingPlan.AlikeButExposure (plan other : MarshalingPlan) : Prop :=
  other = { plan with
    visibility := other.visibility
    exposedName := other.exposedName
    discardableResult := other.discardableResult }

namespace PlanCompiler

variable {first second : PlanCompiler} {descriptor : MethodDescriptor} {className : Option String}
  {kind : MethodKind} {plan other : MarshalingPlan}

theorem stepFor_eq_of_agreeOn
    (agree : first.classifier.AgreeOn second.classifier descriptor.typeNames)
    {argument : Argument} (inside : argument ∈ descriptor.arguments) (takesExtras : Bool) :
    first.stepFor takesExtras argument = second.stepFor takesExtras argument := by
  have named : argument.typeName ∈ descriptor.typeNames :=
    List.mem_append_left _ (List.mem_map_of_mem inside)
  rw [stepFor, stepFor, agree.classify named]

theorem resultStepFor_eq_of_agreeOn
    (agree : first.classifier.AgreeOn second.classifier descriptor.typeNames)
    (takesExtras : Bool) :
    first.resultStepFor takesExtras descriptor.returnValue =
      second.resultStepFor takesExtras descriptor.returnValue := by
  cases given : descriptor.returnValue with
  | none => rfl
  | some result =>
      have named : result.typeName ∈ descriptor.typeNames := by
        rw [MethodDescriptor.typeNames, given]
        exact List.mem_append_right _ List.mem_cons_self
      rw [resultStepFor, resultStepFor, agree.classify named]

/-- The plans of two compilers whose tables agree differ at most in what a policy decides. -/
theorem alikeButExposure_of_compile
    (agree : first.classifier.AgreeOn second.classifier descriptor.typeNames)
    (compiled : (first.compile (.ofDescriptor descriptor) (.ofText? className) kind).outcome =
      .ok plan)
    (compiledOther :
      (second.compile (.ofDescriptor descriptor) (.ofText? className) kind).outcome = .ok other) :
    plan.AlikeButExposure other := by
  have compiles := compiles_of_compile compiled
  have compilesOther := compiles_of_compile compiledOther
  have state : plan.bindingState = other.bindingState :=
    Except.ok.inj (compiles.state.symm.trans compilesOther.state)
  have arguments : plan.arguments = other.arguments := by
    rw [arguments_of_compile compiled, arguments_of_compile compiledOther]
    exact List.map_congr_left fun argument inside => stepFor_eq_of_agreeOn agree inside _
  have returnStep : plan.returnStep = other.returnStep := by
    rw [returnStep_of_compile compiled, returnStep_of_compile compiledOther]
    exact resultStepFor_eq_of_agreeOn agree _
  have strategy : plan.callStrategy = other.callStrategy := by
    rw [compiles.strategy, compilesOther.strategy, state]
  rw [MarshalingPlan.AlikeButExposure, arguments, returnStep, strategy, state, compiles.methodName,
    compiles.className, compiles.kind, compiles.isStatic, compiles.isVararg, compiles.abiHash,
    ← compilesOther.methodName, ← compilesOther.className, ← compilesOther.kind,
    ← compilesOther.isStatic, ← compilesOther.isVararg, ← compilesOther.abiHash]

/-- Policies that answer alike expose a method alike. -/
theorem exposure_eq_of_answersAlike {methodName : String} {owner : Document}
    (alike : first.policy.AnswersAlike second.policy owner methodName) (state : BindingState) :
    first.exposure (.text methodName) owner state =
      second.exposure (.text methodName) owner state := by
  cases state with
  | virtual => rfl
  | bound => simp only [exposure, alike.usedByProperty, Naming.apply, alike.publicName]

/-- The plans that differ in nothing but the exposure are the same where the policies answer
alike. -/
theorem eq_of_answersAlike (alike : plan.AlikeButExposure other)
    (answers : first.policy.AnswersAlike second.policy (.ofText? className) descriptor.name)
    (compiled : (first.compile (.ofDescriptor descriptor) (.ofText? className) kind).outcome =
      .ok plan)
    (compiledOther :
      (second.compile (.ofDescriptor descriptor) (.ofText? className) kind).outcome = .ok other) :
    plan = other := by
  have ⟨exposed, judged⟩ := exposure_of_compile compiled
  have ⟨exposedOther, judgedOther⟩ := exposure_of_compile compiledOther
  have state : other.bindingState = plan.bindingState := congrArg (·.bindingState) alike
  have exposure : (plan.visibility, plan.exposedName) = (other.visibility, other.exposedName) := by
    apply Except.ok.inj
    rw [← exposed, ← exposedOther, state]
    exact exposure_eq_of_answersAlike answers plan.bindingState
  have ⟨visibility, exposedName⟩ := Prod.mk.inj exposure
  have discardable : plan.discardableResult = other.discardableResult :=
    Except.ok.inj (judged.symm.trans (answers.discardableResult.trans judgedOther))
  rw [alike, ← discardable, ← visibility, ← exposedName]

/-- Compiling depends on what the tables say about the type names of a signature, and a policy
decides nothing but the exposure. -/
theorem compile_local (agree : first.classifier.AgreeOn second.classifier descriptor.typeNames)
    (typed : first.policy.WellTyped) (typedOther : second.policy.WellTyped)
    (className : Option String) (kind : MethodKind) :
    let outcome (compiler : PlanCompiler) :=
      (compiler.compile (.ofDescriptor descriptor) (.ofText? className) kind).outcome
    (∃ failure, outcome first = .error failure ∧ outcome second = .error failure) ∨
    ∃ plan other, outcome first = .ok plan ∧ outcome second = .ok other ∧
      plan.AlikeButExposure other ∧
      (first.policy.AnswersAlike second.policy (.ofText? className) descriptor.name →
        plan = other) := by
  intro outcome
  by_cases pointer : descriptor.HasPointer
  · cases found : rawPointer? (.ofDescriptor descriptor) with
    | none => exact absurd pointer (rawPointer?_eq_none_iff.mp found)
    | some place =>
        exact .inl ⟨_, compile_of_pointer first found kind, compile_of_pointer second found kind⟩
  by_cases agrees : descriptor.abiHash.isSome = descriptor.isVirtual
  · exact .inl ⟨_, compile_of_mismatch first pointer agrees className kind,
      compile_of_mismatch second pointer agrees className kind⟩
  have ⟨plan, compiled⟩ := exists_plan_of_fits typed pointer agrees className kind
  have ⟨other, compiledOther⟩ := exists_plan_of_fits typedOther pointer agrees className kind
  have alike := alikeButExposure_of_compile agree compiled compiledOther
  exact .inr ⟨plan, other, compiled, compiledOther, alike, fun answers =>
    eq_of_answersAlike alike answers compiled compiledOther⟩

/-- A method of two configurations that have little but its type names in common: it is reached
through a property in one, and has a public name of its own in the other. -/
theorem compile_local_of_renaming :
    let descriptor : MethodDescriptor :=
      ⟨"place", [⟨"at", "Vector2", none, none⟩, ⟨"below", "Node", none, none⟩,
        ⟨"side", "enum::Side", none, none⟩, ⟨"all", "typedarray::Node", none, none⟩],
        some ⟨"int", some "int32"⟩, false, false, false, false, some (.int 7)⟩
    let other : TypeClassifier :=
      ⟨[("Vector2", .bytes 8), ("Array", .bytes 8), ("Vector3", .bytes 24)], ["Node", "Tree"],
        .bytes 8, rfl⟩
    let first : PlanCompiler := ⟨.bundled ["Node", "Resource"],
      ⟨.byHand (.table [("Node", .array [.text "place"])]), .empty, .escaped⟩⟩
    let second : PlanCompiler := ⟨other, ⟨.empty, .empty, .between "node_" ""⟩⟩
    first.classifier.AgreeOn second.classifier descriptor.typeNames ∧
      first.policy.WellTyped ∧ second.policy.WellTyped ∧
      ∃ plan other, plan.AlikeButExposure other ∧
        (first.compile (.ofDescriptor descriptor) (.ofText? (some "Node")) .classMethod).outcome =
          .ok plan ∧
        (second.compile (.ofDescriptor descriptor) (.ofText? (some "Node")) .classMethod).outcome =
          .ok other ∧
        plan.visibility = .internal ∧ other.exposedName = .text "node_place" := by
  intro descriptor other first second
  have named : descriptor.typeNames =
      ["Vector2", "Node", "enum::Side", "typedarray::Node", "int"] := rfl
  have agree : first.classifier.AgreeOn second.classifier descriptor.typeNames := by
    rw [named]
    constructor
    · simp only [List.forall_mem_cons]
      exact ⟨rfl, rfl, rfl, rfl, rfl, nofun⟩
    · change ∀ typeName ∈ _, typeName ∈ ["Node", "Resource"] ↔ typeName ∈ ["Node", "Tree"]
      decide
    · rfl
  have typed : first.policy.WellTyped := ⟨⟨_, rfl, by simp⟩, trivial⟩
  have typedOther : second.policy.WellTyped := ⟨trivial, trivial⟩
  refine ⟨agree, typed, typedOther, ?_⟩
  rcases compile_local agree typed typedOther (some "Node") .classMethod with
    ⟨failure, refused, -⟩ | ⟨plan, other, compiled, compiledOther, alike, -⟩
  · cases refused
  · refine ⟨plan, other, alike, compiled, compiledOther, ?_, ?_⟩
    · cases compiled
      rfl
    · cases compiledOther
      rfl

end PlanCompiler

end EngineBridge
