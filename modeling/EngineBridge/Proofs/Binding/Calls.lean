import EngineBridge.Proofs.Binding.Register

/-!
One binder, called again and again.

A call compiles methods until one of them fails for another reason than a raw pointer. What the
register holds after any calls, whether they returned or not, is what the virtual methods among the
compiled ones give: `BindingCall.entries` lists it call by call.
-/

namespace EngineBridge

open VirtualRegistrar (classesOf methodsOf)

/-- A call that binds the methods of a class, or methods that belong to no class. -/
structure BindingCall where
  className : Option String
  descriptors : List MethodDescriptor
  kind : MethodKind

namespace BindingCall

/-- The call that binds utility functions. -/
def utilities (descriptors : List MethodDescriptor) : BindingCall :=
  ⟨none, descriptors, .utility⟩

def perform (compiler : PlanCompiler) (registrar : VirtualRegistrar) (call : BindingCall) :
    Logged BindResult :=
  bindMethods compiler registrar (.ofText? call.className)
    (call.descriptors.map .ofDescriptor) call.kind

theorem perform_utilities (compiler : PlanCompiler) (registrar : VirtualRegistrar)
    (descriptors : List MethodDescriptor) :
    (utilities descriptors).perform compiler registrar =
      bindUtilities compiler registrar (descriptors.map .ofDescriptor) := rfl

/-- Calls one after the other, each going on with the register that the one before left behind. -/
def performAll (compiler : PlanCompiler) : List BindingCall → VirtualRegistrar →
    Logged (VirtualRegistrar × List (Except Failure ClassBinding))
  | [], registrar => return (registrar, [])
  | call :: rest, registrar => do
      let result ← call.perform compiler registrar
      let (last, outcomes) ← performAll compiler rest result.registrar
      return (last, result.outcome :: outcomes)

/-- What compiling a method of a call comes to. -/
def compiled (compiler : PlanCompiler) (className : Option String) (kind : MethodKind)
    (descriptor : MethodDescriptor) : Except Failure MarshalingPlan :=
  (compiler.compile (.ofDescriptor descriptor) (.ofText? className) kind).outcome

/-- Whether a call goes on after a method: it skips raw pointers and ends with any other failure. -/
def goesOn : Except Failure MarshalingPlan → Bool
  | .ok _ => true
  | .error (.unsupportedSignature ..) => true
  | .error _ => false

/-- The name under which a plan is exposed, if it is virtual. -/
def virtualName? : Except Failure MarshalingPlan → Option String
  | .ok plan => if plan.isVirtual then some plan.exposedName.wording else none
  | .error _ => none

/-- The exposed names of the virtual plans that come of methods before the first that fails. -/
def virtualNames (compiler : PlanCompiler) (className : Option String) (kind : MethodKind)
    (descriptors : List MethodDescriptor) : List String :=
  ((descriptors.map (compiled compiler className kind)).takeWhile goesOn).filterMap virtualName?

/-- Names under their class. Without a class nothing is entered. -/
def entriesOf (className : Option String) (names : List String) : List (String × String) :=
  match className with
  | some className => names.map fun name => (className, name)
  | none => []

/-- What a call enters in the register, whether it returns or not. -/
def entries (compiler : PlanCompiler) (call : BindingCall) : List (String × String) :=
  entriesOf call.className
    (virtualNames compiler call.className call.kind call.descriptors)

/-- The virtual methods that the outcome of a call lists for a class. -/
def listedFor (className : String) : Except Failure ClassBinding → List Document
  | .ok binding => if binding.className.same (.text className) then binding.virtualMethods else []
  | .error _ => []

variable {compiler : PlanCompiler} {className : Option String} {kind : MethodKind}

theorem entriesOf_append (className : Option String) (first second : List String) :
    entriesOf className (first ++ second) =
      entriesOf className first ++ entriesOf className second := by
  cases className with
  | none => rfl
  | some className => exact List.map_append

theorem virtualNames_cons_of_goesOn {descriptor : MethodDescriptor}
    (goes : goesOn (compiled compiler className kind descriptor) = true)
    (rest : List MethodDescriptor) :
    virtualNames compiler className kind (descriptor :: rest) =
      (virtualName? (compiled compiler className kind descriptor)).toList ++
        virtualNames compiler className kind rest := by
  rw [virtualNames, List.map_cons, List.takeWhile_cons_of_pos goes, List.filterMap_cons]
  cases virtualName? (compiled compiler className kind descriptor) <;> rfl

theorem virtualNames_cons_of_not_goesOn {descriptor : MethodDescriptor}
    (stops : goesOn (compiled compiler className kind descriptor) = false)
    (rest : List MethodDescriptor) :
    virtualNames compiler className kind (descriptor :: rest) = [] := by
  rw [virtualNames, List.map_cons, List.takeWhile_cons_of_neg (by simp [stops])]
  rfl

/-- What one method makes of the state of a binder, if the call goes on after it. -/
structure Adds (className : Option String) (names : List String) (entries : List (String × String))
    (state next : BinderState) : Prop where
  owner : next.binding.className = state.binding.className
  kind : next.binding.kind = state.binding.kind
  registers : next.registrar.Records (entries ++ entriesOf className names)
  lists : next.binding.virtualMethods = state.binding.virtualMethods ++ names.map .text

/-- No name adds no entry. -/
theorem records_of_nothing {registrar : VirtualRegistrar} {entries : List (String × String)}
    (records : registrar.Records entries) : registrar.Records (entries ++ entriesOf className []) := by
  cases className <;> simpa [entriesOf] using records

theorem registerPlan_of_not_virtual {registrar : VirtualRegistrar} {plan : MarshalingPlan}
    (bound : plan.isVirtual = false) : registrar.registerPlan plan = pure (registrar, false) := by
  rw [VirtualRegistrar.registerPlan, bound]
  rfl

/-- A virtual plan is entered under its class. -/
theorem registerPlan_of_virtual {registrar : VirtualRegistrar} {entries : List (String × String)}
    (records : registrar.Records entries) {descriptor : MethodDescriptor} {plan : MarshalingPlan}
    {owner : String} (isPlan : compiler.IsPlanFor descriptor (some owner) kind plan)
    (virtual : plan.isVirtual = true) :
    ∃ next, (registrar.registerPlan plan).outcome = .ok (next, true) ∧
      next.Records (entries ++ entriesOf (some owner) [plan.exposedName.wording]) := by
  have ⟨name, named⟩ : ∃ name, plan.exposedName = .text name := ⟨_, isPlan.exposedName⟩
  rw [VirtualRegistrar.registerPlan, virtual, isPlan.owner, named]
  have ⟨next, registered, holds⟩ := VirtualRegistrar.records_register records owner name
  refine ⟨next, ?_, holds⟩
  change (registrar.register (.text owner) _ >>= _).outcome = _
  rw [Logged.outcome_bind_of_ok _ registered]
  rfl

/-- A virtual plan is refused if there is no class under which it could be entered. -/
theorem registerPlan_without_class {descriptor : MethodDescriptor} {plan : MarshalingPlan}
    (isPlan : compiler.IsPlanFor descriptor none kind plan) (virtual : plan.isVirtual = true)
    (registrar : VirtualRegistrar) :
    (registrar.registerPlan plan).outcome =
      .error (.badValue (.virtualWithoutClass (.text descriptor.name))) := by
  rw [VirtualRegistrar.registerPlan, virtual, isPlan.owner, isPlan.methodName]
  rfl

section

variable {state : BinderState} {descriptor : MethodDescriptor}

theorem attempt_compile (owner : state.binding.className = .ofText? className)
    (isKind : state.binding.kind = kind) (descriptor : MethodDescriptor) :
    ((compiler.compile (.ofDescriptor descriptor) state.binding.className
      state.binding.kind).attempt).outcome = .ok (compiled compiler className kind descriptor) := by
  rw [owner, isKind]
  rfl

/-- A raw pointer is noted down, and nothing else changes. -/
theorem addMethod_of_pointer (owner : state.binding.className = .ofText? className)
    (isKind : state.binding.kind = kind) {location : Document} {typeName position : String}
    (refused : compiled compiler className kind descriptor =
      .error (.unsupportedSignature location typeName position)) :
    (state.addMethod compiler (.ofDescriptor descriptor)).outcome =
      .ok { state with binding := { state.binding with
        skipped := state.binding.skipped.replace (.text descriptor.name) (.text descriptor.name)
          (((Failure.unsupportedSignature location typeName position).message).getD "") } } := by
  unfold BinderState.addMethod
  rw [Logged.outcome_bind_of_ok _ (attempt_compile owner isKind descriptor), refused]
  rfl

theorem addMethod_of_failure (owner : state.binding.className = .ofText? className)
    (isKind : state.binding.kind = kind) {failure : Failure}
    (failed : compiled compiler className kind descriptor = .error failure)
    (stops : goesOn (.error failure) = false) :
    (state.addMethod compiler (.ofDescriptor descriptor)).outcome = .error failure := by
  unfold BinderState.addMethod
  rw [Logged.outcome_bind_of_ok _ (attempt_compile owner isKind descriptor), failed]
  cases failure <;> first | rfl | cases stops

/-- A plan is added, if it can be registered. -/
theorem addMethod_of_plan (owner : state.binding.className = .ofText? className)
    (isKind : state.binding.kind = kind) {plan : MarshalingPlan}
    (made : compiled compiler className kind descriptor = .ok plan) :
    (state.addMethod compiler (.ofDescriptor descriptor)).outcome =
      (state.registrar.registerPlan plan).outcome.map fun registered =>
        { binding := { state.binding with
            plans := state.binding.plans.replace (.text descriptor.name) (.text descriptor.name) plan
            virtualMethods := if registered.2 then
              state.binding.virtualMethods ++ [plan.exposedName] else state.binding.virtualMethods }
          registrar := registered.1 } := by
  unfold BinderState.addMethod
  rw [Logged.outcome_bind_of_ok _ (attempt_compile owner isKind descriptor), made]
  change (liftM (state.binding.plans.put (.text descriptor.name) plan) >>= _ : Logged _).outcome = _
  rw [Logged.outcome_bind_of_ok _ rfl]
  cases registered : (state.registrar.registerPlan plan).outcome with
  | error failure => rw [Logged.bind_of_error _ registered]; rfl
  | ok value => rw [Logged.outcome_bind_of_ok _ registered]; rfl

end

/-- A method is skipped or planned, with its name entered if it is virtual, or it ends the call. In
the last case it fails by itself, or there is no class under which it could be entered. -/
theorem addMethod_cases {state : BinderState} {entries : List (String × String)}
    (records : state.registrar.Records entries)
    (owner : state.binding.className = .ofText? className) (isKind : state.binding.kind = kind)
    (descriptor : MethodDescriptor) :
    (∃ next, (state.addMethod compiler (.ofDescriptor descriptor)).outcome = .ok next ∧
      goesOn (compiled compiler className kind descriptor) = true ∧
      Adds className (virtualName? (compiled compiler className kind descriptor)).toList entries
        state next) ∨
    ∃ failure, (state.addMethod compiler (.ofDescriptor descriptor)).outcome = .error failure ∧
      (goesOn (compiled compiler className kind descriptor) = false ∨ className = none) := by
  cases outcome : compiled compiler className kind descriptor with
  | error failure =>
      by_cases goes : goesOn (.error failure) = true
      · cases failure <;> simp only [goesOn, Bool.false_eq_true] at goes
        have noted := addMethod_of_pointer owner isKind outcome
        exact .inl ⟨_, noted, rfl, {
          owner := rfl
          kind := rfl
          registers := records_of_nothing records
          lists := (List.append_nil _).symm }⟩
      · have stops := eq_false_of_ne_true goes
        exact .inr ⟨failure, addMethod_of_failure owner isKind outcome stops, .inl stops⟩
  | ok plan =>
      have isPlan := PlanCompiler.isPlanFor_of_compile outcome
      have added := addMethod_of_plan owner isKind outcome
      rw [added]
      cases virtual : plan.isVirtual with
      | false =>
          rw [registerPlan_of_not_virtual virtual]
          refine .inl ⟨_, rfl, rfl, ?_⟩
          simp only [virtualName?, virtual]
          exact {
            owner := rfl
            kind := rfl
            registers := records_of_nothing records
            lists := (List.append_nil _).symm }
      | true =>
          cases className with
          | none =>
              rw [registerPlan_without_class isPlan virtual]
              exact .inr ⟨_, rfl, .inr rfl⟩
          | some className =>
              have ⟨next, registered, holds⟩ := registerPlan_of_virtual records isPlan virtual
              rw [registered]
              refine .inl ⟨_, rfl, rfl, ?_⟩
              simp only [virtualName?, virtual]
              exact {
                owner := rfl
                kind := rfl
                registers := holds
                lists := by rw [isPlan.exposedName]; rfl }

/-- What a call leaves behind, however it ends: what it entered, and in a binding the same names
with their repetitions. -/
theorem addMethods_leaves (compiler : PlanCompiler) {state : BinderState}
    {entries : List (String × String)} (records : state.registrar.Records entries)
    (owner : state.binding.className = .ofText? className) (isKind : state.binding.kind = kind)
    (descriptors : List MethodDescriptor) :
    ∃ result, (BindResult.addMethods compiler (descriptors.map .ofDescriptor) state).outcome =
        .ok result ∧
      result.registrar.Records
        (entries ++ entriesOf className (virtualNames compiler className kind descriptors)) ∧
      ∀ binding, result.outcome = .ok binding → binding.className = .ofText? className ∧
        binding.virtualMethods = state.binding.virtualMethods ++
          (virtualNames compiler className kind descriptors).map .text := by
  induction descriptors generalizing state entries with
  | nil =>
      refine ⟨⟨state.registrar, .ok state.binding⟩, rfl, records_of_nothing records, ?_⟩
      rintro binding ⟨⟩
      exact ⟨owner, (List.append_nil _).symm⟩
  | cons descriptor rest induction =>
      simp only [List.map_cons, BindResult.addMethods]
      rcases addMethod_cases records owner isKind descriptor with
        ⟨next, added, goes, adds⟩ | ⟨failure, failed, stops⟩
      · have attempted : (state.addMethod compiler (.ofDescriptor descriptor)).attempt.outcome =
            .ok (.ok next) := congrArg Except.ok added
        obtain ⟨result, ran, holds, lists⟩ :=
          induction adds.registers (adds.owner.trans owner) (adds.kind.trans isKind)
        rw [Logged.outcome_bind_of_ok _ attempted, virtualNames_cons_of_goesOn goes,
          entriesOf_append, ← List.append_assoc]
        refine ⟨result, ran, holds, fun binding returned => ?_⟩
        obtain ⟨isOwner, listed⟩ := lists binding returned
        rw [listed, adds.lists, List.map_append, List.append_assoc]
        exact ⟨isOwner, rfl⟩
      · have attempted : (state.addMethod compiler (.ofDescriptor descriptor)).attempt.outcome =
            .ok (.error failure) := congrArg Except.ok failed
        rw [Logged.outcome_bind_of_ok _ attempted]
        refine ⟨⟨state.registrar, .error failure⟩, rfl, ?_, nofun⟩
        -- a call that ends here entered nothing more, or has no class to enter anything under
        rcases stops with stops | rfl
        · rw [virtualNames_cons_of_not_goesOn stops]
          exact records_of_nothing records
        · simpa [entriesOf] using records

theorem perform_leaves (compiler : PlanCompiler) {registrar : VirtualRegistrar}
    {entries : List (String × String)} (records : registrar.Records entries) (call : BindingCall) :
    ∃ result, (call.perform compiler registrar).outcome = .ok result ∧
      result.registrar.Records (entries ++ call.entries compiler) ∧
      ∀ binding, result.outcome = .ok binding → ∀ className,
        listedFor className (.ok binding) =
          ((call.entries compiler).filter fun entry => entry.1 == className).map
            fun entry => .text entry.2 := by
  let state : BinderState := ⟨.empty (.ofText? call.className) call.kind, registrar⟩
  have started : state.registrar.Records entries := records
  obtain ⟨result, performed, holds, lists⟩ :=
    addMethods_leaves compiler started rfl rfl call.descriptors
  refine ⟨result, performed, holds, fun binding returned className => ?_⟩
  obtain ⟨owner, listed⟩ := lists binding returned
  rw [listedFor, owner, listed, BindingCall.entries]
  cases call.className with
  | none => rfl
  | some owner =>
      simp only [Document.ofText?, Document.same_text, entriesOf, List.filter_map,
        Function.comp_def]
      by_cases same : owner = className
      · subst same
        simp only [beq_self_eq_true, if_true, List.map_map, List.filter_eq_self.mpr fun _ _ => rfl]
        rfl
      · simp [same]

/-- What calls leave behind, one after the other. -/
theorem performAll_leaves (compiler : PlanCompiler) (calls : List BindingCall)
    {registrar : VirtualRegistrar} {entries : List (String × String)}
    (records : registrar.Records entries) :
    ∃ last outcomes, (performAll compiler calls registrar).outcome = .ok (last, outcomes) ∧
      outcomes.length = calls.length ∧
      last.Records (entries ++ calls.flatMap (BindingCall.entries compiler)) ∧
      ((∀ outcome ∈ outcomes, ∃ binding, outcome = .ok binding) → ∀ className,
        outcomes.flatMap (listedFor className) =
          ((calls.flatMap (BindingCall.entries compiler)).filter
            fun entry => entry.1 == className).map fun entry => .text entry.2) := by
  induction calls generalizing registrar entries with
  | nil => exact ⟨registrar, [], rfl, rfl, by simpa using records, fun _ _ => rfl⟩
  | cons call rest induction =>
      obtain ⟨result, performed, holds, lists⟩ := perform_leaves compiler records call
      obtain ⟨last, outcomes, ran, count, holdsAll, listsAll⟩ := induction holds
      refine ⟨last, result.outcome :: outcomes, ?_, by simp [count], ?_, ?_⟩
      · rw [performAll, Logged.outcome_bind_of_ok _ performed, Logged.outcome_bind_of_ok _ ran]
        rfl
      · simpa using holdsAll
      · intro returned className
        obtain ⟨binding, here⟩ := returned result.outcome (by simp)
        have there := listsAll (fun outcome member => returned outcome (by simp [member])) className
        rw [List.flatMap_cons, there, here, lists binding here, List.flatMap_cons,
          List.filter_append, List.map_append]

/-- The register after any calls, the failed ones among them. It maps the classes for which a
virtual plan was compiled, in the order of their first one, to the names under which the virtual
plans of the class are exposed, each where it came first. If all calls returned, these are the
virtual methods of the bindings of the class without their repetitions. -/
theorem register_of_calls (compiler : PlanCompiler) (calls : List BindingCall) :
    let entries := calls.flatMap (BindingCall.entries compiler)
    ∃ registrar outcomes,
      (performAll compiler calls .empty).outcome = .ok (registrar, outcomes) ∧
      outcomes.length = calls.length ∧
      registrar.document = .table ((classesOf entries).map fun className =>
        (className, .array ((methodsOf entries className).map .text))) ∧
      ((∀ outcome ∈ outcomes, ∃ binding, outcome = .ok binding) →
        ∀ className, ∃ names : List String,
          outcomes.flatMap (listedFor className) = names.map .text ∧
            registrar.virtualMethods (.text className) = .ok (names.eraseDups.map .text)) := by
  intro entries
  obtain ⟨registrar, outcomes, ran, count, records, lists⟩ :=
    performAll_leaves compiler calls VirtualRegistrar.records_empty
  rw [List.nil_append] at records
  refine ⟨registrar, outcomes, ran, count, VirtualRegistrar.document_of_records records, ?_⟩
  intro returned className
  refine ⟨(entries.filter fun entry => entry.1 == className).map Prod.snd, ?_, ?_⟩
  · rw [lists returned className, List.map_map]
    rfl
  · exact VirtualRegistrar.virtualMethods_of_records records className

end BindingCall

end EngineBridge
