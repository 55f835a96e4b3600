import EngineBridge.Proofs.Binding.Accounts
import EngineBridge.Proofs.Plan.Escaping

/-!
The names under which the methods of one class are exposed.

A method that is used by a property keeps its name, and every other bound method has its name escaped.
Main statement: different methods are exposed under different names exactly if no reserved word that
is escaped meets a method that has the escaped word for its own name.
-/

namespace EngineBridge

/-! ## Bound methods -/

/-- The engine can be asked for the method, and there are no raw pointers in its signature. -/
def MethodDescriptor.IsBound (descriptor : MethodDescriptor) : Prop :=
  ¬descriptor.HasPointer ∧ descriptor.abiHash.isSome = true ∧ descriptor.isVirtual = false

instance (descriptor : MethodDescriptor) : Decidable descriptor.IsBound :=
  inferInstanceAs (Decidable (_ ∧ _))

/-- Whether a method is reached through properties only. A table that cannot tell hides nothing. -/
def BindingPolicy.hides (policy : BindingPolicy) (className : Option String) (name : String) :
    Bool :=
  match policy.isUsedByProperty (.ofText? className) (.text name) with
  | .ok used => used
  | .error _ => false

theorem BindingPolicy.isUsedByProperty_eq {policy : BindingPolicy} (typed : policy.WellTyped)
    (className : Option String) (name : String) :
    policy.isUsedByProperty (.ofText? className) (.text name) = .ok (policy.hides className name) := by
  have ⟨used, listed⟩ := PolicyTable.exists_lists_eq_ok typed.usedByProperty className name
  have found : policy.isUsedByProperty (.ofText? className) (.text name) = .ok used := listed
  rw [hides, found]

namespace BindingCall

variable {compiler : PlanCompiler} {className : Option String} {kind : MethodKind}
  {descriptor : MethodDescriptor} {descriptors : List MethodDescriptor}

theorem not_stopsAt_of_isBound (bound : descriptor.IsBound) : ¬StopsAt className descriptor := by
  have ⟨_, hashed, notVirtual⟩ := bound
  rintro ⟨_, agrees | ⟨_, virtual⟩⟩
  · rw [hashed, notVirtual] at agrees
    cases agrees
  · rw [notVirtual] at virtual
    cases virtual

/-- A call that ends at none of its methods returns a binding. -/
theorem EndsWith.exists_of_goes {outcome : Except Failure ClassBinding}
    (ends : EndsWith className descriptors outcome)
    (goes : ∀ descriptor ∈ descriptors, ¬StopsAt className descriptor) :
    ∃ binding, outcome = .ok binding := by
  cases ends with
  | returned binding _ => exact ⟨binding, rfl⟩
  | stopped before after descriptor _ stops => exact absurd stops (goes descriptor (by simp))

/-- A bound method has a plan, which exposes it under its own name or under the escaped one. -/
theorem exists_plan_of_isBound (typed : compiler.policy.WellTyped)
    (naming : compiler.policy.naming = .escaped) (className : Option String) (kind : MethodKind)
    (bound : descriptor.IsBound) :
    ∃ plan, compiled compiler className kind descriptor = .ok plan ∧ plan.exposedName =
      .text (escapedUnless (compiler.policy.hides className) descriptor.name) := by
  have ⟨plain, hashed, notVirtual⟩ := bound
  have fits : descriptor.abiHash.isSome ≠ descriptor.isVirtual := by simp [hashed, notVirtual]
  have ⟨plan, made⟩ := PlanCompiler.exists_plan_of_fits typed plain fits className kind
  have isPlan := PlanCompiler.isPlanFor_of_compile made
  have notOpen : plan.bindingState ≠ .virtual := fun virtual => by
    rw [isPlan.virtual_iff, notVirtual] at virtual
    cases virtual
  have internal := isPlan.internal_iff
  rw [BindingPolicy.isUsedByProperty_eq typed] at internal
  refine ⟨plan, made, ?_⟩
  rw [isPlan.exposedName, naming, escapedUnless]
  cases seen : plan.visibility with
  | open_ => exact absurd (isPlan.open_iff.mp seen) notOpen
  | internal =>
      obtain ⟨_, hidden⟩ := internal.mp seen
      rw [Except.ok.inj hidden]
      rfl
  | public_ =>
      cases hidden : compiler.policy.hides className descriptor.name with
      | false => rfl
      | true =>
          have isBound : plan.bindingState = .bound := by
            cases state : plan.bindingState with
            | bound => rfl
            | virtual => exact absurd state notOpen
          rw [internal.mpr ⟨isBound, by rw [hidden]⟩] at seen
          cases seen

/-- What the plans of methods show, if it is known for each of them. -/
theorem map_values_collect {β : Type} {read : MarshalingPlan → β} {shown : MethodDescriptor → β}
    (made : ∀ descriptor ∈ descriptors, ∃ plan,
      compiled compiler className kind descriptor = .ok plan ∧ read plan = shown descriptor) :
    (Entries.values (collect Except.toOption
      (results compiler className kind descriptors))).map read = descriptors.map shown := by
  induction descriptors with
  | nil => rfl
  | cons descriptor rest induction =>
      have ⟨here, others⟩ := List.forall_mem_cons.mp made
      have ⟨plan, compiles, shows⟩ := here
      have behind := induction others
      simp only [results, collect, Entries.values, List.map_cons, List.filterMap_cons, compiles,
        Except.toOption, Option.map_some, shows] at behind ⊢
      rw [behind]

theorem supported_of_isBound (bound : ∀ descriptor ∈ descriptors, descriptor.IsBound) :
    supported descriptors = descriptors :=
  List.filter_eq_self.mpr fun descriptor member => decide_eq_true (bound descriptor member).1

/-- The plans of a class whose methods are all bound and have different names. -/
theorem exists_binding_of_isBound (typed : compiler.policy.WellTyped)
    (naming : compiler.policy.naming = .escaped) (registrar : VirtualRegistrar)
    {call : BindingCall} (bound : ∀ descriptor ∈ call.descriptors, descriptor.IsBound)
    (distinct : (call.descriptors.map (·.name)).Nodup) :
    ∃ result binding, (call.perform compiler registrar).outcome = .ok result ∧
      result.outcome = .ok binding ∧
      binding.plans.names = call.descriptors.map (fun descriptor => .text descriptor.name) ∧
      binding.plans.values.map MarshalingPlan.exposedName =
        ((call.descriptors.map (·.name)).map
          (escapedUnless (compiler.policy.hides call.className))).map .text := by
  have ⟨result, performed, ends⟩ := endsWith_perform typed registrar call
  have ⟨binding, returned⟩ := ends.exists_of_goes fun descriptor member =>
    not_stopsAt_of_isBound (bound descriptor member)
  have collects := collects_perform performed returned
  have keys := keys_plans typed collects
  rw [supported_of_isBound bound] at keys
  refine ⟨result, binding, performed, returned, ?_, ?_⟩
  · rw [names_plans typed collects, supported_of_isBound bound, eraseDups_of_nodup distinct,
      List.map_map]
    rfl
  · rw [collects.plans, NameTable.values_named, Entries.ofPairs_of_nodup (keys ▸ distinct),
      map_values_collect fun descriptor member =>
        exists_plan_of_isBound typed naming call.className call.kind (bound descriptor member),
      List.map_map, List.map_map]
    rfl

/-- Bound methods of different names are exposed under different names exactly if none of them has a
reserved word for its name, is not used by a property, and stands beside a method with the escaped
word for its name. -/
theorem perform_exposes_distinct_iff (typed : compiler.policy.WellTyped)
    (naming : compiler.policy.naming = .escaped) (registrar : VirtualRegistrar)
    (call : BindingCall) (bound : ∀ descriptor ∈ call.descriptors, descriptor.IsBound)
    (distinct : (call.descriptors.map (·.name)).Nodup) :
    ∃ result binding, (call.perform compiler registrar).outcome = .ok result ∧
      result.outcome = .ok binding ∧
      binding.plans.names = call.descriptors.map (fun descriptor => .text descriptor.name) ∧
      ((binding.plans.values.map MarshalingPlan.exposedName).Nodup ↔
        ∀ word ∈ reservedWords, word ∈ call.descriptors.map (·.name) →
          compiler.policy.isUsedByProperty (.ofText? call.className) (.text word) = .ok false →
          word ++ "_" ∉ call.descriptors.map (·.name)) := by
  have ⟨result, binding, performed, returned, names, exposed⟩ :=
    exists_binding_of_isBound typed naming registrar bound distinct
  refine ⟨result, binding, performed, returned, names, ?_⟩
  rw [exposed, nodup_map_text_iff, nodup_map_escapedUnless_iff distinct]
  simp only [BindingPolicy.isUsedByProperty_eq typed, Except.ok.injEq]
  exact ⟨fun free word reserved listed => free word listed reserved,
    fun free word listed reserved => free word reserved listed⟩

/-- A class with two bound methods without arguments. -/
def pairCall (first second : String) : BindingCall :=
  ⟨some "Node", [⟨first, [], none, false, false, false, false, some (.int 1)⟩,
    ⟨second, [], none, false, false, false, false, some (.int 2)⟩], .classMethod⟩

/-- A reserved word that is used by a property stays apart from the escaped word. -/
theorem perform_exposes_distinct_of_property :
    let policy : BindingPolicy :=
      ⟨.byHand (.table [("Node", .array [.text "class"])]), .empty, .escaped⟩
    let compiler : PlanCompiler := ⟨.bundled ["Node"], policy⟩
    let call := pairCall "class" "class_"
    policy.WellTyped ∧ (∀ descriptor ∈ call.descriptors, descriptor.IsBound) ∧
      (call.descriptors.map (·.name)).Nodup ∧
      ∃ result binding, (call.perform compiler .empty).outcome = .ok result ∧
        result.outcome = .ok binding ∧
        (binding.plans.values.map MarshalingPlan.exposedName).Nodup := by
  intro policy compiler call
  have typed : policy.WellTyped := ⟨⟨_, rfl, by simp⟩, trivial⟩
  have bound : ∀ descriptor ∈ call.descriptors, descriptor.IsBound := by decide +kernel
  have distinct : (call.descriptors.map (·.name)).Nodup := by decide
  have ⟨result, binding, performed, returned, _, exposed⟩ :=
    @perform_exposes_distinct_iff compiler typed rfl .empty call bound distinct
  refine ⟨typed, bound, distinct, result, binding, performed, returned, exposed.mpr ?_⟩
  -- the only reserved word among the names is used by a property
  intro word reserved listed shown
  have names : word ∈ ["class", "class_"] := listed
  rcases List.mem_pair.mp names with rfl | rfl
  · cases shown
  · exact absurd reserved (escaped_not_mem_reservedWords "class" (by decide))

/-- A method with a reserved word for its name is exposed like the one beside it. -/
theorem class_exposed_like_its_neighbour :
    let compiler : PlanCompiler := ⟨.bundled ["Node"], ⟨.empty, .empty, .escaped⟩⟩
    let call := pairCall "class" "class_"
    (∀ descriptor ∈ call.descriptors, descriptor.IsBound) ∧
      (call.descriptors.map (·.name)).Nodup ∧
      ∃ result binding, (call.perform compiler .empty).outcome = .ok result ∧
        result.outcome = .ok binding ∧
        binding.plans.values.map MarshalingPlan.exposedName = [.text "class_", .text "class_"] ∧
        ¬(binding.plans.values.map MarshalingPlan.exposedName).Nodup := by
  intro compiler call
  have bound : ∀ descriptor ∈ call.descriptors, descriptor.IsBound := by decide +kernel
  have distinct : (call.descriptors.map (·.name)).Nodup := by decide
  have ⟨result, binding, performed, returned, _, exposed⟩ :=
    @exists_binding_of_isBound compiler ⟨trivial, trivial⟩ rfl .empty call bound distinct
  have names : (call.descriptors.map (·.name)).map
      (escapedUnless (compiler.policy.hides call.className)) = ["class_", "class_"] := by
    decide +kernel
  rw [names] at exposed
  refine ⟨bound, distinct, result, binding, performed, returned, exposed, ?_⟩
  rw [exposed, nodup_map_text_iff]
  decide

end BindingCall

end EngineBridge
