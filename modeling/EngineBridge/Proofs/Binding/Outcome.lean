import EngineBridge.Proofs.Binding.Calls
import EngineBridge.Proofs.Plan.Configured

/-!
How a binding ends.

A call goes through its methods in order and stops at the first that it can neither skip nor plan.
Main statement: with a configured compiler each call ends, with a binding if it stops at no method
and otherwise with what is wrong with the method at which it stops. The failure is one of the library's
own, except at a virtual method that belongs to no class and where a hash cannot be written.
-/

namespace EngineBridge

/-- Names that are texts can always be registered. -/
theorem VirtualRegistrar.exists_register (registrar : VirtualRegistrar)
    (className methodName : String) :
    ∃ next, (registrar.register (.text className) (.text methodName)).outcome = .ok next := by
  unfold register
  have ⟨names, known⟩ : ∃ names, registrar.virtualMethods (.text className) = .ok names := ⟨_, rfl⟩
  rw [known, Logged.outcome_bind_of_ok _ rfl]
  split
  · exact ⟨_, rfl⟩
  · exact ⟨_, rfl⟩

namespace BindingCall

variable {compiler : PlanCompiler} {className : Option String} {kind : MethodKind}

/-- Whether a call ends at a method. The hash of the method does not agree with its being virtual, or
there is no class under which the virtual method could be entered. -/
def StopsAt (className : Option String) (descriptor : MethodDescriptor) : Prop :=
  ¬descriptor.HasPointer ∧
    (descriptor.abiHash.isSome = descriptor.isVirtual ∨
      className = none ∧ descriptor.isVirtual = true)

/-- What a call fails with that ends at a method. -/
def stopFailure (className : Option String) (descriptor : MethodDescriptor) : Failure :=
  if descriptor.abiHash.isSome = descriptor.isVirtual then
    PlanCompiler.mismatchFailure descriptor className
  else .badValue (.virtualWithoutClass (.text descriptor.name))

/-- How a call ends that binds methods. -/
inductive EndsWith (className : Option String) :
    List MethodDescriptor → Except Failure ClassBinding → Prop
  | returned {descriptors : List MethodDescriptor} (binding : ClassBinding)
      (goes : ∀ descriptor ∈ descriptors, ¬StopsAt className descriptor) :
      EndsWith className descriptors (.ok binding)
  | stopped (before after : List MethodDescriptor) (descriptor : MethodDescriptor)
      (goes : ∀ earlier ∈ before, ¬StopsAt className earlier)
      (stops : StopsAt className descriptor) :
      EndsWith className (before ++ descriptor :: after) (.error (stopFailure className descriptor))

/-- A call does not go on after a method whose hash does not agree with its being virtual. -/
theorem goesOn_mismatchFailure (descriptor : MethodDescriptor) (className : Option String) :
    goesOn (.error (PlanCompiler.mismatchFailure descriptor className)) = false := by
  rcases PlanCompiler.mismatchFailure_eq_or descriptor className with same | same
  · rw [same]
    rfl
  · rw [same]
    rfl

/-- A plan is virtual exactly if its method is. -/
theorem isVirtual_eq {descriptor : MethodDescriptor} {plan : MarshalingPlan}
    (isPlan : compiler.IsPlanFor descriptor className kind plan) :
    plan.isVirtual = descriptor.isVirtual := by
  rw [Bool.eq_iff_iff, ← isPlan.virtual_iff, MarshalingPlan.isVirtual, beq_iff_eq]

/-- Every plan that is not virtual or belongs to a class is taken in. -/
theorem exists_registerPlan {descriptor : MethodDescriptor} {plan : MarshalingPlan}
    (isPlan : compiler.IsPlanFor descriptor className kind plan)
    (owned : ¬(className = none ∧ plan.isVirtual = true)) (registrar : VirtualRegistrar) :
    ∃ registered, (registrar.registerPlan plan).outcome = .ok registered := by
  cases virtual : plan.isVirtual with
  | false =>
      rw [registerPlan_of_not_virtual virtual]
      exact ⟨_, rfl⟩
  | true =>
      cases className with
      | none => exact absurd ⟨rfl, virtual⟩ owned
      | some className =>
          have ⟨name, named⟩ : ∃ name, plan.exposedName = .text name := ⟨_, isPlan.exposedName⟩
          have ⟨next, entered⟩ := registrar.exists_register className name
          rw [VirtualRegistrar.registerPlan, virtual, isPlan.owner, named]
          change ∃ registered,
            (registrar.register (.text className) _ >>= _).outcome = .ok registered
          rw [Logged.outcome_bind_of_ok _ entered]
          exact ⟨_, rfl⟩

/-- A method is taken in, with a plan or as one that is skipped, or the call ends at it. -/
theorem outcome_addMethod (typed : compiler.policy.WellTyped) {state : BinderState}
    (owner : state.binding.className = .ofText? className) (isKind : state.binding.kind = kind)
    (descriptor : MethodDescriptor) :
    (¬StopsAt className descriptor ∧
      ∃ next, (state.addMethod compiler (.ofDescriptor descriptor)).outcome = .ok next ∧
        next.binding.className = .ofText? className ∧ next.binding.kind = kind) ∨
    (StopsAt className descriptor ∧
      (state.addMethod compiler (.ofDescriptor descriptor)).outcome =
        .error (stopFailure className descriptor)) := by
  by_cases pointer : descriptor.HasPointer
  · have goes : ¬StopsAt className descriptor := fun stops => stops.1 pointer
    cases found : PlanCompiler.rawPointer? (.ofDescriptor descriptor) with
    | none => exact absurd pointer (PlanCompiler.rawPointer?_eq_none_iff.mp found)
    | some first =>
        have noted := addMethod_of_pointer owner isKind
          (PlanCompiler.compile_of_pointer compiler found kind)
        exact .inl ⟨goes, _, noted, owner, isKind⟩
  by_cases agrees : descriptor.abiHash.isSome = descriptor.isVirtual
  · have failed := addMethod_of_failure owner isKind
      (PlanCompiler.compile_of_mismatch compiler pointer agrees className kind)
      (goesOn_mismatchFailure descriptor className)
    rw [stopFailure, if_pos agrees]
    exact .inr ⟨⟨pointer, .inl agrees⟩, failed⟩
  · have ⟨plan, made⟩ := PlanCompiler.exists_plan_of_fits typed pointer agrees className kind
    have isPlan := PlanCompiler.isPlanFor_of_compile made
    have added := addMethod_of_plan owner isKind made
    rw [added, stopFailure, if_neg agrees]
    by_cases unowned : className = none ∧ plan.isVirtual = true
    · have stops : StopsAt className descriptor :=
        ⟨pointer, .inr ⟨unowned.1, isVirtual_eq isPlan ▸ unowned.2⟩⟩
      rw [unowned.1] at isPlan
      rw [registerPlan_without_class isPlan unowned.2]
      exact .inr ⟨stops, rfl⟩
    · have goes : ¬StopsAt className descriptor := by
        rintro ⟨_, mismatched | ⟨noClass, virtual⟩⟩
        · exact agrees mismatched
        · exact unowned ⟨noClass, (isVirtual_eq isPlan).trans virtual⟩
      have ⟨registered, entered⟩ := exists_registerPlan isPlan unowned state.registrar
      rw [entered]
      exact .inl ⟨goes, _, rfl, owner, isKind⟩

/-- A call goes on up to the first method at which it ends. -/
theorem endsWith_addMethods (typed : compiler.policy.WellTyped) {state : BinderState}
    (owner : state.binding.className = .ofText? className) (isKind : state.binding.kind = kind)
    (descriptors : List MethodDescriptor) :
    ∃ result, (BindResult.addMethods compiler (descriptors.map .ofDescriptor) state).outcome =
      .ok result ∧ EndsWith className descriptors result.outcome := by
  induction descriptors generalizing state with
  | nil => exact ⟨⟨state.registrar, .ok state.binding⟩, rfl, .returned _ (by simp)⟩
  | cons descriptor rest induction =>
      simp only [List.map_cons, BindResult.addMethods]
      rcases outcome_addMethod typed owner isKind descriptor with
        ⟨goes, next, added, nextOwner, nextKind⟩ | ⟨stops, failed⟩
      · have attempted : (state.addMethod compiler (.ofDescriptor descriptor)).attempt.outcome =
            .ok (.ok next) := congrArg Except.ok added
        obtain ⟨result, ran, ends⟩ := induction nextOwner nextKind
        rw [Logged.outcome_bind_of_ok _ attempted]
        refine ⟨result, ran, ?_⟩
        rcases result with ⟨registrar, outcome⟩
        cases ends with
        | returned binding others =>
            exact .returned binding (List.forall_mem_cons.mpr ⟨goes, others⟩)
        | stopped before after last others stops =>
            exact .stopped (descriptor :: before) after last
              (List.forall_mem_cons.mpr ⟨goes, others⟩) stops
      · have attempted : (state.addMethod compiler (.ofDescriptor descriptor)).attempt.outcome =
            .ok (.error (stopFailure className descriptor)) := congrArg Except.ok failed
        rw [Logged.outcome_bind_of_ok _ attempted]
        exact ⟨⟨state.registrar, .error (stopFailure className descriptor)⟩, rfl,
          .stopped [] rest descriptor (by simp) stops⟩

theorem endsWith_perform (typed : compiler.policy.WellTyped) (registrar : VirtualRegistrar)
    (call : BindingCall) :
    ∃ result, (call.perform compiler registrar).outcome = .ok result ∧
      EndsWith call.className call.descriptors result.outcome :=
  endsWith_addMethods typed rfl rfl call.descriptors

/-- A call that ends at its first method fails with what is wrong with it. -/
theorem EndsWith.eq_stopFailure {descriptor : MethodDescriptor} {rest : List MethodDescriptor}
    {outcome : Except Failure ClassBinding}
    (ends : EndsWith className (descriptor :: rest) outcome)
    (stops : StopsAt className descriptor) : outcome = .error (stopFailure className descriptor) := by
  generalize same : descriptor :: rest = descriptors at ends
  cases ends with
  | returned binding goes =>
      exact absurd stops (goes descriptor (same ▸ List.mem_cons_self))
  | stopped before after last goes _ =>
      cases before with
      | nil =>
          cases same
          rfl
      | cons first before =>
          cases same
          exact absurd stops (goes descriptor List.mem_cons_self)

/-- A call fails with one of the library's own failures, or at a virtual method: one without a class,
or one whose hash cannot be written. -/
theorem EndsWith.isReported_or {descriptors : List MethodDescriptor} {failure : Failure}
    (ends : EndsWith className descriptors (.error failure)) :
    failure.isReported = true ∨
    (className = none ∧ ∃ descriptor ∈ descriptors,
      descriptor.isVirtual = true ∧ descriptor.abiHash = none ∧ ¬descriptor.HasPointer ∧
        failure = .badValue (.virtualWithoutClass (.text descriptor.name))) ∨
    ∃ descriptor ∈ descriptors, descriptor.isVirtual = true ∧ ¬descriptor.HasWritableHash ∧
      ¬descriptor.HasPointer ∧ failure = .unreadable := by
  cases ends with
  | stopped before after descriptor goes stops =>
      have listed : descriptor ∈ before ++ descriptor :: after :=
        List.mem_append_right _ List.mem_cons_self
      obtain ⟨plain, stops⟩ := stops
      unfold stopFailure
      by_cases agrees : descriptor.abiHash.isSome = descriptor.isVirtual
      · rw [if_pos agrees]
        by_cases writable : descriptor.HasWritableHash
        · rw [PlanCompiler.mismatchFailure_of_writable writable]
          exact .inl rfl
        · rw [PlanCompiler.mismatchFailure_of_unwritable writable]
          have hashed : descriptor.abiHash.isSome = true := by
            obtain ⟨hash, unwritable⟩ := Classical.not_forall.mp writable
            exact Option.isSome_of_eq_some (Classical.not_imp.mp unwritable).1
          exact .inr (.inr ⟨descriptor, listed, agrees ▸ hashed, writable, plain, rfl⟩)
      · rw [if_neg agrees]
        have ⟨noClass, virtual⟩ := stops.resolve_left agrees
        have noHash : descriptor.abiHash = none := by
          cases hash : descriptor.abiHash with
          | none => rfl
          | some hash => simp_all
        exact .inr (.inl ⟨noClass, descriptor, listed, virtual, noHash, plain, rfl⟩)

theorem EndsWith.isReported_or_of_writable {descriptors : List MethodDescriptor} {failure : Failure}
    (ends : EndsWith className descriptors (.error failure))
    (writable : ∀ descriptor ∈ descriptors, descriptor.HasWritableHash) :
    failure.isReported = true ∨
    className = none ∧ ∃ descriptor ∈ descriptors,
      descriptor.isVirtual = true ∧ descriptor.abiHash = none ∧ ¬descriptor.HasPointer ∧
        failure = .badValue (.virtualWithoutClass (.text descriptor.name)) := by
  refine ends.isReported_or.imp_right fun unreported => unreported.resolve_right ?_
  rintro ⟨descriptor, listed, _, unwritable, _⟩
  exact unwritable (writable descriptor listed)

end BindingCall

end EngineBridge
