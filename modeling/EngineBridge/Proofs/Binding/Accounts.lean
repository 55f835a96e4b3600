import EngineBridge.Proofs.Binding.Outcome
import EngineBridge.Proofs.Binding.Written

/-!
What a binding says about the methods that it was made of.

Plans and reasons stand under the names of methods, where a name keeps its first place and the last
thing that was put there; the list of virtual methods grows by each of them. Main statements: if the
names are all different, a binding accounts for every method once, and a call ends without one
exactly if a method breaks an invariant. Names that occur again take plans and reasons away, and just then
the three collections of a binding do not agree with each other.
-/

namespace EngineBridge

namespace BindingCall

/-! ## The collections of a binding -/

/-- What compiling each method comes to, with the name of the method. -/
abbrev Results := List (String × Except Failure MarshalingPlan)

def results (compiler : PlanCompiler) (className : Option String) (kind : MethodKind)
    (descriptors : List MethodDescriptor) : Results :=
  descriptors.map fun descriptor =>
    (descriptor.name, compiled compiler className kind descriptor)

/-- Why a method is skipped, if it is. -/
def reason? : Except Failure MarshalingPlan → Option String
  | .error (.unsupportedSignature location typeName position) =>
      some (((Failure.unsupportedSignature location typeName position).message).getD "")
  | _ => none

/-- What is taken from each result that gives something, under the name of its method. -/
def collect {α : Type} (take? : Except Failure MarshalingPlan → Option α) (results : Results) :
    List (String × α) :=
  results.filterMap fun result => (take? result.2).map (result.1, ·)

/-- How a binding is put together from results. -/
structure Collects (className : Option String) (kind : MethodKind) (results : Results)
    (binding : ClassBinding) : Prop where
  owner : binding.className = .ofText? className
  kind : binding.kind = kind
  goes : ∀ result ∈ results, goesOn result.2 = true
  plans : binding.plans = .named (.ofPairs (collect Except.toOption results))
  skipped : binding.skipped = .named (.ofPairs (collect reason? results))
  virtualMethods : binding.virtualMethods =
    (results.filterMap fun result => virtualName? result.2).map .text

variable {compiler : PlanCompiler} {className : Option String} {kind : MethodKind}

theorem collect_concat {α : Type} (take? : Except Failure MarshalingPlan → Option α)
    (results : Results) (name : String) (result : Except Failure MarshalingPlan) :
    collect take? (results ++ [(name, result)]) =
      collect take? results ++ ((take? result).map (name, ·)).toList := by
  rw [collect, List.filterMap_append]
  cases taken : take? result <;> simp [collect, taken]

theorem collects_empty (className : Option String) (kind : MethodKind) :
    Collects className kind [] (.empty (.ofText? className) kind) where
  owner := rfl
  kind := rfl
  goes := by simp
  plans := rfl
  skipped := rfl
  virtualMethods := rfl

/-- Only virtual plans are registered. -/
theorem isVirtual_of_registerPlan {registrar next : VirtualRegistrar} {plan : MarshalingPlan}
    {virtual : Bool} (registered : (registrar.registerPlan plan).outcome = .ok (next, virtual)) :
    plan.isVirtual = virtual := by
  unfold VirtualRegistrar.registerPlan at registered
  split at registered
  · next isVirtual =>
      split at registered
      · cases registered
      · have ⟨entered, _, registered⟩ := Logged.exists_of_bind_eq_ok registered
        cases registered
        exact isVirtual
  · next bound =>
      cases registered
      exact eq_false_of_ne_true bound

/-- A method that is added adds its result to what a binding is put together from. -/
theorem Collects.addMethod {results : Results} {state next : BinderState}
    (collects : Collects className kind results state.binding) (descriptor : MethodDescriptor)
    (added : (state.addMethod compiler (.ofDescriptor descriptor)).outcome = .ok next) :
    Collects className kind
      (results ++ [(descriptor.name, compiled compiler className kind descriptor)])
      next.binding := by
  cases outcome : compiled compiler className kind descriptor with
  | error failure =>
      by_cases goes : goesOn (.error failure) = true
      · cases failure <;> simp only [goesOn, Bool.false_eq_true] at goes
        rw [addMethod_of_pointer collects.owner collects.kind outcome] at added
        cases added
        exact {
          owner := collects.owner
          kind := collects.kind
          goes := by simpa [or_imp, forall_and, goesOn] using collects.goes
          plans := by rw [collect_concat]; simpa [Except.toOption] using collects.plans
          skipped := by
            rw [collect_concat]
            simp only [reason?, Option.map_some, Option.toList_some]
            rw [Entries.ofPairs_concat, ← NameTable.replace_named, ← collects.skipped]
          virtualMethods := by simpa [virtualName?] using collects.virtualMethods }
      · rw [addMethod_of_failure collects.owner collects.kind outcome (eq_false_of_ne_true goes)]
          at added
        cases added
  | ok plan =>
      have isPlan := PlanCompiler.isPlanFor_of_compile outcome
      rw [addMethod_of_plan collects.owner collects.kind outcome] at added
      cases registered : (state.registrar.registerPlan plan).outcome with
      | error failure =>
          rw [registered] at added
          cases added
      | ok entered =>
          rcases entered with ⟨registrar, virtual⟩
          rw [registered] at added
          cases added
          have isVirtual := isVirtual_of_registerPlan registered
          exact {
            owner := collects.owner
            kind := collects.kind
            goes := by simpa [or_imp, forall_and, goesOn] using collects.goes
            plans := by
              rw [collect_concat]
              simp only [Except.toOption, Option.map_some, Option.toList_some]
              rw [Entries.ofPairs_concat, ← NameTable.replace_named, ← collects.plans]
            skipped := by rw [collect_concat]; simpa [reason?] using collects.skipped
            virtualMethods := by
              cases virtual with
              | false => simpa [virtualName?, isVirtual] using collects.virtualMethods
              | true =>
                  simp [virtualName?, isVirtual, collects.virtualMethods, isPlan.exposedName] }

/-- A binding that a call returns is put together from the results of all its methods. -/
theorem Collects.addMethods {results : Results} {state : BinderState}
    (collects : Collects className kind results state.binding) (descriptors : List MethodDescriptor)
    {result : BindResult}
    (added : (BindResult.addMethods compiler (descriptors.map .ofDescriptor) state).outcome =
      .ok result) {binding : ClassBinding} (returned : result.outcome = .ok binding) :
    Collects className kind (results ++ BindingCall.results compiler className kind descriptors)
      binding := by
  induction descriptors generalizing state results with
  | nil =>
      cases added
      cases returned
      simpa [BindingCall.results] using collects
  | cons descriptor rest induction =>
      rw [List.map_cons, BindResult.addMethods] at added
      rcases Logged.exists_of_bind_eq_ok added with ⟨outcome, attempted, added⟩
      split at added
      · next next =>
          have succeeded : (state.addMethod compiler (.ofDescriptor descriptor)).outcome =
              .ok next := Except.ok.inj attempted
          have all := induction (collects.addMethod descriptor succeeded) added
          rwa [List.append_assoc] at all
      · cases added
        cases returned

theorem collects_perform {registrar : VirtualRegistrar} {call : BindingCall} {result : BindResult}
    (performed : (call.perform compiler registrar).outcome = .ok result) {binding : ClassBinding}
    (returned : result.outcome = .ok binding) :
    Collects call.className call.kind
      (results compiler call.className call.kind call.descriptors) binding :=
  (collects_empty call.className call.kind).addMethods call.descriptors performed returned

/-! ## What the collections say about the methods -/

section Descriptors

variable {descriptors before after : List MethodDescriptor} {descriptor : MethodDescriptor}

/-- After a method that has no plan a call goes on only if a raw pointer stands in its signature. -/
theorem compiled_of_goesOn (typed : compiler.policy.WellTyped)
    (goes : goesOn (compiled compiler className kind descriptor) = true) :
    (descriptor.HasPointer ∧ ∃ typeName position, descriptor.FirstPointer typeName position ∧
      compiled compiler className kind descriptor = .error (.unsupportedSignature
        (PlanCompiler.location (.ofText? className) (.text descriptor.name)) typeName position)) ∨
    ¬descriptor.HasPointer ∧ ∃ plan, compiled compiler className kind descriptor = .ok plan := by
  by_cases pointer : descriptor.HasPointer
  · cases found : PlanCompiler.rawPointer? (.ofDescriptor descriptor) with
    | none => exact absurd pointer (PlanCompiler.rawPointer?_eq_none_iff.mp found)
    | some first =>
        exact .inl ⟨pointer, first.1, first.2, PlanCompiler.firstPointer_of_rawPointer? found,
          PlanCompiler.compile_of_pointer compiler found kind⟩
  by_cases agrees : descriptor.abiHash.isSome = descriptor.isVirtual
  · rw [compiled, PlanCompiler.compile_of_mismatch compiler pointer agrees className kind,
      goesOn_mismatchFailure] at goes
    cases goes
  · exact .inr ⟨pointer, PlanCompiler.exists_plan_of_fits typed pointer agrees className kind⟩

/-- The methods from which something is taken, if it is known from which. -/
theorem keys_collect {α : Type} {take? : Except Failure MarshalingPlan → Option α}
    {gives : MethodDescriptor → Bool} (descriptors : List MethodDescriptor)
    (taken : ∀ descriptor ∈ descriptors,
      (take? (compiled compiler className kind descriptor)).isSome = gives descriptor) :
    Entries.keys (collect take? (results compiler className kind descriptors)) =
      (descriptors.filter gives).map (·.name) := by
  induction descriptors with
  | nil => rfl
  | cons descriptor rest induction =>
      have ⟨here, others⟩ := List.forall_mem_cons.mp taken
      have behind := induction others
      simp only [Entries.keys, collect, results, List.map_cons] at behind ⊢
      rw [List.filterMap_cons, List.filter_cons, ← here]
      cases take? (compiled compiler className kind descriptor) <;> simpa using behind

/-- The last method of a name that gives something is the one whose result is kept. -/
theorem get?_collect_of_last {α : Type} {take? : Except Failure MarshalingPlan → Option α} {value : α}
    (before : List MethodDescriptor)
    (taken : take? (compiled compiler className kind descriptor) = some value)
    (last : ∀ later ∈ after, later.name = descriptor.name →
      take? (compiled compiler className kind later) = none) :
    Entries.get? (.ofPairs (collect take?
      (results compiler className kind (before ++ descriptor :: after)))) descriptor.name =
        some value := by
  have split : collect take? (results compiler className kind (before ++ descriptor :: after)) =
      collect take? (results compiler className kind before) ++
        (descriptor.name, value) :: collect take? (results compiler className kind after) := by
    simp [collect, results, taken]
  rw [split]
  apply Entries.get?_ofPairs_of_last
  intro known
  have ⟨⟨name, other⟩, member, same⟩ := List.mem_map.mp known
  have ⟨result, inside, gives⟩ := List.mem_filterMap.mp member
  have ⟨later, isLater, isResult⟩ := List.mem_map.mp inside
  cases isResult
  have ⟨_, gives, isPair⟩ := Option.map_eq_some_iff.mp gives
  cases isPair
  rw [last later isLater same] at gives
  cases gives

/-- The methods that a binding makes plans for. -/
def supported (descriptors : List MethodDescriptor) : List MethodDescriptor :=
  descriptors.filter fun descriptor => ¬descriptor.HasPointer

/-- The methods that a binding leaves out. -/
def unsupported (descriptors : List MethodDescriptor) : List MethodDescriptor :=
  descriptors.filter fun descriptor => descriptor.HasPointer

/-- What is said about a method with a raw pointer type at a place of its signature. -/
def skipMessage (className : Option String) (descriptor : MethodDescriptor)
    (typeName position : String) : Option String :=
  (Failure.unsupportedSignature (PlanCompiler.location (.ofText? className) (.text descriptor.name))
    typeName position).message

theorem perm_supported (descriptors : List MethodDescriptor) :
    (supported descriptors ++ unsupported descriptors).Perm descriptors := by
  have parts := List.filter_append_perm (fun descriptor => decide ¬descriptor.HasPointer) descriptors
  simpa [supported, unsupported] using parts

section Collected

variable {binding : ClassBinding}

theorem goesOn_of_collects
    (collects : Collects className kind (results compiler className kind descriptors) binding) :
    ∀ descriptor ∈ descriptors, goesOn (compiled compiler className kind descriptor) = true :=
  fun _ member => collects.goes _ (List.mem_map_of_mem member)

theorem keys_plans (typed : compiler.policy.WellTyped)
    (collects : Collects className kind (results compiler className kind descriptors) binding) :
    Entries.keys (collect Except.toOption (results compiler className kind descriptors)) =
      (supported descriptors).map (·.name) := by
  apply keys_collect
  intro descriptor member
  rcases compiled_of_goesOn typed (goesOn_of_collects collects descriptor member) with
    ⟨pointer, _, _, _, refused⟩ | ⟨plain, _, made⟩
  · simp [refused, pointer, Except.toOption]
  · simp [made, plain, Except.toOption]

theorem keys_skipped (typed : compiler.policy.WellTyped)
    (collects : Collects className kind (results compiler className kind descriptors) binding) :
    Entries.keys (collect reason? (results compiler className kind descriptors)) =
      (unsupported descriptors).map (·.name) := by
  apply keys_collect
  intro descriptor member
  rcases compiled_of_goesOn typed (goesOn_of_collects collects descriptor member) with
    ⟨pointer, _, _, _, refused⟩ | ⟨plain, _, made⟩
  · simp [refused, pointer, reason?]
  · simp [made, plain, reason?]

/-- A virtual method is listed under its own name. -/
theorem virtualName?_of_goesOn (typed : compiler.policy.WellTyped)
    (goes : goesOn (compiled compiler className kind descriptor) = true) :
    virtualName? (compiled compiler className kind descriptor) =
      if descriptor.HasPointer then none
      else if descriptor.isVirtual then some descriptor.name else none := by
  rcases compiled_of_goesOn typed goes with ⟨pointer, _, _, _, refused⟩ | ⟨plain, plan, made⟩
  · rw [refused, if_pos pointer]
    rfl
  · have isPlan := PlanCompiler.isPlanFor_of_compile made
    rw [made, if_neg plain, virtualName?, isVirtual_eq isPlan]
    cases virtual : descriptor.isVirtual with
    | false => rfl
    | true =>
        have opened : plan.visibility = .open_ := isPlan.open_iff.mpr (isPlan.virtual_iff.mpr virtual)
        rw [isPlan.exposedName, opened]
        rfl

theorem virtualNames_of_goesOn (typed : compiler.policy.WellTyped)
    (descriptors : List MethodDescriptor)
    (goes : ∀ descriptor ∈ descriptors,
      goesOn (compiled compiler className kind descriptor) = true) :
    ((results compiler className kind descriptors).filterMap fun result => virtualName? result.2) =
      ((supported descriptors).filter (·.isVirtual)).map (·.name) := by
  induction descriptors with
  | nil => rfl
  | cons descriptor rest induction =>
      have ⟨here, others⟩ := List.forall_mem_cons.mp goes
      have behind := induction others
      simp only [results, supported, List.map_cons] at behind ⊢
      rw [List.filterMap_cons, virtualName?_of_goesOn typed here, behind]
      by_cases pointer : descriptor.HasPointer
      · simp [pointer]
      · cases virtual : descriptor.isVirtual <;> simp [pointer, virtual]

theorem names_plans (typed : compiler.policy.WellTyped)
    (collects : Collects className kind (results compiler className kind descriptors) binding) :
    binding.plans.names = (((supported descriptors).map (·.name)).eraseDups).map .text := by
  rw [collects.plans, NameTable.names_named, Entries.keys_ofPairs, keys_plans typed collects]

theorem names_skipped (typed : compiler.policy.WellTyped)
    (collects : Collects className kind (results compiler className kind descriptors) binding) :
    binding.skipped.names = (((unsupported descriptors).map (·.name)).eraseDups).map .text := by
  rw [collects.skipped, NameTable.names_named, Entries.keys_ofPairs, keys_skipped typed collects]

theorem virtualMethods_of_collects (typed : compiler.policy.WellTyped)
    (collects : Collects className kind (results compiler className kind descriptors) binding) :
    binding.virtualMethods =
      ((supported descriptors).filter (·.isVirtual)).map fun descriptor => .text descriptor.name := by
  rw [collects.virtualMethods, virtualNames_of_goesOn typed descriptors (goesOn_of_collects collects),
    List.map_map]
  rfl

/-- The plan under a name is that of the last supported method of this name. -/
theorem get?_plans (typed : compiler.policy.WellTyped)
    (collects : Collects className kind
      (results compiler className kind (before ++ descriptor :: after)) binding)
    (plain : ¬descriptor.HasPointer)
    (last : ∀ later ∈ after, later.name = descriptor.name → later.HasPointer) :
    ∃ plan, compiled compiler className kind descriptor = .ok plan ∧
      binding.plans.get? (.text descriptor.name) = .ok (some plan) := by
  have goes := goesOn_of_collects collects
  rcases compiled_of_goesOn typed (goes descriptor (by simp)) with ⟨pointer, _⟩ | ⟨_, plan, made⟩
  · exact absurd pointer plain
  refine ⟨plan, made, ?_⟩
  have taken : Except.toOption (compiled compiler className kind descriptor) = some plan := by
    rw [made]
    rfl
  rw [collects.plans, NameTable.get?_named, get?_collect_of_last before taken]
  intro later member same
  rcases compiled_of_goesOn typed (goes later (by simp [member])) with
    ⟨_, _, _, _, refused⟩ | ⟨plain, _⟩
  · rw [refused]
    rfl
  · exact absurd (last later member same) plain

/-- The reason under a name is that of the last unsupported method of this name. -/
theorem get?_skipped (typed : compiler.policy.WellTyped)
    (collects : Collects className kind
      (results compiler className kind (before ++ descriptor :: after)) binding)
    (pointer : descriptor.HasPointer)
    (last : ∀ later ∈ after, later.name = descriptor.name → ¬later.HasPointer) :
    ∃ typeName position reason, descriptor.FirstPointer typeName position ∧
      skipMessage className descriptor typeName position = some reason ∧
      binding.skipped.get? (.text descriptor.name) = .ok (some reason) := by
  have goes := goesOn_of_collects collects
  rcases compiled_of_goesOn typed (goes descriptor (by simp)) with
    ⟨_, typeName, position, first, refused⟩ | ⟨plain, _⟩
  · refine ⟨typeName, position, _, first, rfl, ?_⟩
    rw [collects.skipped, NameTable.get?_named, get?_collect_of_last before]
    · rw [refused]
      rfl
    · intro later member same
      rcases compiled_of_goesOn typed (goes later (by simp [member])) with ⟨pointer, _⟩ | ⟨_, _, made⟩
      · exact absurd pointer (last later member same)
      · rw [made]
        rfl
  · exact absurd pointer plain

end Collected

end Descriptors

/-! ## Names that are all different -/

/-- How a binding accounts for the methods of a call. -/
structure Accounts (compiler : PlanCompiler) (call : BindingCall) (binding : ClassBinding) :
    Prop where
  owner : binding.className = .ofText? call.className
  kind : binding.kind = call.kind
  once : (binding.plans.names ++ binding.skipped.names).Perm
    (call.descriptors.map fun descriptor => .text descriptor.name)
  planNames : binding.plans.names =
    (supported call.descriptors).map fun descriptor => .text descriptor.name
  plan : ∀ descriptor ∈ call.descriptors, ¬descriptor.HasPointer → ∃ plan,
    compiled compiler call.className call.kind descriptor = .ok plan ∧
      binding.plans.get? (.text descriptor.name) = .ok (some plan)
  skipped_iff : ∀ descriptor ∈ call.descriptors,
    .text descriptor.name ∈ binding.skipped.names ↔ descriptor.HasPointer
  reason : ∀ descriptor ∈ call.descriptors, descriptor.HasPointer → ∃ typeName position reason,
    descriptor.FirstPointer typeName position ∧
      skipMessage call.className descriptor typeName position = some reason ∧
      binding.skipped.get? (.text descriptor.name) = .ok (some reason)
  virtualMethods : binding.virtualMethods =
    ((supported call.descriptors).filter (·.isVirtual)).map fun descriptor => .text descriptor.name

theorem eq_of_name_eq {descriptors : List MethodDescriptor}
    (distinct : (descriptors.map (·.name)).Nodup) {one other : MethodDescriptor}
    (isOne : one ∈ descriptors) (isOther : other ∈ descriptors) (same : one.name = other.name) :
    one = other :=
  List.inj_on_of_nodup_map distinct isOne isOther same

theorem accounts_of_collects (typed : compiler.policy.WellTyped) {call : BindingCall}
    (distinct : (call.descriptors.map (·.name)).Nodup) {binding : ClassBinding}
    (collects : Collects call.className call.kind
      (results compiler call.className call.kind call.descriptors) binding) :
    Accounts compiler call binding := by
  have distinctParts (gives : MethodDescriptor → Bool) :
      ((call.descriptors.filter gives).map (·.name)).eraseDups =
        (call.descriptors.filter gives).map (·.name) :=
    eraseDups_of_nodup (distinct.sublist (List.filter_sublist.map _))
  have plans := names_plans typed collects
  have skipped := names_skipped typed collects
  rw [supported, distinctParts, List.map_map] at plans
  rw [unsupported, distinctParts, List.map_map] at skipped
  -- no method behind another one has its name
  have behind {before after : List MethodDescriptor} {descriptor : MethodDescriptor}
      (split : call.descriptors = before ++ descriptor :: after) :
      ∀ later ∈ after, later.name ≠ descriptor.name := by
    intro later member same
    rw [split, List.map_append, List.map_cons] at distinct
    have apart := (List.nodup_cons.mp (List.nodup_append.mp distinct).2.1).1
    exact apart (same ▸ List.mem_map_of_mem member)
  exact {
    owner := collects.owner
    kind := collects.kind
    once := by
      rw [plans, skipped, ← List.map_append]
      exact (perm_supported call.descriptors).map _
    planNames := plans
    plan := by
      intro descriptor member plain
      have ⟨before, after, split⟩ := List.append_of_mem member
      rw [split] at collects
      exact get?_plans typed collects plain fun later isLater same =>
        absurd same (behind split later isLater)
    skipped_iff := by
      intro descriptor member
      rw [skipped, List.mem_map]
      constructor
      · rintro ⟨other, isOther, same⟩
        have ⟨inside, pointer⟩ := List.mem_filter.mp isOther
        rw [← eq_of_name_eq distinct inside member (Document.text.inj same)]
        exact of_decide_eq_true pointer
      · intro pointer
        exact ⟨descriptor, List.mem_filter.mpr ⟨member, decide_eq_true pointer⟩, rfl⟩
    reason := by
      intro descriptor member pointer
      have ⟨before, after, split⟩ := List.append_of_mem member
      rw [split] at collects
      exact get?_skipped typed collects pointer fun later isLater same =>
        absurd same (behind split later isLater)
    virtualMethods := virtualMethods_of_collects typed collects }

/-- A method without raw pointers breaks an invariant if its hash does not agree with its being
virtual. -/
def BreaksInvariant (descriptor : MethodDescriptor) : Prop :=
  ¬descriptor.HasPointer ∧ descriptor.abiHash.isSome = descriptor.isVirtual

instance (descriptor : MethodDescriptor) : Decidable (BreaksInvariant descriptor) :=
  inferInstanceAs (Decidable (_ ∧ _))

/-- When a call of a class ends without a binding, and with which failure: the method at fault may
stand anywhere, and the first one is reported. -/
structure BreaksOff (descriptors : List MethodDescriptor) (outcome : Except Failure ClassBinding) :
    Prop where
  fails_iff : (∃ failure, outcome = .error failure) ↔
    ∃ descriptor ∈ descriptors, BreaksInvariant descriptor
  invariant_iff : (∃ cause, outcome = .error (.invariant cause)) ↔
    ∃ descriptor, descriptors.find? (BreaksInvariant ·) = some descriptor ∧
      descriptor.HasWritableHash
  unreadable_iff : outcome = .error .unreadable ↔
    ∃ descriptor, descriptors.find? (BreaksInvariant ·) = some descriptor ∧
      ¬descriptor.HasWritableHash
  /-- No JSON text holds a hash that cannot be written. -/
  fromJson : (∀ descriptor ∈ descriptors, descriptor.IsFromJson) →
    ((∃ cause, outcome = .error (.invariant cause)) ↔
      ∃ descriptor ∈ descriptors, BreaksInvariant descriptor) ∧
    ∀ failure, outcome = .error failure → ∃ cause, failure = .invariant cause

theorem stopsAt_some_iff (className : String) (descriptor : MethodDescriptor) :
    StopsAt (some className) descriptor ↔ BreaksInvariant descriptor := by
  simp [StopsAt, BreaksInvariant]

/-- A call of a class that stops reports the first method that breaks an invariant. -/
theorem EndsWith.find?_of_error {className : String} {descriptors : List MethodDescriptor}
    {failure : Failure} (ends : EndsWith (some className) descriptors (.error failure)) :
    ∃ descriptor, descriptors.find? (BreaksInvariant ·) = some descriptor ∧
      failure = PlanCompiler.mismatchFailure descriptor (some className) := by
  cases ends with
  | stopped before after descriptor goes stops =>
      have breaks := (stopsAt_some_iff className descriptor).mp stops
      refine ⟨descriptor, ?_, by rw [stopFailure, if_pos breaks.2]⟩
      rw [List.find?_append, List.find?_eq_none.mpr, Option.none_or]
      · simp [breaks]
      intro earlier member
      rw [decide_eq_true_eq, ← stopsAt_some_iff className]
      exact goes earlier member

theorem breaksOff_of_endsWith {className : String} {descriptors : List MethodDescriptor}
    {outcome : Except Failure ClassBinding}
    (ends : EndsWith (some className) descriptors outcome) : BreaksOff descriptors outcome := by
  cases outcome with
  | ok binding =>
      have unbroken : descriptors.find? (BreaksInvariant ·) = none := by
        cases ends with
        | returned _ goes =>
            rw [List.find?_eq_none]
            intro descriptor member
            rw [decide_eq_true_eq, ← stopsAt_some_iff className]
            exact goes descriptor member
      have none : ¬∃ descriptor ∈ descriptors, BreaksInvariant descriptor := by
        rintro ⟨descriptor, member, breaks⟩
        exact List.find?_eq_none.mp unbroken descriptor member (decide_eq_true breaks)
      exact {
        fails_iff := by simp [none]
        invariant_iff := by simp [unbroken]
        unreadable_iff := by simp [unbroken]
        fromJson := fun _ => ⟨by simp [none], nofun⟩ }
  | error failure =>
      obtain ⟨descriptor, found, same⟩ := ends.find?_of_error
      have some : ∃ descriptor ∈ descriptors, BreaksInvariant descriptor :=
        ⟨descriptor, List.mem_of_find?_eq_some found, by simpa using List.find?_some found⟩
      subst same
      by_cases writable : descriptor.HasWritableHash
      · rw [PlanCompiler.mismatchFailure_of_writable writable]
        exact {
          fails_iff := by simp [some]
          invariant_iff := by simp [found, writable]
          unreadable_iff := by simp [found, writable]
          fromJson := fun _ => ⟨by simp [some], by rintro _ ⟨⟩; exact ⟨_, rfl⟩⟩ }
      · rw [PlanCompiler.mismatchFailure_of_unwritable writable]
        exact {
          fails_iff := by simp [some]
          invariant_iff := by simp [found, writable]
          unreadable_iff := by simp [found, writable]
          fromJson := fun fromJson => absurd
            (fromJson descriptor (List.mem_of_find?_eq_some found)).hasWritableHash writable }

/-- A call with different names returns a binding that accounts for its methods. The call of a class
returns one unless a method breaks an invariant. -/
theorem perform_accounts (typed : compiler.policy.WellTyped) (registrar : VirtualRegistrar)
    (call : BindingCall) (distinct : (call.descriptors.map (·.name)).Nodup) :
    ∃ result, (call.perform compiler registrar).outcome = .ok result ∧
      (∀ binding, result.outcome = .ok binding → Accounts compiler call binding) ∧
      ∀ className, call.className = some className → BreaksOff call.descriptors result.outcome := by
  have ⟨result, performed, ends⟩ := endsWith_perform typed registrar call
  refine ⟨result, performed, ?_, ?_⟩
  · intro binding returned
    exact accounts_of_collects typed distinct (collects_perform performed returned)
  · intro className named
    rw [named] at ends
    exact breaksOff_of_endsWith ends

/-- A virtual method, one with a raw pointer type and one that the engine can be asked for, and a
virtual method with a hash, which is not bound. -/
theorem perform_accounts_of_three :
    let compiler : PlanCompiler := ⟨.bundled ["Node"], ⟨.empty, .empty, .escaped⟩⟩
    let call : BindingCall := ⟨some "Node", [
      ⟨"_ready", [], none, false, true, false, false, none⟩,
      ⟨"raw", [⟨"data", "const void*", none, none⟩], none, false, false, false, false, some (.int 7)⟩,
      ⟨"count", [], some ⟨"int", some "int64"⟩, false, false, false, false, some (.int 9)⟩],
      .classMethod⟩
    let broken : BindingCall := ⟨some "Node", [PlanCompiler.hashedVirtual], .classMethod⟩
    compiler.policy.WellTyped ∧ (call.descriptors.map (·.name)).Nodup ∧
      (∃ result binding, (call.perform compiler .empty).outcome = .ok result ∧
        result.outcome = .ok binding ∧ Accounts compiler call binding) ∧
      ∃ result cause, (broken.perform compiler .empty).outcome = .ok result ∧
        result.outcome = .error (.invariant cause) := by
  intro compiler call broken
  have typed : compiler.policy.WellTyped := ⟨trivial, trivial⟩
  have distinct : (call.descriptors.map (·.name)).Nodup := by decide
  have ⟨result, performed, accounts, ends⟩ := perform_accounts typed .empty call distinct
  have ⟨refused, refuses, _, breaks⟩ := perform_accounts typed .empty broken (List.nodup_singleton _)
  have fromJson : ∀ descriptor ∈ broken.descriptors, descriptor.IsFromJson := by
    simp [broken, PlanCompiler.isFromJson_hashedVirtual]
  have isBroken : ∃ descriptor ∈ broken.descriptors, BreaksInvariant descriptor :=
    ⟨_, List.mem_singleton_self _, by decide +kernel⟩
  have ⟨cause, reported⟩ := ((breaks "Node" rfl).fromJson fromJson).1.mpr isBroken
  refine ⟨typed, distinct, ⟨result, ?_⟩, refused, cause, refuses, reported⟩
  cases returned : result.outcome with
  | ok binding => exact ⟨binding, performed, rfl, accounts binding returned⟩
  | error failure =>
      refine absurd ((ends "Node" rfl).fails_iff.mp ⟨failure, returned⟩) ?_
      decide +kernel

/-! ## Names that occur again -/

/-- Whether the collections of a binding agree with each other and with the methods it was made
of. -/
structure Consistent (descriptors : List MethodDescriptor) (binding : ClassBinding) : Prop where
  apart : ∀ name ∈ binding.plans.names, name ∉ binding.skipped.names
  virtualMethods : binding.virtualMethods =
    (binding.plans.values.filter MarshalingPlan.isVirtual).map MarshalingPlan.exposedName
  once : binding.virtualMethods.Nodup
  count : binding.plans.length + binding.skipped.length = descriptors.length

section

variable {descriptors : List MethodDescriptor} {binding : ClassBinding}

theorem nodup_map_text_iff {names : List String} :
    (names.map Document.text).Nodup ↔ names.Nodup :=
  List.nodup_map_iff fun _ _ => Document.text.inj

theorem nodup_names_iff : (descriptors.map (·.name)).Nodup ↔
    ((supported descriptors).map (·.name)).Nodup ∧ ((unsupported descriptors).map (·.name)).Nodup ∧
      ∀ name ∈ (supported descriptors).map (·.name),
        ∀ other ∈ (unsupported descriptors).map (·.name), name ≠ other := by
  rw [← ((perm_supported descriptors).map (·.name)).nodup_iff, List.map_append, List.nodup_append]

/-- The plans of all methods show the names that are listed for the virtual ones. -/
theorem exposedNames_collect (compiler : PlanCompiler) (className : Option String) (kind : MethodKind)
    (descriptors : List MethodDescriptor) :
    ((Entries.values (collect Except.toOption (results compiler className kind descriptors))).filter
      MarshalingPlan.isVirtual).map MarshalingPlan.exposedName =
      ((results compiler className kind descriptors).filterMap
        fun result => virtualName? result.2).map .text := by
  induction descriptors with
  | nil => rfl
  | cons descriptor rest induction =>
      simp only [results, collect, Entries.values, List.map_cons, List.filterMap_cons] at induction ⊢
      cases made : compiled compiler className kind descriptor with
      | error failure => exact induction
      | ok plan =>
          have named := (PlanCompiler.isPlanFor_of_compile made).exposedName
          cases virtual : plan.isVirtual with
          | false => simpa [Except.toOption, virtualName?, virtual] using induction
          | true =>
              simpa [Except.toOption, virtualName?, virtual, named] using induction

theorem consistent_iff (typed : compiler.policy.WellTyped)
    (collects : Collects className kind (results compiler className kind descriptors) binding) :
    Consistent descriptors binding ↔ (descriptors.map (·.name)).Nodup := by
  have plans := names_plans typed collects
  have skipped := names_skipped typed collects
  have total := (perm_supported descriptors).length_eq
  have countPlans : binding.plans.length =
      ((supported descriptors).map (·.name)).eraseDups.length := by
    simpa [NameTable.names] using congrArg List.length plans
  have countSkipped : binding.skipped.length =
      ((unsupported descriptors).map (·.name)).eraseDups.length := by
    simpa [NameTable.names] using congrArg List.length skipped
  rw [nodup_names_iff]
  constructor
  · intro consistent
    have count := consistent.count
    have fewer := length_eraseDups_le ((supported descriptors).map (·.name))
    have fewerSkipped := length_eraseDups_le ((unsupported descriptors).map (·.name))
    rw [List.length_append] at total
    rw [countPlans, countSkipped] at count
    rw [List.length_map] at fewer fewerSkipped
    refine ⟨length_eraseDups_eq_iff.mp ?_, length_eraseDups_eq_iff.mp ?_, ?_⟩
    · rw [List.length_map]
      omega
    · rw [List.length_map]
      omega
    · rintro name planned other left rfl
      apply consistent.apart (.text name)
      · rw [plans]
        exact List.mem_map_of_mem (List.mem_eraseDups.mpr planned)
      · rw [skipped]
        exact List.mem_map_of_mem (List.mem_eraseDups.mpr left)
  · rintro ⟨distinct, distinctSkipped, apart⟩
    rw [eraseDups_of_nodup distinct] at plans countPlans
    rw [eraseDups_of_nodup distinctSkipped] at skipped countSkipped
    exact {
      apart := by
        rw [plans, skipped]
        intro name planned left
        rcases List.mem_map.mp planned with ⟨one, isOne, same⟩
        rcases List.mem_map.mp left with ⟨other, isOther, sameOther⟩
        exact apart one isOne other isOther (Document.text.inj (same.trans sameOther.symm))
      virtualMethods := by
        rw [collects.virtualMethods, collects.plans, NameTable.values_named, Entries.ofPairs_of_nodup]
        · exact (exposedNames_collect compiler className kind descriptors).symm
        · rw [keys_plans typed collects]
          exact distinct
      once := by
        rw [collects.virtualMethods,
          virtualNames_of_goesOn typed descriptors (goesOn_of_collects collects)]
        exact nodup_map_text_iff.mpr (distinct.sublist (List.filter_sublist.map _))
      count := by
        rw [countPlans, countSkipped, List.length_map, List.length_map, ← List.length_append]
        exact total }

end

/-- In a binding a name stands where it came first, with the plan and with the reason that came
last, while the virtual methods are listed one by one. The collections are consistent exactly if
no name occurs again. -/
theorem perform_consistent_iff (typed : compiler.policy.WellTyped) (registrar : VirtualRegistrar)
    (call : BindingCall) :
    ∃ result, (call.perform compiler registrar).outcome = .ok result ∧
      ∀ binding, result.outcome = .ok binding →
        binding.plans.names = (((supported call.descriptors).map (·.name)).eraseDups).map .text ∧
        binding.skipped.names = (((unsupported call.descriptors).map (·.name)).eraseDups).map .text ∧
        (∀ before descriptor after, call.descriptors = before ++ descriptor :: after →
          ¬descriptor.HasPointer →
          (∀ later ∈ after, later.name = descriptor.name → later.HasPointer) →
          ∃ plan, compiled compiler call.className call.kind descriptor = .ok plan ∧
            binding.plans.get? (.text descriptor.name) = .ok (some plan)) ∧
        (∀ before descriptor after, call.descriptors = before ++ descriptor :: after →
          descriptor.HasPointer →
          (∀ later ∈ after, later.name = descriptor.name → ¬later.HasPointer) →
          ∃ typeName position reason, descriptor.FirstPointer typeName position ∧
            skipMessage call.className descriptor typeName position = some reason ∧
            binding.skipped.get? (.text descriptor.name) = .ok (some reason)) ∧
        binding.virtualMethods = ((supported call.descriptors).filter (·.isVirtual)).map
          (fun descriptor => .text descriptor.name) ∧
        (Consistent call.descriptors binding ↔ (call.descriptors.map (·.name)).Nodup) := by
  have ⟨result, performed, _⟩ := endsWith_perform typed registrar call
  refine ⟨result, performed, fun binding returned => ?_⟩
  have collects := collects_perform performed returned
  refine ⟨names_plans typed collects, names_skipped typed collects, ?_, ?_,
    virtualMethods_of_collects typed collects, consistent_iff typed collects⟩
  · intro before descriptor after split plain last
    rw [split] at collects
    exact get?_plans typed collects plain last
  · intro before descriptor after split pointer last
    rw [split] at collects
    exact get?_skipped typed collects pointer last

/-- A name with a plan and with a reason: once with a raw pointer type and once without. -/
theorem perform_consistent_iff_of_overloaded :
    let compiler : PlanCompiler := ⟨.bundled ["Node"], ⟨.empty, .empty, .escaped⟩⟩
    let call : BindingCall := ⟨some "Node", [
      ⟨"copy", [], none, false, false, false, false, some (.int 7)⟩,
      ⟨"copy", [⟨"data", "void*", none, none⟩], none, false, false, false, false, some (.int 8)⟩],
      .classMethod⟩
    compiler.policy.WellTyped ∧
      ∃ result binding, (call.perform compiler .empty).outcome = .ok result ∧
        result.outcome = .ok binding ∧ binding.plans.names = [.text "copy"] ∧
        binding.skipped.names = [.text "copy"] ∧ ¬Consistent call.descriptors binding := by
  intro compiler call
  have typed : compiler.policy.WellTyped := ⟨trivial, trivial⟩
  have ⟨result, performed, describes⟩ := perform_consistent_iff typed .empty call
  have ⟨binding, returned⟩ : ∃ binding, result.outcome = .ok binding := by
    cases performed
    exact ⟨_, rfl⟩
  have ⟨plans, skipped, _, _, _, consistent⟩ := describes binding returned
  refine ⟨typed, result, binding, performed, returned, plans, skipped, ?_⟩
  rw [consistent]
  decide

/-- A virtual method that is described twice has one plan and is listed twice. -/
theorem virtual_method_listed_twice :
    let compiler : PlanCompiler := ⟨.bundled ["Node"], ⟨.empty, .empty, .escaped⟩⟩
    let ready : MethodDescriptor := ⟨"_ready", [], none, false, true, false, false, none⟩
    let call : BindingCall := ⟨some "Node", [ready, ready], .classMethod⟩
    ∃ result binding, (call.perform compiler .empty).outcome = .ok result ∧
      result.outcome = .ok binding ∧ binding.plans.names = [.text "_ready"] ∧
      binding.virtualMethods = [.text "_ready", .text "_ready"] ∧
      ¬Consistent call.descriptors binding := by
  intro compiler ready call
  have typed : compiler.policy.WellTyped := ⟨trivial, trivial⟩
  have ⟨result, performed, _⟩ := endsWith_perform typed .empty call
  have ⟨binding, returned⟩ : ∃ binding, result.outcome = .ok binding := by
    cases performed
    exact ⟨_, rfl⟩
  have collects := collects_perform performed returned
  have listed := virtualMethods_of_collects typed collects
  refine ⟨result, binding, performed, returned, names_plans typed collects, listed, ?_⟩
  intro consistent
  have once := consistent.once
  rw [listed] at once
  exact (List.nodup_cons.mp once).1 List.mem_cons_self

end BindingCall

end EngineBridge
