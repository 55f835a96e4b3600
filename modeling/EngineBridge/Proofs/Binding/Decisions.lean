import EngineBridge.Proofs.Binding.Accounts
import EngineBridge.Proofs.Plan.Decisions

/-!
The decisions that a binding leaves behind.

A call compiles its methods in order, up to the first at which it ends, and registers plans without
a word about how they came about. Main statement: where the logger of decisions lets traces through,
what it says while a method is compiled or a call runs are the steps of the plans that were compiled,
plan after plan, whether the call returns a binding or not.
-/

namespace EngineBridge

namespace Logged

variable {α β : Type}

/-- Whether nothing is said to the logger of decisions. -/
def DecidesNothing (computation : Logged α) : Prop :=
  ∀ record ∈ computation.records, record.logger ≠ Log.planLogger

namespace DecidesNothing

theorem pure (value : α) : DecidesNothing (pure value) := nofun

theorem throw (failure : Failure) : DecidesNothing (throw failure : Logged α) := nofun

theorem lift (outcome : Except Failure α) : DecidesNothing (liftM outcome : Logged α) := nofun

theorem emit {record : Log.Record} (other : record.logger ≠ Log.planLogger) :
    DecidesNothing (emit record) := by
  intro emitted member
  rwa [List.mem_singleton.mp member]

theorem bind {first : Logged α} {next : α → Logged β} (begins : DecidesNothing first)
    (continues : ∀ value, DecidesNothing (next value)) : DecidesNothing (first >>= next) := by
  cases ran : first.outcome with
  | error failure =>
      rw [bind_of_error next ran]
      exact begins
  | ok value =>
      rw [bind_of_ok next ran]
      exact List.forall_mem_append.mpr ⟨begins, continues value⟩

end DecidesNothing

end Logged

open Logged (DecidesNothing)

theorem VirtualRegistrar.decidesNothing_registerPlan (registrar : VirtualRegistrar)
    (plan : MarshalingPlan) : DecidesNothing (registrar.registerPlan plan) := by
  have registers (className : Document) :
      DecidesNothing (registrar.register className plan.exposedName) := by
    refine .bind (.lift _) fun names => ?_
    split
    · exact .bind (.lift _) fun _ => .pure _
    · refine .bind (.emit ?_) fun _ => .bind (.lift _) fun _ => .pure _
      simp [registeredRecord, Log.Record.plain, Log.planLogger]
  unfold registerPlan
  split
  · split
    · exact .throw _
    · exact .bind (registers _) fun _ => .pure _
  · exact .pure _

namespace MarshalingPlan

/-- Whether an event is about a method. -/
def isDecisionAbout (methodName : String) (event : Option Document) : Bool :=
  event.any fun decision => (decision.valueAt "method").same (.text methodName)

theorem isDecisionAbout_of_mem {plan : MarshalingPlan} {name : String}
    (named : plan.methodName = .text name) {decision : Document}
    (member : decision ∈ plan.decisions) (methodName : String) :
    isDecisionAbout methodName (some decision) = (name == methodName) := by
  rcases List.mem_append.mp member with isArgument | isResult
  · have ⟨step, _, same⟩ := List.mem_map.mp isArgument
    rw [← same, named]
    exact Document.same_text name methodName
  · have ⟨_, same⟩ := List.mem_ite_nil_right.mp isResult
    rw [List.mem_singleton.mp same, named]
    exact Document.same_text name methodName

/-- The events about a method are the decisions of its plans. -/
theorem filter_isDecisionAbout {plans : List (String × MarshalingPlan)}
    (named : ∀ plan ∈ plans, plan.2.methodName = .text plan.1) (methodName : String) :
    ((plans.flatMap fun plan => plan.2.decisions).map some).filter (isDecisionAbout methodName) =
      ((plans.filter fun plan => plan.1 == methodName).flatMap fun plan =>
        plan.2.decisions).map some := by
  induction plans with
  | nil => rfl
  | cons plan rest induction =>
      have ⟨here, others⟩ := List.forall_mem_cons.mp named
      have about : ∀ event ∈ plan.2.decisions.map some,
          isDecisionAbout methodName event = (plan.1 == methodName) := by
        intro event member
        have ⟨decision, inside, same⟩ := List.mem_map.mp member
        rw [← same, isDecisionAbout_of_mem here inside]
      rw [List.flatMap_cons, List.map_append, List.filter_append, induction others,
        List.filter_cons]
      by_cases isName : (plan.1 == methodName) = true
      · rw [if_pos isName, List.flatMap_cons, List.map_append,
          List.filter_eq_self.mpr fun event member => (about event member).trans isName]
      · rw [if_neg isName, List.filter_eq_nil_iff.mpr, List.nil_append]
        intro event member
        rwa [about event member]

end MarshalingPlan

namespace BindingCall

variable {compiler : PlanCompiler} {className : Option String} {kind : MethodKind}
  {routing : Log.Routing}

instance (className : Option String) (descriptor : MethodDescriptor) :
    Decidable (StopsAt className descriptor) :=
  inferInstanceAs (Decidable (¬descriptor.HasPointer ∧
    (descriptor.abiHash.isSome = descriptor.isVirtual ∨
      className = none ∧ descriptor.isVirtual = true)))

/-- The methods that are compiled: those up to the first at which a call ends, and this one too. -/
def reached (className : Option String) : List MethodDescriptor → List MethodDescriptor
  | [] => []
  | descriptor :: rest =>
      if StopsAt className descriptor then [descriptor] else descriptor :: reached className rest

theorem reached_of_goes {descriptors : List MethodDescriptor}
    (goes : ∀ descriptor ∈ descriptors, ¬StopsAt className descriptor) :
    reached className descriptors = descriptors := by
  induction descriptors with
  | nil => rfl
  | cons descriptor rest induction =>
      have ⟨here, others⟩ := List.forall_mem_cons.mp goes
      rw [reached, if_neg here, induction others]

/-- The plans that a call compiles, under the names of their methods, whatever becomes of the
call. -/
def compiledPlans (compiler : PlanCompiler) (call : BindingCall) : List (String × MarshalingPlan) :=
  collect Except.toOption
    (results compiler call.className call.kind (reached call.className call.descriptors))

theorem EndsWith.goes {descriptors : List MethodDescriptor} {binding : ClassBinding}
    (ends : EndsWith className descriptors (.ok binding)) :
    ∀ descriptor ∈ descriptors, ¬StopsAt className descriptor := by
  cases ends with
  | returned _ goes => exact goes

/-- What the plans that come of some methods say, method by method. -/
theorem flatMap_decisions_collect (descriptors : List MethodDescriptor) :
    (collect Except.toOption (results compiler className kind descriptors)).flatMap
        (fun plan => plan.2.decisions) =
      descriptors.flatMap fun descriptor =>
        (compiled compiler className kind descriptor).toOption.toList.flatMap
          MarshalingPlan.decisions := by
  induction descriptors with
  | nil => rfl
  | cons descriptor rest induction =>
      rw [List.flatMap_cons, ← induction]
      simp only [results, collect, List.map_cons, List.filterMap_cons]
      cases (compiled compiler className kind descriptor).toOption <;> simp

/-- Adding a method says no more about decisions than compiling it. -/
theorem decisions_addMethod {state : BinderState}
    (owner : state.binding.className = .ofText? className) (isKind : state.binding.kind = kind)
    (descriptor : MethodDescriptor) :
    routing.decisions (state.addMethod compiler (.ofDescriptor descriptor)).records =
      routing.decisions
        (compiler.compile (.ofDescriptor descriptor) (.ofText? className) kind).records := by
  unfold BinderState.addMethod
  rw [Logged.decisions_bind_of_ok _ (attempt_compile owner isKind descriptor), owner, isKind]
  change routing.decisions
    (compiler.compile (.ofDescriptor descriptor) (.ofText? className) kind).records ++ _ = _
  refine (congrArg _ (routing.decisions_of_other_loggers ?_)).trans (List.append_nil _)
  change DecidesNothing _
  split
  · refine .bind (.emit ?_) fun _ => .bind (.lift _) fun _ => .pure _
    simp [ClassBinding.skippedRecord, Log.Record.plain, ClassBinding.binderLogger, Log.planLogger]
  · exact .throw _
  · exact .bind (.lift _) fun _ =>
      .bind (state.registrar.decidesNothing_registerPlan _) fun _ => .pure _

section

variable (traced : routing.isEnabled Log.planLogger Log.Level.trace = true)
  (typed : compiler.policy.WellTyped)

include traced typed

/-- Compiling a method leaves the steps of its plan behind, if it has one. -/
theorem decisions_compiled (descriptor : MethodDescriptor) :
    routing.decisions
        (compiler.compile (.ofDescriptor descriptor) (.ofText? className) kind).records =
      ((compiled compiler className kind descriptor).toOption.toList.flatMap
        MarshalingPlan.decisions).map some := by
  cases outcome : compiled compiler className kind descriptor with
  | error failure => exact PlanCompiler.decisions_of_failed_compile typed outcome routing
  | ok plan =>
      simpa [Except.toOption] using PlanCompiler.decisions_of_compile traced outcome

/-- A run over methods leaves the steps of the plans behind that it compiles, in their order. -/
theorem decisions_addMethods {state : BinderState}
    (owner : state.binding.className = .ofText? className) (isKind : state.binding.kind = kind)
    (descriptors : List MethodDescriptor) :
    routing.decisions (BindResult.addMethods compiler (descriptors.map .ofDescriptor) state).records =
      ((reached className descriptors).flatMap fun descriptor =>
        ((compiled compiler className kind descriptor).toOption.toList.flatMap
          MarshalingPlan.decisions).map some) := by
  induction descriptors generalizing state with
  | nil =>
      apply routing.decisions_of_other_loggers
      change DecidesNothing (Logged.emit _ >>= fun _ => pure _)
      refine .bind (.emit ?_) fun _ => .pure _
      simp [ClassBinding.boundRecord, Log.Record.plain, ClassBinding.binderLogger, Log.planLogger]
  | cons descriptor rest induction =>
      have here := (decisions_addMethod owner isKind descriptor).trans
        (decisions_compiled traced typed descriptor)
      simp only [List.map_cons, BindResult.addMethods]
      rcases outcome_addMethod typed owner isKind descriptor with
        ⟨goes, next, added, nextOwner, nextKind⟩ | ⟨stops, failed⟩
      · have attempted : (state.addMethod compiler (.ofDescriptor descriptor)).attempt.outcome =
            .ok (.ok next) := congrArg Except.ok added
        rw [Logged.decisions_bind_of_ok _ attempted, reached, if_neg goes, List.flatMap_cons, ← here]
        exact congrArg _ (induction nextOwner nextKind)
      · have attempted : (state.addMethod compiler (.ofDescriptor descriptor)).attempt.outcome =
            .ok (.error (stopFailure className descriptor)) := congrArg Except.ok failed
        rw [Logged.decisions_bind_of_ok _ attempted, reached, if_pos stops, List.flatMap_singleton,
          ← here]
        exact List.append_nil _

theorem decisions_perform (registrar : VirtualRegistrar) (call : BindingCall) :
    routing.decisions (call.perform compiler registrar).records =
      ((call.compiledPlans compiler).flatMap fun plan => plan.2.decisions).map some := by
  rw [compiledPlans, flatMap_decisions_collect, List.map_flatMap]
  exact decisions_addMethods traced typed rfl rfl call.descriptors

end

theorem methodName_of_mem_compiledPlans {call : BindingCall} {plan : String × MarshalingPlan}
    (member : plan ∈ call.compiledPlans compiler) : plan.2.methodName = .text plan.1 := by
  have ⟨⟨name, outcome⟩, inside, taken⟩ := List.mem_filterMap.mp member
  have ⟨descriptor, _, isResult⟩ := List.mem_map.mp inside
  cases isResult
  cases outcome : compiled compiler call.className call.kind descriptor with
  | error failure =>
      rw [outcome] at taken
      cases taken
  | ok made =>
      rw [outcome] at taken
      cases taken
      exact (PlanCompiler.isPlanFor_of_compile outcome).methodName

/-- What the logger of decisions says are the steps of the plans that are compiled: for a method one
event for each argument, in order, and one for the result if there is one, nothing for a method
that is refused, and for a call, however it ends, what it says for each of its plans in turn. -/
theorem decisions_mirror_plans (typed : compiler.policy.WellTyped)
    (traced : routing.isEnabled Log.planLogger Log.Level.trace = true) :
    (∀ (descriptor : MethodDescriptor) (className : Option String) (kind : MethodKind),
      let compiled := compiler.compile (.ofDescriptor descriptor) (.ofText? className) kind
      (∀ plan, compiled.outcome = .ok plan →
        routing.decisions compiled.records =
          (plan.arguments.map (ArgumentStep.decision (.text descriptor.name)) ++
            descriptor.returnValue.toList.map fun _ =>
              plan.returnStep.decision (.text descriptor.name)).map some ∧
        plan.arguments.map (·.name) =
          descriptor.arguments.map fun argument => .text argument.name) ∧
      ∀ failure, compiled.outcome = .error failure → routing.decisions compiled.records = []) ∧
    ∀ (registrar : VirtualRegistrar) (call : BindingCall),
      let performed := call.perform compiler registrar
      let events := routing.decisions performed.records
      let plans := call.compiledPlans compiler
      events = (plans.flatMap fun plan => plan.2.decisions).map some ∧
      (∀ methodName, events.filter (MarshalingPlan.isDecisionAbout methodName) =
        ((plans.filter fun plan => plan.1 == methodName).flatMap fun plan =>
          plan.2.decisions).map some) ∧
      ∃ result, performed.outcome = .ok result ∧
        ∀ binding, result.outcome = .ok binding → binding.plans = .named (.ofPairs plans) := by
  refine ⟨fun descriptor className kind => ⟨fun plan compiled => ⟨?_, ?_⟩, fun failure failed => ?_⟩,
    fun registrar call => ⟨?_, fun methodName => ?_, ?_⟩⟩
  · have hasResult := PlanCompiler.hasResult_iff (PlanCompiler.compiles_of_compile compiled).returned
    rw [PlanCompiler.decisions_of_compile traced compiled, MarshalingPlan.decisions,
      (PlanCompiler.isPlanFor_of_compile compiled).methodName]
    cases given : descriptor.returnValue with
    | none => simp [hasResult, MethodDraft.ofDescriptor, given]
    | some result => simp [hasResult, MethodDraft.ofDescriptor, given]
  · rw [PlanCompiler.arguments_of_compile compiled, List.map_map]
    exact List.map_congr_left fun argument _ => PlanCompiler.name_argumentStep ..
  · exact PlanCompiler.decisions_of_failed_compile typed failed routing
  · exact decisions_perform traced typed registrar call
  · rw [decisions_perform traced typed registrar call]
    exact MarshalingPlan.filter_isDecisionAbout
      (fun _ member => methodName_of_mem_compiledPlans member) methodName
  · obtain ⟨result, performed, ends⟩ := endsWith_perform typed registrar call
    refine ⟨result, performed, fun binding returned => ?_⟩
    rw [returned] at ends
    rw [compiledPlans, reached_of_goes ends.goes]
    exact (collects_perform performed returned).plans

/-- A call with an overloaded method, one that is skipped, and one at which it ends. -/
theorem decisions_mirror_plans_of_overloaded :
    let compiler : PlanCompiler := ⟨.bundled ["Node"], ⟨.empty, .empty, .escaped⟩⟩
    let routing : Log.Routing := { Log.Routing.initial with planLevel := Log.Level.trace }
    let call : BindingCall := ⟨some "Node", [
      ⟨"emit", [⟨"signal", "String", none, none⟩, ⟨"count", "int", some "int32", none⟩],
        some ⟨"int", some "int64"⟩, false, false, true, false, some (.int 7)⟩,
      ⟨"raw", [⟨"data", "const void*", none, none⟩], none, false, false, false, false, some (.int 7)⟩,
      ⟨"emit", [⟨"target", "Node", none, none⟩], none, false, false, false, false, some (.int 8)⟩,
      ⟨"_ready", [⟨"late", "bool", none, none⟩], none, false, true, false, false, some (.int 9)⟩,
      ⟨"unseen", [⟨"late", "bool", none, none⟩], none, false, false, false, false, some (.int 9)⟩],
      .classMethod⟩
    let decision (argument storage : String) : Option Document := some (.table
      [("method", .text "emit"), ("argument", .text argument), ("storage", .text storage)])
    compiler.policy.WellTyped ∧
      routing.isEnabled Log.planLogger Log.Level.trace = true ∧
      routing.decisions (call.perform compiler .empty).records =
        [decision "signal" "VARIANT_BOX", decision "count" "VARIANT_BOX",
          some (.table [("method", .text "emit"), ("storage", .text "VARIANT")]),
          decision "target" "HANDLE"] := by
  intro compiler routing call decision
  have typed : compiler.policy.WellTyped := ⟨trivial, trivial⟩
  have traced : routing.isEnabled Log.planLogger Log.Level.trace = true := by decide +kernel
  have ⟨noted, _⟩ := (decisions_mirror_plans typed traced).2 .empty call
  refine ⟨typed, traced, noted.trans ?_⟩
  rfl

end BindingCall

end EngineBridge
