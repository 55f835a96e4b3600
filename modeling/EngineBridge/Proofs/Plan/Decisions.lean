import EngineBridge.Log.Routing
import EngineBridge.Proofs.Plan.Outcome

/-!
The decisions that compiling a method leaves behind.

The compiler notes down how each argument and the result are stored, with a logger that is there for
that alone. What it notes while it compiles a method are the steps of the plan that it returns, and
a described method that it refuses leaves nothing behind: it is refused before the first decision.
-/

namespace EngineBridge

namespace Log.Routing

/-- What the records say that the logger of decisions lets through, in order. -/
def decisions (routing : Routing) (records : List Record) : List (Option Document) :=
  (records.filter fun record =>
    record.logger == planLogger && routing.isEnabled record.logger record.level).map (·.event)

variable (routing : Routing)

theorem decisions_append (first second : List Record) :
    routing.decisions (first ++ second) = routing.decisions first ++ routing.decisions second := by
  rw [decisions, List.filter_append, List.map_append, decisions, decisions]

theorem decisions_of_enabled {record : Record} (logger : record.logger = planLogger)
    (enabled : routing.isEnabled record.logger record.level = true) :
    routing.decisions [record] = [record.event] := by
  simp [decisions, logger, logger ▸ enabled]

/-- The records of other loggers say nothing about decisions. -/
theorem decisions_of_other_loggers {records : List Record}
    (others : ∀ record ∈ records, record.logger ≠ planLogger) : routing.decisions records = [] := by
  rw [decisions, List.map_eq_nil_iff, List.filter_eq_nil_iff]
  intro record member
  simp [others record member]

end Log.Routing

namespace Logged

variable {α β : Type} {routing : Log.Routing}

theorem lift_bind_of_ok {outcome : Except Failure α} {value : α} (succeeded : outcome = .ok value)
    (next : α → Logged β) : (liftM outcome >>= next : Logged β) = next value := by
  subst succeeded
  rfl

theorem lift_bind_of_error {outcome : Except Failure α} {failure : Failure}
    (failed : outcome = .error failure) (next : α → Logged β) :
    (liftM outcome >>= next : Logged β) = throw failure := by
  subst failed
  rfl

theorem decisions_bind_of_ok {first : Logged α} {value : α} (next : α → Logged β)
    (succeeded : first.outcome = .ok value) :
    routing.decisions (first >>= next).records =
      routing.decisions first.records ++ routing.decisions (next value).records := by
  rw [bind_of_ok next succeeded, Log.Routing.decisions_append]

end Logged

/-- What is noted about an argument of a method. -/
def ArgumentStep.decision (methodName : Document) (step : ArgumentStep) : Document :=
  .table [("method", methodName), ("argument", step.name), ("storage", .text step.storage.name)]

/-- What is noted about the result of a method. -/
def ReturnStep.decision (methodName : Document) (step : ReturnStep) : Document :=
  .table [("method", methodName), ("storage", .text step.storage.name)]

/-- The steps of a plan as they are noted down: the arguments in order, then the result if there is
one. -/
def MarshalingPlan.decisions (plan : MarshalingPlan) : List Document :=
  plan.arguments.map (ArgumentStep.decision plan.methodName) ++
    if plan.returnStep.hasResult then [plan.returnStep.decision plan.methodName] else []

namespace PlanCompiler

variable {compiler : PlanCompiler} {draft : MethodDraft} {className : Document} {kind : MethodKind}
  {plan : MarshalingPlan} {routing : Log.Routing}

/-- A result that is there lands somewhere. -/
theorem hasResult_returnStep (takesExtras : Bool) (typeName : String) (typeClass : TypeClass) :
    (returnStep takesExtras typeName typeClass).hasResult = true := by
  unfold returnStep
  dsimp only
  split
  · split <;> rfl
  · split
    · rfl
    · cases typeClass <;> dsimp only <;> first | rfl | (split <;> rfl)

/-- The record of a finished plan goes through another logger. -/
theorem decisions_compiledRecord (routing : Log.Routing) (plan : MarshalingPlan) :
    routing.decisions [compiledRecord plan] = [] := by
  apply routing.decisions_of_other_loggers
  simp [compiledRecord, Log.Record.plain, compilerLogger, Log.planLogger]

theorem hasResult_iff (returned : compiler.IsReturnStep draft plan.returnStep) :
    plan.returnStep.hasResult = true ↔ draft.returnValue.isSome = true := by
  unfold IsReturnStep at returned
  cases given : draft.returnValue with
  | none =>
      rw [given] at returned
      simp [returned, ReturnStep.noReturn, ReturnStep.hasResult]
  | some result =>
      rw [given] at returned
      obtain ⟨typeName, typeClass, _, same⟩ := returned
      simp [same, hasResult_returnStep]

section

variable (traced : routing.isEnabled planLogger Log.Level.trace = true)

include traced

theorem decisions_trace (message : String) (event : List (String × Document)) :
    routing.decisions (trace message event).records = [some (.table event)] :=
  routing.decisions_of_enabled rfl traced

/-- Each step of an argument is noted down as it is decided. -/
theorem decisions_compileArguments {arguments : List ArgumentDraft} {steps : List ArgumentStep}
    (compiled : (compiler.compileArguments draft arguments).outcome = .ok steps) :
    routing.decisions (compiler.compileArguments draft arguments).records =
      steps.map fun step => some (step.decision draft.name) := by
  induction arguments generalizing steps with
  | nil =>
      cases compiled
      rfl
  | cons argument rest induction =>
      have ⟨step, stepped, compiled⟩ := Logged.exists_of_bind_eq_ok compiled
      have ⟨_, traces, compiled⟩ := Logged.exists_of_bind_eq_ok compiled
      have ⟨others, compiledRest, compiled⟩ := Logged.exists_of_bind_eq_ok compiled
      cases compiled
      change compiler.stepOf draft.takesExtras argument = .ok step at stepped
      have named : step.name = argument.name := by
        have ⟨_, _, _, same⟩ := step_of_stepOf stepped
        rw [same, name_argumentStep]
      rw [compileArguments, Logged.lift_bind_of_ok stepped, Logged.decisions_bind_of_ok _ traces,
        decisions_trace traced, Logged.decisions_bind_of_ok _ compiledRest, induction compiledRest,
        List.map_cons, ArgumentStep.decision, named]
      exact congrArg _ (List.append_nil _)

/-- The step of the result is noted down if there is a result. -/
theorem decisions_compileReturn {step : ReturnStep}
    (compiled : (compiler.compileReturn draft).outcome = .ok step) :
    routing.decisions (compiler.compileReturn draft).records =
      if step.hasResult then [some (step.decision draft.name)] else [] := by
  unfold compileReturn at compiled ⊢
  cases given : draft.returnValue with
  | none =>
      rw [given] at compiled
      cases compiled
      rfl
  | some result =>
      rw [given] at compiled
      have ⟨⟨typeName, typeClass⟩, classified, compiled⟩ := Logged.exists_of_bind_eq_ok compiled
      have ⟨_, traces, compiled⟩ := Logged.exists_of_bind_eq_ok compiled
      cases compiled
      change compiler.classifyName result.typeName result.metadata = .ok (typeName, typeClass)
        at classified
      dsimp only
      rw [Logged.lift_bind_of_ok classified, Logged.decisions_bind_of_ok _ traces,
        decisions_trace traced, if_pos (hasResult_returnStep ..)]
      rfl

/-- What is noted while a plan is compiled are its steps. -/
theorem decisions_of_compile (compiled : (compiler.compile draft className kind).outcome = .ok plan) :
    routing.decisions (compiler.compile draft className kind).records =
      plan.decisions.map some := by
  have ⟨_, accepted, compiled⟩ := Logged.exists_of_bind_eq_ok compiled
  have ⟨state, stated, compiled⟩ := Logged.exists_of_bind_eq_ok compiled
  have ⟨arguments, stepped, compiled⟩ := Logged.exists_of_bind_eq_ok compiled
  have ⟨returnStep, returned, compiled⟩ := Logged.exists_of_bind_eq_ok compiled
  have ⟨⟨visibility, exposedName⟩, exposed, compiled⟩ := Logged.exists_of_bind_eq_ok compiled
  have ⟨discardable, judged, compiled⟩ := Logged.exists_of_bind_eq_ok compiled
  have ⟨place, placed, compiled⟩ := Logged.exists_of_bind_eq_ok compiled
  have ⟨_, emitted, compiled⟩ := Logged.exists_of_bind_eq_ok compiled
  cases compiled
  change rejectPointers draft className = _ at accepted
  change bindingState draft className = _ at stated
  change compiler.exposure draft.name className state = _ at exposed
  change compiler.policy.isDiscardable className draft.name = _ at judged
  change locate className draft.name = _ at placed
  rw [compile, Logged.lift_bind_of_ok accepted, Logged.lift_bind_of_ok stated,
    Logged.decisions_bind_of_ok _ stepped, decisions_compileArguments traced stepped,
    Logged.decisions_bind_of_ok _ returned, decisions_compileReturn traced returned,
    Logged.lift_bind_of_ok exposed]
  dsimp only
  rw [Logged.lift_bind_of_ok judged, Logged.lift_bind_of_ok placed,
    Logged.decisions_bind_of_ok _ emitted, Logged.emit, decisions_compiledRecord,
    MarshalingPlan.decisions, List.map_append, List.map_map]
  dsimp only
  split <;> rfl

end

/-- A described method that is refused leaves no decision behind. -/
theorem decisions_of_failed_compile (typed : compiler.policy.WellTyped)
    {descriptor : MethodDescriptor} {className : Option String} {failure : Failure}
    (failed : (compiler.compile (.ofDescriptor descriptor) (.ofText? className) kind).outcome =
      .error failure) (routing : Log.Routing) :
    routing.decisions (compiler.compile (.ofDescriptor descriptor) (.ofText? className) kind).records =
      [] := by
  cases accepted : rejectPointers (.ofDescriptor descriptor) (.ofText? className) with
  | error refusal =>
      rw [compile, Logged.lift_bind_of_error accepted]
      rfl
  | ok _ =>
      cases stated : bindingState (.ofDescriptor descriptor) (.ofText? className) with
      | error refusal =>
          rw [compile, Logged.lift_bind_of_ok accepted, Logged.lift_bind_of_error stated]
          rfl
      | ok state =>
          have plain : ¬descriptor.HasPointer :=
            rawPointer?_eq_none_iff.mp (rawPointer?_of_rejectPointers accepted)
          have fits : descriptor.abiHash.isSome ≠ descriptor.isVirtual := by
            obtain ⟨hashed, isVirtual⟩ := bindingState_eq_ok_iff.mp stated
            rw [hasHash_ofDescriptor] at hashed
            change descriptor.isVirtual = _ at isVirtual
            rw [hashed, isVirtual]
            cases state <;> decide
          obtain ⟨plan, compiled⟩ := exists_plan_of_fits typed plain fits className kind
          rw [compiled] at failed
          cases failed

end PlanCompiler

end EngineBridge
