import EngineBridge.Plan.Document
import EngineBridge.Proofs.Document.JsonReading
import EngineBridge.Proofs.Plan.Configured

/-!
Plans written as documents.

Main statement: JSON keeps every plan of a compiler that was made from a configuration.
-/

namespace EngineBridge

open Document.Json (Keeps)

namespace Document.Json.Keeps

@[simp] theorem ofText? {room : Nat} (content : Option String) : Keeps room (.ofText? content) := by
  cases content with
  | none => exact .null
  | some content => exact .text content

end Document.Json.Keeps

theorem Size.IsMeasured.keeps {size : Size} (measured : size.IsMeasured) {room : Nat} :
    Keeps room size.document := by
  cases size with
  | bytes count => exact .int count
  | flag value => exact .bool value
  | unusable given => exact measured.elim

namespace TypeClass

/-- Whether the parts of a class are those that a description and a configuration can give. -/
def IsPlain : TypeClass → Prop
  | .primitive _ metadata => ∃ width, metadata = .ofText? width
  | .builtin _ size | .typedArray _ size => size.IsMeasured
  | .enumeration .. | .classHandle _ => True

/-- JSON keeps a description with an entry that may be left out. -/
theorem keeps_entry {room : Nat} {value : Document} (kept : Keeps room value)
    (kind role name key : String) (distinct : ["kind", role, key].Nodup) :
    Keeps (room + 1) (.table ([("kind", .text kind), (role, .text name)] ++ entry key value)) := by
  have shorter : ["kind", role].Nodup := by
    simp at distinct ⊢
    exact distinct.1.1
  unfold entry
  split
  · exact .table shorter (by simp)
  · exact .table distinct (by simp [kept])

theorem IsPlain.keeps {typeClass : TypeClass} (plain : typeClass.IsPlain) (room : Nat) :
    Keeps (room + 1) (.table typeClass.description) := by
  cases typeClass with
  | primitive name metadata =>
      have ⟨width, given⟩ := plain
      apply keeps_entry _ _ _ _ _ (by decide)
      rw [given]
      exact .ofText? width
  | builtin name size => exact keeps_entry (Size.IsMeasured.keeps plain) _ _ _ _ (by decide)
  | enumeration base isBitfield =>
      exact .table (show ["kind", "base", "bitfield"].Nodup by decide) (by simp [description])
  | typedArray element size => exact keeps_entry (Size.IsMeasured.keeps plain) _ _ _ _ (by decide)
  | classHandle name => exact .table (show ["kind", "name"].Nodup by decide) (by simp [description])

theorem keeps_defaultValue (typeClass : TypeClass) (room : Nat) :
    Keeps room typeClass.defaultValue := by
  cases typeClass with
  | primitive name metadata =>
      unfold defaultValue
      simp only
      split <;> simp
  | builtin name size =>
      unfold defaultValue
      simp only
      split <;> simp
  | _ => simp [defaultValue]

end TypeClass

namespace TypeClassifier

variable {classifier : TypeClassifier}

theorem isPlain_classify (measured : classifier.sizes.IsMeasured) (typeName : String)
    (metadata : Option String) :
    (classifier.classify typeName (.ofText? metadata)).IsPlain := by
  unfold classify
  split
  · trivial
  · trivial
  · exact measured arrayType classifier.arraySize classifier.arraySize_mem
  · unfold classifyPlain
    split
    · trivial
    · split
      · rename_i size found
        exact measured typeName size found
      · split
        · trivial
        · exact ⟨metadata, rfl⟩

end TypeClassifier

namespace PlanCompiler

variable {compiler : PlanCompiler}

theorem exists_source (takesExtras : Bool) (name : Document) (reference typeName : String)
    (typeClass : TypeClass) :
    ∃ source, (argumentStep takesExtras name (.text reference) typeName typeClass).source =
      .text source := by
  unfold argumentStep
  split
  · exact ⟨_, rfl⟩
  split
  · exact ⟨_, rfl⟩
  split
  · split
    · exact ⟨_, rfl⟩
    · exact ⟨_, rfl⟩
  · split
    · exact ⟨_, rfl⟩
    · exact ⟨_, rfl⟩
    · exact ⟨_, rfl⟩
    · exact ⟨_, rfl⟩

theorem keeps_stepFor (measured : compiler.IsMeasured) (takesExtras : Bool) (argument : Argument)
    (room : Nat) : Keeps (room + 2) (compiler.stepFor takesExtras argument).document := by
  have isStep := isStepFor_of_stepOf (stepOf_ofArgument compiler takesExtras argument)
  have plain := TypeClassifier.isPlain_classify measured argument.typeName argument.metadata
  rw [← isStep.typeClass] at plain
  have ⟨source, shape⟩ := exists_source takesExtras (.text argument.name)
    (escapeIdentifier argument.name) argument.typeName
    (compiler.classifier.classify argument.typeName (.ofText? argument.metadata))
  apply Keeps.table
  · simp [Entries.keys]
  · simp [stepFor, isStep.name, shape, plain.keeps room]

theorem returnStep_parts (takesExtras : Bool) (typeName : String) (typeClass : TypeClass) :
    (returnStep takesExtras typeName typeClass).typeClass = some typeClass ∧
      (returnStep takesExtras typeName typeClass).default = typeClass.defaultValue := by
  unfold returnStep
  repeat' split
  all_goals exact ⟨rfl, rfl⟩

theorem keeps_returnStep {typeClass : TypeClass} (plain : typeClass.IsPlain) (takesExtras : Bool)
    (typeName : String) (room : Nat) :
    Keeps (room + 2) (returnStep takesExtras typeName typeClass).document := by
  have ⟨hasClass, hasDefault⟩ := returnStep_parts takesExtras typeName typeClass
  apply Keeps.table
  · simp [Entries.keys]
  · simp [hasClass, hasDefault, plain.keeps room, TypeClass.keeps_defaultValue]

theorem keeps_resultStepFor (measured : compiler.IsMeasured) (takesExtras : Bool)
    (returnValue : Option ReturnValue) (room : Nat) :
    Keeps (room + 2) (compiler.resultStepFor takesExtras returnValue).document := by
  cases returnValue with
  | none =>
      exact .table (show ["type", "storage", "conversion", "default", "pass_content"].Nodup by decide)
        (by simp [resultStepFor, ReturnStep.noReturn])
  | some result =>
      exact keeps_returnStep (TypeClassifier.isPlain_classify measured _ result.metadata) _ _ room

/-- JSON keeps the plan of a described method. -/
theorem keeps_plan (measured : compiler.IsMeasured) {descriptor : MethodDescriptor}
    {className : Option String} {kind : MethodKind} {plan : MarshalingPlan}
    (compiled : (compiler.compile (.ofDescriptor descriptor) (.ofText? className) kind).outcome =
      .ok plan) (room : Nat) : Keeps (room + 4) plan.document := by
  have isPlan := isPlanFor_of_compile compiled
  have steps : ∀ step ∈ plan.arguments, Keeps (room + 2) step.document := by
    rw [arguments_of_compile compiled, List.forall_mem_map]
    exact fun argument _ => keeps_stepFor measured descriptor.isVararg argument room
  have result : Keeps (room + 3) plan.returnStep.document := by
    rw [returnStep_of_compile compiled]
    exact keeps_resultStepFor measured _ _ (room + 1)
  have hash : Keeps (room + 3) plan.abiHash := by
    rw [isPlan.abiHash]
    cases descriptor.abiHash with
    | none => exact .null
    | some hash =>
        cases hash with
        | int number => exact .int number
        | float number => exact .float number
  have arguments : Keeps (room + 3) (.array (plan.arguments.map ArgumentStep.document)) := by
    apply Keeps.array
    simpa using steps
  apply Keeps.table
  · simp [Entries.keys]
  · simp [isPlan.methodName, isPlan.owner, isPlan.exposedName, isPlan.isStatic, isPlan.isVararg,
      hash, arguments, result]

end PlanCompiler

end EngineBridge
