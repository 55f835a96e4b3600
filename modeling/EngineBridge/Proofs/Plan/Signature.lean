import EngineBridge.Plan.Document
import EngineBridge.Proofs.Document.MergeLaws
import EngineBridge.Proofs.Plan.Outcome
import Mathlib.Data.List.Forall2

/-!
What a written plan tells of the method that it was compiled from.

A type name can be read off the description of its class, whatever the tables are. Main statement:
two methods whose plans are written alike have the same name, flags and hash, and arguments and a
result of the same names and types; where a type is a primitive one, the metadata is the same as
well.
-/

namespace EngineBridge

namespace Document

/-- Whether two documents are equal: identical, or of the same values where numbers are compared by
value and the order of keys does not matter. -/
def Alike (left right : Document) : Prop :=
  left = right ∨ left.same right = true

namespace Alike

theorem refl (document : Document) : Alike document document :=
  .inl rfl

theorem text {left right : String} (alike : Alike (.text left) (.text right)) : left = right := by
  rcases alike with same | same
  · exact Document.text.inj same
  · change (left == right) = true at same
    exact beq_iff_eq.mp same

theorem bool {left right : Bool} (alike : Alike (.bool left) (.bool right)) : left = right := by
  rcases alike with same | same
  · exact Document.bool.inj same
  · cases left <;> cases right <;> first | rfl | cases same

/-- Arrays are alike item by item. -/
theorem items {lefts rights : List Document} (alike : Alike (.array lefts) (.array rights)) :
    List.Forall₂ Alike lefts rights := by
  rcases alike with same | same
  · cases same
    exact List.forall₂_same.mpr fun item _ => .refl item
  · change sameItems lefts rights = true at same
    induction lefts generalizing rights with
    | nil =>
        cases rights with
        | nil => exact .nil
        | cons right rights => cases same
    | cons left lefts induction =>
        cases rights with
        | nil => cases same
        | cons right rights =>
            have ⟨first, others⟩ := Bool.and_eq_true_iff.mp same
            exact .cons (.inr first) (induction others)

section Tables

variable {lefts rights : List (String × Document)}

theorem length_eq (alike : Alike (.table lefts) (.table rights)) :
    lefts.length = rights.length := by
  rcases alike with same | same
  · rw [Document.table.inj same]
  · exact beq_iff_eq.mp (Bool.and_eq_true_iff.mp same).1

/-- What tables that are alike have under a key is alike. -/
theorem field (alike : Alike (.table lefts) (.table rights)) {key : String} {left : Document}
    (found : Entries.get? lefts key = some left) :
    ∃ right, Entries.get? rights key = some right ∧ Alike left right := by
  rcases alike with same | same
  · rw [← Document.table.inj same]
    exact ⟨left, found, .refl left⟩
  · have entries := (Bool.and_eq_true_iff.mp same).2
    clear same
    have member := Entries.mem_of_get? found
    induction lefts with
    | nil => cases member
    | cons entry rest induction =>
        have ⟨first, others⟩ := Bool.and_eq_true_iff.mp entries
        rw [Entries.get?_cons] at found
        by_cases isFirst : key = entry.1
        · rw [if_pos isFirst] at found
          cases found
          rw [isFirst]
          split at first
          · next right there => exact ⟨right, there, .inr first⟩
          · cases first
        · rw [if_neg isFirst] at found
          exact induction found others (Entries.mem_of_get? found)

theorem at_key (alike : Alike (.table lefts) (.table rights)) (key : String)
    {left right : Document} (found : Entries.get? lefts key = some left)
    (foundOther : Entries.get? rights key = some right) : Alike left right := by
  have ⟨other, there, same⟩ := alike.field found
  rw [foundOther] at there
  cases there
  exact same

end Tables

end Alike

end Document

open Document (Alike)

namespace TypeClass

/-- The name of a type, read off its class. -/
def typeName : TypeClass → String
  | .primitive name _ | .builtin name _ | .classHandle name => name
  | .enumeration base false => TypeClassifier.enumLead ++ base
  | .enumeration base true => TypeClassifier.bitfieldLead ++ base
  | .typedArray element _ => TypeClassifier.typedArrayLead ++ element

/-- The kind that the description of a class starts with. -/
def kindName : TypeClass → String
  | .primitive .. => "Primitive"
  | .builtin .. => "BuiltinValue"
  | .enumeration .. => "Enum"
  | .typedArray .. => "TypedArray"
  | .classHandle _ => "ClassHandle"

theorem get?_kind (typeClass : TypeClass) :
    Entries.get? typeClass.description "kind" = some (.text typeClass.kindName) := by
  cases typeClass <;> rfl

variable {left right : TypeClass}

/-- Classes that are described alike belong to types of one name. -/
theorem typeName_eq_of_alike
    (alike : Alike (.table left.description) (.table right.description)) :
    left.typeName = right.typeName := by
  have kind := (alike.at_key "kind" (get?_kind left) (get?_kind right)).text
  cases left with
  | primitive name metadata =>
      cases right with
      | primitive other otherMetadata => exact (alike.at_key "name" rfl rfl).text
      | _ => simp [kindName] at kind
  | builtin name size =>
      cases right with
      | builtin other otherSize => exact (alike.at_key "name" rfl rfl).text
      | _ => simp [kindName] at kind
  | enumeration base isBitfield =>
      cases right with
      | enumeration other isOther =>
          have bases : base = other := (alike.at_key "base" rfl rfl).text
          have flags : isBitfield = isOther := (alike.at_key "bitfield" rfl rfl).bool
          rw [bases, flags]
      | _ => simp [kindName] at kind
  | typedArray element size =>
      cases right with
      | typedArray other otherSize =>
          exact congrArg (TypeClassifier.typedArrayLead ++ ·) (alike.at_key "element" rfl rfl).text
      | _ => simp [kindName] at kind
  | classHandle name =>
      cases right with
      | classHandle other => exact (alike.at_key "name" rfl rfl).text
      | _ => simp [kindName] at kind

/-- Primitive types that are described alike have the same metadata. -/
theorem metadata_eq_of_alike {name otherName : String} {metadata otherMetadata : Option String}
    (alike : Alike (.table (primitive name (.ofText? metadata)).description)
      (.table (primitive otherName (.ofText? otherMetadata)).description)) :
    metadata = otherMetadata := by
  have length := alike.length_eq
  cases metadata with
  | none =>
      cases otherMetadata with
      | none => rfl
      | some width => cases length
  | some width =>
      cases otherMetadata with
      | none => cases length
      | some other => exact congrArg some (alike.at_key "meta" rfl rfl).text

end TypeClass

namespace TypeClassifier

/-- The class of a type name is of this name. -/
theorem typeName_classify (classifier : TypeClassifier) (typeName : String) (metadata : Document) :
    (classifier.classify typeName metadata).typeName = typeName := by
  unfold classify
  split
  · next found => exact (Text.after?_eq_some_iff.mp found).symm
  · next found => exact (Text.after?_eq_some_iff.mp found).symm
  · next found => exact (Text.after?_eq_some_iff.mp found).symm
  · unfold classifyPlain
    repeat' split
    all_goals rfl

/-- Whether a name is that of a primitive type does not depend on the metadata. -/
theorem classify_of_primitive {classifier : TypeClassifier} {typeName name : String}
    {metadata given : Document}
    (primitive : classifier.classify typeName metadata = .primitive name given) (other : Document) :
    classifier.classify typeName other = .primitive typeName other := by
  unfold classify at primitive ⊢
  split at primitive
  · cases primitive
  · cases primitive
  · cases primitive
  · unfold classifyPlain at primitive ⊢
    split at primitive
    · cases primitive
    · next notRoot =>
        rw [if_neg notRoot]
        split at primitive
        · cases primitive
        · split at primitive
          · cases primitive
          · next unknown => rw [if_neg unknown]

end TypeClassifier

theorem BindingState.eq_of_name_eq {state other : BindingState} (same : state.name = other.name) :
    state = other := by
  cases state <;> cases other <;> first | rfl | simp [name] at same

namespace PlanCompiler

/-- Whether two types of a signature are the same, as far as a plan tells: by name, and for
primitive types by metadata. -/
structure SameType (compiler : PlanCompiler) (typeName other : String)
    (metadata otherMetadata : Option String) : Prop where
  name : typeName = other
  metadata : ∀ name given,
    compiler.classifier.classify typeName (.ofText? metadata) = .primitive name given →
      metadata = otherMetadata

/-- Whether two methods have the same signature, as far as a plan tells. Hashes are compared by
value. -/
structure SameSignature (compiler : PlanCompiler) (first second : MethodDescriptor) : Prop where
  name : first.name = second.name
  isStatic : first.isStatic = second.isStatic
  isVararg : first.isVararg = second.isVararg
  isVirtual : first.isVirtual = second.isVirtual
  abiHash : Option.Rel (fun hash other => Alike hash.document other.document)
    first.abiHash second.abiHash
  arguments : List.Forall₂ (fun argument other => argument.name = other.name ∧
    compiler.SameType argument.typeName other.typeName argument.metadata other.metadata)
    first.arguments second.arguments
  returnValue : Option.Rel (fun result other =>
    compiler.SameType result.typeName other.typeName result.metadata other.metadata)
    first.returnValue second.returnValue

variable {compiler : PlanCompiler} {first second : MethodDescriptor} {className : Option String}
  {kind : MethodKind} {plan other : MarshalingPlan}

theorem sameType_of_alike {typeName other : String} {metadata otherMetadata : Option String}
    (alike : Alike
      (.table (compiler.classifier.classify typeName (.ofText? metadata)).description)
      (.table (compiler.classifier.classify other (.ofText? otherMetadata)).description)) :
    compiler.SameType typeName other metadata otherMetadata := by
  have named := TypeClass.typeName_eq_of_alike alike
  rw [TypeClassifier.typeName_classify, TypeClassifier.typeName_classify] at named
  subst named
  refine ⟨rfl, fun name given primitive => ?_⟩
  rw [TypeClassifier.classify_of_primitive primitive,
    TypeClassifier.classify_of_primitive primitive] at alike
  exact TypeClass.metadata_eq_of_alike alike

theorem document_stepFor_alike {takesExtras otherTakes : Bool} {argument other : Argument}
    (alike : Alike (compiler.stepFor takesExtras argument).document
      (compiler.stepFor otherTakes other).document) :
    argument.name = other.name ∧
      compiler.SameType argument.typeName other.typeName argument.metadata other.metadata := by
  have step : compiler.IsStepFor takesExtras argument (compiler.stepFor takesExtras argument) :=
    isStepFor_of_stepOf (stepOf_ofArgument compiler takesExtras argument)
  have otherStep : compiler.IsStepFor otherTakes other (compiler.stepFor otherTakes other) :=
    isStepFor_of_stepOf (stepOf_ofArgument compiler otherTakes other)
  have name := alike.at_key "name" rfl rfl
  have typeClass := alike.at_key "type" rfl rfl
  rw [step.name, otherStep.name] at name
  rw [step.typeClass, otherStep.typeClass] at typeClass
  exact ⟨name.text, sameType_of_alike typeClass⟩

/-- What a written plan tells of the result. -/
theorem returnValue_of_alike {takesExtras otherTakes : Bool} {given otherGiven : Option ReturnValue}
    {step otherStep : ReturnStep} (isResult : compiler.IsResultFor takesExtras given step)
    (isOther : compiler.IsResultFor otherTakes otherGiven otherStep)
    (alike : Alike step.document otherStep.document) :
    Option.Rel (fun result other =>
      compiler.SameType result.typeName other.typeName result.metadata other.metadata)
      given otherGiven := by
  have typeClass := alike.at_key "type" rfl rfl
  rw [isResult.typeClass, isOther.typeClass] at typeClass
  cases given with
  | none =>
      cases otherGiven with
      | none => exact .none
      | some other => rcases typeClass with same | same <;> cases same
  | some result =>
      cases otherGiven with
      | none => rcases typeClass with same | same <;> cases same
      | some other => exact .some (sameType_of_alike typeClass)

/-- What a written plan tells of the hash. -/
theorem abiHash_of_alike {hash other : Option AbiHash}
    (alike : Alike ((hash.map AbiHash.document).getD .null)
      ((other.map AbiHash.document).getD .null)) :
    Option.Rel (fun hash other => Alike hash.document other.document) hash other := by
  cases hash with
  | none =>
      cases other with
      | none => exact .none
      | some other => cases other <;> rcases alike with same | same <;> cases same
  | some hash =>
      cases other with
      | none => cases hash <;> rcases alike with same | same <;> cases same
      | some other => exact .some alike

theorem sameSignature_of_alike
    (compiled :
      (compiler.compile (.ofDescriptor first) (.ofText? className) kind).outcome = .ok plan)
    (compiledOther :
      (compiler.compile (.ofDescriptor second) (.ofText? className) kind).outcome = .ok other)
    (alike : Alike plan.document other.document) : compiler.SameSignature first second := by
  have isPlan := isPlanFor_of_compile compiled
  have isOther := isPlanFor_of_compile compiledOther
  have method := alike.at_key "method" rfl rfl
  have isStatic := alike.at_key "is_static" rfl rfl
  have isVararg := alike.at_key "is_vararg" rfl rfl
  have hash := alike.at_key "hash" rfl rfl
  have state := (alike.at_key "binding_state" rfl rfl).text
  have steps := (alike.at_key "arguments" rfl rfl).items
  rw [isPlan.methodName, isOther.methodName] at method
  rw [isPlan.isStatic, isOther.isStatic] at isStatic
  rw [isPlan.isVararg, isOther.isVararg] at isVararg
  rw [isPlan.abiHash, isOther.abiHash] at hash
  rw [arguments_of_compile compiled, arguments_of_compile compiledOther, List.map_map, List.map_map,
    List.forall₂_map_left_iff, List.forall₂_map_right_iff] at steps
  exact {
    name := method.text
    isStatic := isStatic.bool
    isVararg := isVararg.bool
    isVirtual := by
      rw [Bool.eq_iff_iff, ← isPlan.virtual_iff, ← isOther.virtual_iff,
        BindingState.eq_of_name_eq state]
    abiHash := abiHash_of_alike hash
    arguments := steps.imp fun _ _ => document_stepFor_alike
    returnValue :=
      returnValue_of_alike isPlan.returned isOther.returned (alike.at_key "return" rfl rfl) }

/-- Plans that are written in the same way have the same hash, also in form. -/
theorem abiHash_eq_of_document_eq
    (compiled :
      (compiler.compile (.ofDescriptor first) (.ofText? className) kind).outcome = .ok plan)
    (compiledOther :
      (compiler.compile (.ofDescriptor second) (.ofText? className) kind).outcome = .ok other)
    (same : plan.document = other.document) : first.abiHash = second.abiHash := by
  have hash : plan.abiHash = other.abiHash :=
    Option.some.inj (congrArg (fun document => document.at? ["hash"]) same)
  rw [(isPlanFor_of_compile compiled).abiHash, (isPlanFor_of_compile compiledOther).abiHash] at hash
  cases firstHash : first.abiHash with
  | none =>
      cases secondHash : second.abiHash with
      | none => rfl
      | some other => rw [firstHash, secondHash] at hash; cases other <;> cases hash
  | some given =>
      cases secondHash : second.abiHash with
      | none => rw [firstHash, secondHash] at hash; cases given <;> cases hash
      | some other =>
          rw [firstHash, secondHash] at hash
          cases given <;> cases other <;> cases hash <;> rfl

/-- A written plan tells the signature of the method that it was compiled from, and the description
of a class the name of the type. -/
theorem signature_of_written_plan
    (compiled :
      (compiler.compile (.ofDescriptor first) (.ofText? className) kind).outcome = .ok plan)
    (compiledOther :
      (compiler.compile (.ofDescriptor second) (.ofText? className) kind).outcome = .ok other)
    (alike : Alike plan.document other.document) :
    compiler.SameSignature first second ∧
    (plan.document = other.document → first.abiHash = second.abiHash) ∧
    ∀ typeName otherName metadata otherMetadata,
      Alike (.table (compiler.classifier.classify typeName metadata).description)
        (.table (compiler.classifier.classify otherName otherMetadata).description) →
      typeName = otherName := by
  refine ⟨sameSignature_of_alike compiled compiledOther alike,
    abiHash_eq_of_document_eq compiled compiledOther, ?_⟩
  intro typeName otherName metadata otherMetadata described
  have named := TypeClass.typeName_eq_of_alike described
  rwa [TypeClassifier.typeName_classify, TypeClassifier.typeName_classify] at named

/-- Two methods whose plans are written alike. They differ in the form of the hash, in a default
value, in whether they are constant, and in the metadata of a type that is no primitive one. -/
theorem signature_of_written_plan_of_unlike :
    let first : MethodDescriptor :=
      ⟨"seek",
        [⟨"offset", "int", some "int32", some "0"⟩, ⟨"whence", "enum::Whence", some "x", none⟩],
        some ⟨"bool", none⟩, false, false, false, true, some (.int 5)⟩
    let second : MethodDescriptor :=
      ⟨"seek", [⟨"offset", "int", some "int32", none⟩, ⟨"whence", "enum::Whence", none, none⟩],
        some ⟨"bool", none⟩, false, false, false, false, some (.float 5.0)⟩
    let compiler : PlanCompiler := ⟨.bundled [], .none⟩
    ∃ plan other,
      (compiler.compile (.ofDescriptor first) (.ofText? (some "File")) .classMethod).outcome =
        .ok plan ∧
      (compiler.compile (.ofDescriptor second) (.ofText? (some "File")) .classMethod).outcome =
        .ok other ∧
      Alike plan.document other.document ∧ compiler.SameSignature first second := by
  intro first second compiler
  have compiled : (compiler.compile (.ofDescriptor first) (.ofText? (some "File"))
      .classMethod).outcome = .ok _ := rfl
  have compiledOther : (compiler.compile (.ofDescriptor second) (.ofText? (some "File"))
      .classMethod).outcome = .ok _ := rfl
  refine ⟨_, _, compiled, compiledOther, ?alike,
    (signature_of_written_plan compiled compiledOther ?alike).1⟩
  exact .inr rfl

end PlanCompiler

end EngineBridge
