import EngineBridge.Proofs.Plan.Escaping
import EngineBridge.Proofs.Plan.Outcome

/-!
The local names in the code of a plan.

The source of each step refers to its argument by the escaped name, and a value that is made for the
call has the name of the argument with a lead. Main statement: values that are made never share a
name; two arguments share one only if one of them has an escaped word for its name, and an argument
shares one with a value only if it has that name itself.
-/

namespace EngineBridge

/-- What is left of a text without its beginning and its end, if they are there. -/
def Text.between? (before behind text : String) : Option String := do
  let rest ← after? before text
  if behind.toList.isSuffixOf rest.toList then
    some (String.ofList (rest.toList.take (rest.toList.length - behind.toList.length)))
  else none

theorem Text.between?_of_eq {before middle behind text : String}
    (framed : text = before ++ middle ++ behind) : between? before behind text = some middle := by
  have led : after? before text = some (middle ++ behind) := by
    rw [after?_eq_some_iff, framed, String.append_assoc]
  have closed : behind.toList.isSuffixOf (middle ++ behind).toList = true := by
    rw [List.isSuffixOf_iff_suffix, String.toList_append]
    exact List.suffix_append _ _
  rw [between?, led, Option.bind_eq_bind, Option.bind_some, if_pos closed, String.toList_append,
    List.length_append, Nat.add_sub_cancel, List.take_left, String.ofList_toList]

namespace ArgumentStorage

/-- What stands before the name of an argument in the name of the value that is made of it. -/
def scratchLead? : ArgumentStorage → Option String
  | .variantBox | .scratchCopy => some "copy_"
  | .nativeString => some "gstr_"
  | .address | .handle => none

theorem scratchLead?_mem {storage : ArgumentStorage} {lead : String}
    (led : storage.scratchLead? = some lead) : lead ∈ ["copy_", "gstr_"] := by
  cases storage with
  | variantBox => exact Option.some.inj led ▸ List.mem_cons_self
  | scratchCopy => exact Option.some.inj led ▸ List.mem_cons_self
  | nativeString => exact Option.some.inj led ▸ List.mem_cons_of_mem _ List.mem_cons_self
  | address => cases led
  | handle => cases led

end ArgumentStorage

namespace ArgumentStep

/-- What stands before and behind the name of the argument in the source of a step. -/
def frame (step : ArgumentStep) : String × String :=
  match step.storage, step.typeClass with
  | .variantBox, _ => ("Variant(", ")")
  | .nativeString, _ => ("GString.from_str(", ")")
  | .scratchCopy, .enumeration .. => ("int(", ".value)")
  | .scratchCopy, _ => ("int(", ")")
  | .handle, _ => ("", ".handle")
  | .address, .builtin .. | .address, .typedArray .. => ("", ".content")
  | .address, _ => ("", "")

/-- The name by which the source of a step refers to the argument. -/
def reference? (step : ArgumentStep) : Option String :=
  match step.source with
  | .text source => Text.between? step.frame.1 step.frame.2 source
  | _ => none

theorem reference?_of_source {step : ArgumentStep} {reference : String}
    (framed : step.source = .text (step.frame.1 ++ reference ++ step.frame.2)) :
    step.reference? = some reference := by
  rw [reference?, framed]
  exact Text.between?_of_eq rfl

end ArgumentStep

/-- The names of the values that are made for a call. -/
def MarshalingPlan.scratchNames (plan : MarshalingPlan) : List String :=
  plan.arguments.filterMap (·.scratch)

namespace PlanCompiler

variable {compiler : PlanCompiler} {descriptor : MethodDescriptor}

/-- The source of a step is the name of its argument in a frame, and a value that is made has this
name with a lead. -/
theorem names_argumentStep (takesExtras : Bool) (name reference typeName : String)
    (typeClass : TypeClass) :
    let step := argumentStep takesExtras (.text name) (.text reference) typeName typeClass
    step.source = .text (step.frame.1 ++ reference ++ step.frame.2) ∧
      step.scratch = step.storage.scratchLead?.map (· ++ name) := by
  dsimp only
  unfold argumentStep
  by_cases boxed : takesExtras = true
  · simp only [if_pos boxed]
    exact ⟨rfl, rfl⟩
  by_cases isString : typeName = stringType
  · simp only [if_neg boxed, if_pos isString]
    exact ⟨rfl, rfl⟩
  simp only [if_neg boxed, if_neg isString]
  have plain : (Document.text reference).wording = reference := rfl
  cases typeClass with
  | primitive known metadata =>
      by_cases copied : (TypeClass.primitive known metadata).needsCopy = true
      · simp only [if_pos copied]
        exact ⟨rfl, rfl⟩
      · simp only [if_neg copied]
        exact ⟨by simp [ArgumentStep.frame], rfl⟩
  | enumeration base isBitfield => exact ⟨rfl, rfl⟩
  | builtin known size => exact ⟨by simp [ArgumentStep.frame, TypeClass.needsCopy, plain], rfl⟩
  | typedArray element size => exact ⟨by simp [ArgumentStep.frame, TypeClass.needsCopy, plain], rfl⟩
  | classHandle known => exact ⟨by simp [ArgumentStep.frame, TypeClass.needsCopy, plain], rfl⟩

theorem reference?_stepFor (compiler : PlanCompiler) (takesExtras : Bool) (argument : Argument) :
    (compiler.stepFor takesExtras argument).reference? = some (escapeIdentifier argument.name) :=
  ArgumentStep.reference?_of_source (names_argumentStep _ _ _ _ _).1

/-- The name of a value that is made for a call. -/
theorem exists_lead_of_scratch {takesExtras : Bool} {argument : Argument} {scratch : String}
    (named : (compiler.stepFor takesExtras argument).scratch = some scratch) :
    ∃ lead ∈ ["copy_", "gstr_"], scratch = lead ++ argument.name := by
  have made : (compiler.stepFor takesExtras argument).scratch = _ := (names_argumentStep _ _ _ _ _).2
  rw [made] at named
  have ⟨lead, led, same⟩ := Option.map_eq_some_iff.mp named
  exact ⟨lead, ArgumentStorage.scratchLead?_mem led, same.symm⟩

end PlanCompiler

/-- The leads are equally long, so that names with leads are the same only if the names are. -/
theorem eq_of_led {lead other name neighbour : String} (isLead : lead ∈ ["copy_", "gstr_"])
    (isOther : other ∈ ["copy_", "gstr_"]) (same : lead ++ name = other ++ neighbour) :
    name = neighbour := by
  have long : ∀ lead ∈ ["copy_", "gstr_"], lead.toList.length = 5 := by decide
  have lengths : lead.toList.length = other.toList.length :=
    (long lead isLead).trans (long other isOther).symm
  have characters := congrArg String.toList same
  rw [String.toList_append, String.toList_append] at characters
  exact String.toList_injective (List.append_inj_right characters lengths)

/-- Nothing that has a lead is a reserved word or comes of escaping one. -/
theorem led_not_reserved {lead : String} (isLead : lead ∈ ["copy_", "gstr_"]) (name : String) :
    ∀ word ∈ reservedWords, word ≠ lead ++ name ∧ word ++ "_" ≠ lead ++ name := by
  have apart : ∀ lead ∈ ["copy_", "gstr_"], ∀ word ∈ reservedWords,
      Text.after? lead word = none ∧ Text.after? lead (word ++ "_") = none := by
    decide +kernel
  intro word reserved
  have ⟨plain, escaped⟩ := apart lead isLead word reserved
  constructor
  · intro same
    rw [Text.after?_eq_some_iff.mpr same] at plain
    cases plain
  · intro same
    rw [Text.after?_eq_some_iff.mpr same] at escaped
    cases escaped

theorem led_mem_map_escapeIdentifier_iff {lead : String} (isLead : lead ∈ ["copy_", "gstr_"])
    (name : String) (names : List String) :
    lead ++ name ∈ names.map escapeIdentifier ↔ lead ++ name ∈ names := by
  have apart := led_not_reserved isLead name
  constructor
  · intro inside
    have ⟨other, listed, same⟩ := List.mem_map.mp inside
    by_cases reserved : other ∈ reservedWords
    · rw [escapeIdentifier_of_reserved reserved] at same
      exact absurd same (apart other reserved).2
    · rw [escapeIdentifier_of_free reserved] at same
      exact same ▸ listed
  · intro listed
    have free : lead ++ name ∉ reservedWords := fun reserved => (apart _ reserved).1 rfl
    exact List.mem_map.mpr ⟨_, listed, escapeIdentifier_of_free free⟩

namespace PlanCompiler

variable {compiler : PlanCompiler} {descriptor : MethodDescriptor} {className : Document}
  {kind : MethodKind} {plan : MarshalingPlan}

theorem exists_of_mem_scratchNames
    (compiled : (compiler.compile (.ofDescriptor descriptor) className kind).outcome = .ok plan)
    {scratch : String} (made : scratch ∈ plan.scratchNames) :
    ∃ lead ∈ ["copy_", "gstr_"], ∃ argument ∈ descriptor.arguments,
      scratch = lead ++ argument.name := by
  rw [MarshalingPlan.scratchNames, arguments_of_compile compiled, List.filterMap_map] at made
  have ⟨argument, listed, named⟩ := List.mem_filterMap.mp made
  have ⟨lead, isLead, same⟩ := exists_lead_of_scratch named
  exact ⟨lead, isLead, argument, listed, same⟩

/-- Values that are made for one call have different names. -/
theorem nodup_scratchNames (distinct : (descriptor.arguments.map (·.name)).Nodup)
    (compiled : (compiler.compile (.ofDescriptor descriptor) className kind).outcome = .ok plan) :
    plan.scratchNames.Nodup := by
  rw [MarshalingPlan.scratchNames, arguments_of_compile compiled, List.filterMap_map, List.Nodup,
    List.pairwise_filterMap]
  apply (List.pairwise_map.mp distinct).imp
  intro argument other apart scratch named neighbour namedToo same
  have ⟨lead, isLead, first⟩ := exists_lead_of_scratch named
  have ⟨otherLead, isOther, second⟩ := exists_lead_of_scratch namedToo
  exact apart (eq_of_led isLead isOther (first.symm.trans (same.trans second)))

/-- The local names of a plan whose arguments have different names. -/
theorem local_names_distinct_iff (distinct : (descriptor.arguments.map (·.name)).Nodup)
    (compiled : (compiler.compile (.ofDescriptor descriptor) className kind).outcome = .ok plan) :
    let names := descriptor.arguments.map (·.name)
    ∃ references : List String, plan.arguments.map (·.reference?) = references.map some ∧
      (references.Nodup ↔ ∀ word ∈ reservedWords, word ∈ names → word ++ "_" ∉ names) ∧
      plan.scratchNames.Nodup ∧
      ∀ scratch ∈ plan.scratchNames,
        (∃ name ∈ names, scratch = "copy_" ++ name ∨ scratch = "gstr_" ++ name) ∧
        (scratch ∈ references ↔ scratch ∈ names) := by
  intro names
  refine ⟨names.map escapeIdentifier, ?_, ?_, nodup_scratchNames distinct compiled, ?_⟩
  · rw [arguments_of_compile compiled, List.map_map, List.map_map, List.map_map]
    exact List.map_congr_left fun argument _ => reference?_stepFor compiler _ argument
  · rw [nodup_map_escapeIdentifier_iff distinct]
    exact ⟨fun free word reserved listed => free word listed reserved,
      fun free word listed reserved => free word reserved listed⟩
  · intro scratch made
    have ⟨lead, isLead, argument, listed, same⟩ := exists_of_mem_scratchNames compiled made
    have named : argument.name ∈ names := List.mem_map_of_mem listed
    constructor
    · refine ⟨argument.name, named, ?_⟩
      rcases List.mem_pair.mp isLead with rfl | rfl
      · exact .inl same
      · exact .inr same
    · rw [same]
      exact led_mem_map_escapeIdentifier_iff isLead argument.name names

/-- A static method with arguments of given names and types. -/
def localMethod (arguments : List Argument) : MethodDescriptor :=
  ⟨"place", arguments, none, true, false, false, false, some (.int 7)⟩

/-- A reserved word beside a text, and a narrow integer beside an enumeration. -/
theorem local_names_distinct_of_reserved :
    let compiler : PlanCompiler := ⟨.bundled ["Node"], .none⟩
    let descriptor := localMethod [⟨"class", "Node", none, none⟩, ⟨"from", "String", none, none⟩,
      ⟨"count", "int", some "int8", none⟩, ⟨"mode", "enum::Mode", none, none⟩]
    (descriptor.arguments.map (·.name)).Nodup ∧ ∃ plan,
      (compiler.compile (.ofDescriptor descriptor) (.text "Node") .classMethod).outcome = .ok plan ∧
        plan.scratchNames = ["gstr_from", "copy_count", "copy_mode"] ∧
        ∃ references : List String, plan.arguments.map (·.reference?) = references.map some ∧
          references.Nodup ∧ ∀ scratch ∈ plan.scratchNames, scratch ∉ references := by
  intro compiler descriptor
  have distinct : (descriptor.arguments.map (·.name)).Nodup := by decide
  have typed : compiler.policy.WellTyped := ⟨trivial, trivial⟩
  have plain : ¬descriptor.HasPointer := by decide
  have ⟨plan, compiled⟩ := exists_plan_of_fits typed plain (by decide) (some "Node") .classMethod
  have made : plan.scratchNames = ["gstr_from", "copy_count", "copy_mode"] := by
    rw [MarshalingPlan.scratchNames, arguments_of_compile compiled]
    decide +kernel
  have unlisted : ∀ scratch ∈ ["gstr_from", "copy_count", "copy_mode"],
      scratch ∉ descriptor.arguments.map (·.name) := by
    decide
  have ⟨references, refers, free, _, apart⟩ := local_names_distinct_iff distinct compiled
  refine ⟨distinct, plan, compiled, made, references, refers, free.mpr (by decide), ?_⟩
  intro scratch member shared
  exact unlisted scratch (made ▸ member) ((apart scratch member).2.mp shared)

/-- Two arguments share a name, and so do an argument and the value that is made of another one. -/
theorem local_names_shared :
    let compiler : PlanCompiler := ⟨.bundled ["Node"], .none⟩
    let descriptor := localMethod [⟨"class", "int", none, none⟩, ⟨"class_", "int", none, none⟩,
      ⟨"count", "int", some "int8", none⟩, ⟨"copy_count", "int", none, none⟩]
    (descriptor.arguments.map (·.name)).Nodup ∧ ∃ plan,
      (compiler.compile (.ofDescriptor descriptor) (.text "Node") .classMethod).outcome = .ok plan ∧
        plan.arguments.map (·.reference?) =
          [some "class_", some "class_", some "count", some "copy_count"] ∧
        plan.scratchNames = ["copy_count"] := by
  intro compiler descriptor
  have typed : compiler.policy.WellTyped := ⟨trivial, trivial⟩
  have plain : ¬descriptor.HasPointer := by decide
  have ⟨plan, compiled⟩ := exists_plan_of_fits typed plain (by decide) (some "Node") .classMethod
  refine ⟨by decide, plan, compiled, ?_, ?_⟩
  · rw [arguments_of_compile compiled]
    decide +kernel
  · rw [MarshalingPlan.scratchNames, arguments_of_compile compiled]
    decide +kernel

end PlanCompiler

end EngineBridge
