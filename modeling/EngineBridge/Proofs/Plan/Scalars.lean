import EngineBridge.Proofs.Plan.Configured
import EngineBridge.Proofs.Plan.Escaping
import EngineBridge.Proofs.Plan.Policy
import EngineBridge.Session.Arguments
import Mathlib.Data.Set.List

/-!
Scalars under a configuration.

The bundled table leaves the scalars out, so that they are primitives and cross in their native
width. A configuration can put any name into the table. Main statement: with every configuration
that gives usable sizes, a scalar stays a primitive and is passed by its native value exactly as long
as no size is given for it; for one that has a size, the bytes of the value are asked for instead.
-/

namespace EngineBridge

/-- The types of native width. -/
def scalarTypes : List String := ["bool", "int", "float"]

namespace Document

/-- The sizes that a configuration gives. -/
def sizeOverrides (config : Document) : Entries Document :=
  ((config.valueOr "types" (.table [])).valueOr "size_overrides" (.table [])).entryList

theorem valueOr_of_fieldOr {document default value : Document} {key : String}
    (found : document.fieldOr key default = .ok value) : document.valueOr key default = value := by
  cases document with
  | table entries => exact Except.ok.inj found
  | _ => cases found

theorem entryList_of_pairs {document : Document} {entries : List (String × Document)}
    (paired : document.pairs = .ok entries) : document.entryList = entries := by
  cases document with
  | table _ => exact Except.ok.inj paired
  | _ => cases paired

/-- A configuration that says nothing gives no sizes. -/
theorem sizeOverrides_of_falsy {config : Document} (falsy : ¬config.isTruthy = true) :
    config.sizeOverrides = [] := by
  cases config with
  | table entries =>
      cases entries with
      | nil => rfl
      | cons entry rest => exact absurd rfl falsy
  | _ => rfl

end Document

namespace SizeTable

/-- The names that have sizes after one has been written. -/
theorem isSome_get?_put (name typeName : String) (size : Size) (sizes : SizeTable) :
    ((Entries.put name size sizes).get? typeName).isSome ↔
      typeName = name ∨ (sizes.get? typeName).isSome := by
  by_cases same : typeName = name
  · simp [same]
  · simp [Entries.get?_put_of_ne same, same]

/-- Overriding adds names to a table and removes none. -/
theorem isSome_get?_overrideWith {overrides : Entries Document} {sizes result : SizeTable}
    (overridden : overrideWith overrides sizes = .ok result) (typeName : String) :
    (result.get? typeName).isSome ↔ typeName ∈ overrides.keys ∨ (sizes.get? typeName).isSome := by
  fun_induction overrideWith overrides sizes with
  | case1 sizes =>
      cases overridden
      simp [Entries.keys]
  | case2 name count rest sizes large induction =>
      rw [induction overridden, isSome_get?_put, Entries.keys, Entries.keys, List.map_cons,
        List.mem_cons, or_left_comm, or_assoc]
  | case3 => cases overridden
  | case4 name rest sizes induction =>
      rw [induction overridden, isSome_get?_put, Entries.keys, Entries.keys, List.map_cons,
        List.mem_cons, or_left_comm, or_assoc]
  | case5 => cases overridden

/-- A configured table is the bundled one with the sizes that the configuration gives. -/
theorem overrideWith_of_configured {config : Document} {sizes : SizeTable}
    (configured : SizeTable.configured config = .ok sizes) :
    overrideWith config.sizeOverrides (Entries.ofPairs bundled) = .ok sizes := by
  unfold SizeTable.configured at configured
  split at configured
  · have ⟨types, typed, configured⟩ := exists_of_bind_eq_ok configured
    have ⟨overrides, given, configured⟩ := exists_of_bind_eq_ok configured
    have ⟨pairs, paired, overridden⟩ := exists_of_bind_eq_ok configured
    rw [Document.sizeOverrides, Document.valueOr_of_fieldOr typed,
      Document.valueOr_of_fieldOr given, Document.entryList_of_pairs paired]
    exact overridden
  · rename_i falsy
    rw [Document.sizeOverrides_of_falsy falsy]
    exact configured

theorem isSome_get?_configured {config : Document} {sizes : SizeTable}
    (configured : SizeTable.configured config = .ok sizes) (typeName : String) :
    (sizes.get? typeName).isSome ↔ typeName ∈ config.sizeOverrides.keys ∨
      (Entries.get? bundled typeName).isSome := by
  rw [isSome_get?_overrideWith (overrideWith_of_configured configured), ofPairs_bundled]

theorem isSome_get?_bundled : ∀ typeName ∈ [stringType, variantType, arrayType],
    (Entries.get? bundled typeName).isSome = true := by
  decide +kernel

theorem isSome_get?_bundled_scalar : ∀ typeName ∈ scalarTypes,
    (Entries.get? bundled typeName).isSome = false := by
  decide +kernel

end SizeTable

namespace ClassSet

/-- Texts are listed once each. -/
theorem insertAll_texts (names : List String) :
    insertAll [] (names.map .text) = .ok (names.eraseDups.map .text) := by
  induction names using List.reverseRecOn with
  | nil => rfl
  | append_singleton names name induction =>
      unfold insertAll at induction ⊢
      rw [List.map_append, List.foldlM_append, induction, eraseDups_concat, List.map_singleton]
      change List.foldlM insert (names.eraseDups.map .text) [.text name] = _
      simp only [List.foldlM_cons, List.foldlM_nil, bind_pure]
      rw [insert, Document.any_same_text]
      by_cases known : name ∈ names
      · simp [known, Document.isHashable]
      · simp [known, Document.isHashable]

/-- A class more is a text more to list. -/
theorem insertAll_insert_text (names : List String) (name : String) :
    (do (← insertAll [] (names.map .text)).insert (.text name)) =
      Except.ok ((names ++ [name]).eraseDups.map .text) := by
  rw [← insertAll_texts, insertAll, insertAll, List.map_append, List.foldlM_append]
  exact bind_congr fun classes => (bind_pure (classes.insert (.text name))).symm

theorem texts_texts (names : List String) : texts (names.map .text) = names := by
  simp [texts, List.filterMap_map]

end ClassSet

namespace Document

/-- Texts can be sorted, which gives texts. -/
theorem exists_sorted_texts (names : List String) :
    ∃ ordered : List String, Document.sorted (names.map .text) = .ok (ordered.map .text) := by
  rcases names with _ | ⟨first, _ | ⟨second, rest⟩⟩
  · exact ⟨[], rfl⟩
  · exact ⟨[first], rfl⟩
  · let texts := (first :: second :: rest).map Document.text
    have comparable : (texts.tail.all fun other => (below? (.text first) other).isSome) = true := by
      simp [texts, below?]
    have sorted : Document.sorted texts = .ok (texts.mergeSort fun left right =>
        !(below? right left).getD false) := if_pos comparable
    have kept : texts.mergeSort (fun left right => !(below? right left).getD false) ∈
        Set.range (List.map Document.text) := by
      rw [Set.range_list_map]
      intro document inside
      obtain ⟨name, _, same⟩ := List.mem_map.mp ((List.mergeSort_perm _ _).mem_iff.mp inside)
      exact ⟨name, same⟩
    obtain ⟨ordered, same⟩ := kept
    exact ⟨ordered, sorted.trans (congrArg Except.ok same.symm)⟩

end Document

namespace TypeClassifier

/-- What a classifier makes of the names that are not looked up among classes, where `overridden`
are those for which a configuration gives sizes. -/
structure KeepsScalars (classifier : TypeClassifier) (sizes : SizeTable) (overridden : List String) :
    Prop where
  primitive : ∀ typeName ∈ scalarTypes, typeName ∉ overridden → ∀ metadata,
    classifier.classify typeName metadata = .primitive typeName metadata
  builtin : ∀ typeName,
    typeName ∈ [stringType, variantType] ∨ typeName ∈ scalarTypes ∧ typeName ∈ overridden →
    ∃ size, sizes.get? typeName = some size ∧ ∀ metadata,
      classifier.classify typeName metadata = .builtin typeName size
  object : ∀ metadata, classifier.classify objectType metadata = .classHandle objectType
  typedArray : ∃ size, sizes.get? arrayType = some size ∧ ∀ element metadata,
    classifier.classify (typedArrayLead ++ element) metadata = .typedArray element size

variable {classifier : TypeClassifier} {typeName : String}

/-- Names without a lead are looked up as they are. -/
theorem classify_of_plain
    (plain : ∀ lead ∈ [enumLead, bitfieldLead, typedArrayLead], Text.after? lead typeName = none)
    (metadata : Document) :
    classifier.classify typeName metadata = classifier.classifyPlain typeName metadata := by
  rw [List.forall_mem_cons, List.forall_mem_cons, List.forall_mem_singleton] at plain
  rw [classify, plain.1, plain.2.1, plain.2.2]

/-- The names that stand for themselves have no lead. -/
theorem plain_of_named : ∀ typeName ∈ objectType :: stringType :: variantType :: scalarTypes,
    ∀ lead ∈ [enumLead, bitfieldLead, typedArrayLead], Text.after? lead typeName = none := by
  decide +kernel

theorem classify_typedArray (classifier : TypeClassifier) (element : String) (metadata : Document) :
    classifier.classify (typedArrayLead ++ element) metadata =
      .typedArray element classifier.arraySize := by
  have led : Text.after? typedArrayLead (typedArrayLead ++ element) = some element :=
    Text.after?_eq_some_iff.mpr rfl
  have notEnum : Text.after? enumLead (typedArrayLead ++ element) = none := by
    rw [Text.after?, String.toList_append]
    rfl
  have notBitfield : Text.after? bitfieldLead (typedArrayLead ++ element) = none := by
    rw [Text.after?, String.toList_append]
    rfl
  rw [classify, led, notEnum, notBitfield]

theorem classifyPlain_of_sized {size : Size} (notObject : typeName ≠ objectType)
    (sized : classifier.sizes.get? typeName = some size) (metadata : Document) :
    classifier.classifyPlain typeName metadata = .builtin typeName size := by
  rw [classifyPlain, if_neg notObject, sized]

theorem classifyPlain_of_unknown (notObject : typeName ≠ objectType)
    (unsized : classifier.sizes.get? typeName = none) (unknown : typeName ∉ classifier.classes)
    (metadata : Document) :
    classifier.classifyPlain typeName metadata = .primitive typeName metadata := by
  rw [classifyPlain, if_neg notObject, unsized]
  exact if_neg fun known => unknown (List.contains_iff_mem.mp known)

theorem exists_ofTables {sizes : SizeTable} {arraySize : Size}
    (sized : sizes.get? arrayType = some arraySize) (classes : List String) :
    ∃ classifier, ofTables sizes classes = .ok classifier ∧ classifier.sizes = sizes ∧
      classifier.classes = classes := by
  unfold ofTables
  split
  · exact ⟨_, rfl, rfl, rfl⟩
  · rename_i unsized
    rw [unsized] at sized
    cases sized

/-- A classifier with configured sizes, none of whose classes is called like a scalar. -/
theorem keepsScalars_of_configured {config : Document}
    (configured : SizeTable.configured config = .ok classifier.sizes)
    (free : ∀ typeName ∈ scalarTypes, typeName ∉ classifier.classes) :
    classifier.KeepsScalars classifier.sizes config.sizeOverrides.keys := by
  have listed := SizeTable.isSome_get?_configured configured
  have apart : ∀ typeName ∈ stringType :: variantType :: scalarTypes, typeName ≠ objectType := by
    decide
  constructor
  case primitive =>
    intro typeName scalar kept metadata
    have named : typeName ∈ stringType :: variantType :: scalarTypes :=
      List.mem_cons_of_mem _ (List.mem_cons_of_mem _ scalar)
    have unsized : ¬(classifier.sizes.get? typeName).isSome := by
      rw [listed, SizeTable.isSome_get?_bundled_scalar typeName scalar]
      simp [kept]
    rw [classify_of_plain (plain_of_named typeName (List.mem_cons_of_mem _ named))]
    exact classifyPlain_of_unknown (apart typeName named) (Option.not_isSome_iff_eq_none.mp unsized)
      (free typeName scalar) metadata
  case builtin =>
    intro typeName given
    have ⟨named, sized⟩ : typeName ∈ stringType :: variantType :: scalarTypes ∧
        (classifier.sizes.get? typeName).isSome := by
      rw [listed]
      rcases given with value | ⟨scalar, overridden⟩
      · constructor
        · exact List.mem_append_left scalarTypes value
        · exact .inr (SizeTable.isSome_get?_bundled typeName (List.mem_append_left [arrayType] value))
      · exact ⟨List.mem_append_right [stringType, variantType] scalar, .inl overridden⟩
    have ⟨size, found⟩ := Option.isSome_iff_exists.mp sized
    refine ⟨size, found, fun metadata => ?_⟩
    rw [classify_of_plain (plain_of_named typeName (List.mem_cons_of_mem _ named))]
    exact classifyPlain_of_sized (apart typeName named) found metadata
  case object =>
    intro metadata
    rw [classify_of_plain (plain_of_named objectType List.mem_cons_self)]
    exact if_pos rfl
  case typedArray =>
    exact ⟨classifier.arraySize, classifier.arraySize_mem, classify_typedArray classifier⟩

end TypeClassifier

/-- Everything but the policy of a configured compiler is known from the sizes and the classes. -/
theorem PlanCompiler.ofConfig_eq_map {config : Document} {sizes : SizeTable}
    (configured : SizeTable.configured config = .ok sizes) (classes : List String) :
    ∃ (classifier : TypeClassifier) (ordered : List String), classifier.sizes = sizes ∧
      (∀ name, name ∈ classifier.classes ↔ name ∈ classes ∨ name = objectType) ∧
      ofConfig config (classes.map .text) =
        (BindingPolicy.ofConfig config (ordered.map .text)).map
          (fun policy => ⟨classifier, policy⟩) := by
  let known := (classes ++ [objectType]).eraseDups
  have ⟨ordered, sorted⟩ := Document.exists_sorted_texts known
  have ⟨arraySize, sized⟩ : ∃ arraySize, sizes.get? arrayType = some arraySize := by
    rw [← Option.isSome_iff_exists, SizeTable.isSome_get?_configured configured]
    exact .inr (SizeTable.isSome_get?_bundled arrayType (by simp))
  have ⟨classifier, made, sizesOf, classesOf⟩ := TypeClassifier.exists_ofTables sized known
  have classified : TypeClassifier.ofNames sizes (known.map .text) = .ok classifier := by
    rw [TypeClassifier.ofNames, ClassSet.insertAll_texts, eraseDups_of_nodup (nodup_eraseDups _)]
    change TypeClassifier.ofTables sizes (ClassSet.texts (known.map .text)) = _
    rw [ClassSet.texts_texts, made]
  refine ⟨classifier, ordered, sizesOf, ?_, ?_⟩
  · intro name
    rw [classesOf, List.mem_eraseDups, List.mem_append, List.mem_singleton]
  · have listed := ClassSet.insertAll_insert_text classes objectType
    unfold ofConfig
    rw [← bind_assoc, listed, configured]
    change (do
      let classifier ← TypeClassifier.ofNames sizes (known.map .text)
      let policy ← BindingPolicy.ofConfig config (← Document.sorted (known.map .text))
      return (⟨classifier, policy⟩ : PlanCompiler)) = _
    rw [classified, sorted]
    change (BindingPolicy.ofConfig config (ordered.map .text) >>= fun policy =>
      Except.ok (⟨classifier, policy⟩ : PlanCompiler)) = _
    cases BindingPolicy.ofConfig config (ordered.map .text) <;> rfl

/-- A configuration that says nothing about policies leads to one. -/
theorem BindingPolicy.exists_ofConfig {config : Document}
    (noProperty : config.policyTable? "used_by_property" = some [])
    (noDiscardable : config.policyTable? "discardable_result" = some []) (classes : List String) :
    ∃ policy, ofConfig config (classes.map .text) = .ok policy := by
  have made := ofConfig_eq noProperty noDiscardable classes
  dsimp only at made
  rw [made, @tableOf_eq config "used_by_property" [] noProperty,
    @tableOf_eq config "discardable_result" [] noDiscardable]
  exact ⟨_, rfl⟩

namespace ArgumentStep

/-- Whether an argument is passed by its native value. Only an integer of a narrow kind is made a
plain integer first. -/
inductive PassesNative (step : ArgumentStep) (typeName reference : String) : Prop
  | inPlace (source : step.source = .text reference)
      (passes : ∀ {α : Type} (value : Value) (use : Operand → Bridge α),
        Bridge.withArgument step value use = do
          use (.address (← nativeBytes (TypeClass.primitiveForm typeName) value)))
  | widened (isInteger : typeName = "int")
      (source : step.source = .text ("int(" ++ reference ++ ")"))
      (passes : ∀ {α : Type} (value : Value) (use : Operand → Bridge α),
        Bridge.withArgument step value use = do
          use (.address (Number.wordBytes (← value.toInt))))

/-- Whether an argument is passed by the bytes that its value holds. -/
structure PassesContent (step : ArgumentStep) (reference : String) : Prop where
  source : step.source = .text (reference ++ ".content")
  passes : ∀ {α : Type} (value : Value) (use : Operand → Bridge α),
    Bridge.withArgument step value use = do use (.address (← Bridge.contentBytes value))

end ArgumentStep

namespace PlanCompiler

variable {compiler : PlanCompiler} {argument : Argument}

theorem passesNative_stepFor (scalar : argument.typeName ∈ scalarTypes)
    (primitive : ∀ metadata, compiler.classifier.classify argument.typeName metadata =
      .primitive argument.typeName metadata) :
    (compiler.stepFor false argument).PassesNative argument.typeName
      (escapeIdentifier argument.name) := by
  have notString : argument.typeName ≠ stringType := by
    rintro isString
    rw [isString] at scalar
    revert scalar
    decide
  rw [stepFor, primitive]
  unfold argumentStep
  rw [if_neg Bool.false_ne_true, if_neg notString]
  by_cases copied : (TypeClass.primitive argument.typeName
      (.ofText? argument.metadata)).needsCopy = true
  · rw [if_pos copied]
    rw [TypeClass.needsCopy, Bool.and_eq_true, decide_eq_true_eq] at copied
    exact .widened copied.1 rfl fun value use => rfl
  · rw [if_neg copied]
    exact .inPlace rfl fun value use => rfl

theorem passesContent_stepFor (scalar : argument.typeName ∈ scalarTypes) {size : Size}
    (builtin : ∀ metadata, compiler.classifier.classify argument.typeName metadata =
      .builtin argument.typeName size) :
    (compiler.stepFor false argument).PassesContent (escapeIdentifier argument.name) := by
  have ⟨notString, notVariant⟩ : argument.typeName ≠ stringType ∧
      argument.typeName ≠ variantType := by
    have apart : ∀ typeName ∈ scalarTypes, typeName ≠ stringType ∧ typeName ≠ variantType := by
      decide
    exact apart _ scalar
  rw [stepFor, builtin]
  unfold argumentStep
  rw [if_neg Bool.false_ne_true, if_neg notString]
  refine ⟨rfl, fun value use => ?_⟩
  change Bridge.withAddress (.builtin argument.typeName size) value use = _
  cases value <;> exact if_neg notVariant

/-- How scalars fare with a configuration that gives usable sizes, and classes none of which is
called like a scalar. -/
theorem ofConfig_scalars {config : Document} {sizes : SizeTable} {classes : List String}
    (configured : SizeTable.configured config = .ok sizes)
    (free : ∀ typeName ∈ scalarTypes, typeName ∉ classes) :
    ∃ (classifier : TypeClassifier) (ordered : List String),
      ofConfig config (classes.map .text) =
        (BindingPolicy.ofConfig config (ordered.map .text)).map
          (fun policy => ⟨classifier, policy⟩) ∧
      classifier.KeepsScalars sizes config.sizeOverrides.keys ∧
      ∀ policy descriptor className kind plan,
        (compile ⟨classifier, policy⟩ (.ofDescriptor descriptor) className kind).outcome = .ok plan →
        descriptor.isVararg = false →
        List.Forall₂ (fun argument step => argument.typeName ∈ scalarTypes →
          (argument.typeName ∉ config.sizeOverrides.keys →
            step.PassesNative argument.typeName (escapeIdentifier argument.name)) ∧
          (argument.typeName ∈ config.sizeOverrides.keys →
            step.PassesContent (escapeIdentifier argument.name)))
          descriptor.arguments plan.arguments := by
  have ⟨classifier, ordered, sizesOf, classesOf, made⟩ := ofConfig_eq_map configured classes
  subst sizesOf
  have keeps := TypeClassifier.keepsScalars_of_configured configured fun typeName scalar known => by
    rcases (classesOf typeName).mp known with listed | isObject
    · exact free typeName scalar listed
    · rw [isObject] at scalar
      revert scalar
      decide
  refine ⟨classifier, ordered, made, keeps, ?_⟩
  intro policy descriptor className kind plan compiled fixed
  rw [arguments_of_compile compiled, fixed, List.forall₂_map_right_iff, List.forall₂_same]
  intro argument _ scalar
  constructor
  · intro kept
    exact passesNative_stepFor scalar (keeps.primitive _ scalar kept)
  · intro overridden
    have ⟨size, _, builtin⟩ := keeps.builtin _ (.inr ⟨scalar, overridden⟩)
    exact passesContent_stepFor scalar builtin

/-- A configuration may change the size of a built-in value and leaves all scalars alone. -/
theorem ofConfig_scalars_of_vector :
    let config : Document :=
      .table [("types", .table [("size_overrides", .table [("Vector3", .int 24)])])]
    ∃ sizes, SizeTable.configured config = .ok sizes ∧
      ∃ compiler, ofConfig config [.text "Node"] = .ok compiler ∧
        ∀ typeName ∈ scalarTypes, ∀ metadata,
          compiler.classifier.classify typeName metadata = .primitive typeName metadata := by
  intro config
  have ⟨sizes, configured⟩ : ∃ sizes, SizeTable.configured config = .ok sizes := ⟨_, rfl⟩
  have free : ∀ typeName ∈ scalarTypes, typeName ∉ ["Node"] := by decide
  have ⟨classifier, ordered, made, keeps, _⟩ := ofConfig_scalars configured free
  have ⟨policy, policed⟩ := @BindingPolicy.exists_ofConfig config rfl rfl ordered
  rw [policed] at made
  have given : ∀ typeName ∈ scalarTypes, typeName ∉ config.sizeOverrides.keys := by decide
  exact ⟨sizes, configured, _, made, fun typeName scalar =>
    keeps.primitive typeName scalar (given typeName scalar)⟩

/-- Where a size is given for integers, they are built-in values, and one that is passed is asked for
its bytes. -/
theorem scalar_overridden :
    let config : Document := .table [("types", .table [("size_overrides", .table [("int", .int 8)])])]
    ∃ sizes, SizeTable.configured config = .ok sizes ∧
      ∃ compiler, ofConfig config [.text "Node"] = .ok compiler ∧
        compiler.classifier.classify "int" .null = .builtin "int" (.bytes 8) ∧
        (compiler.stepFor false ⟨"count", "int", none, none⟩).PassesContent "count" := by
  intro config
  have ⟨sizes, configured, sized⟩ : ∃ sizes, SizeTable.configured config = .ok sizes ∧
      sizes.get? "int" = some (.bytes 8) := ⟨_, rfl, Entries.get?_put_self _ _ _⟩
  have ⟨classifier, ordered, sizesOf, classesOf, made⟩ := ofConfig_eq_map configured ["Node"]
  have ⟨policy, policed⟩ := @BindingPolicy.exists_ofConfig config rfl rfl ordered
  rw [policed] at made
  have builtin (metadata : Document) :
      classifier.classify "int" metadata = .builtin "int" (.bytes 8) := by
    rw [TypeClassifier.classify_of_plain (TypeClassifier.plain_of_named "int" (by decide))]
    exact TypeClassifier.classifyPlain_of_sized (by decide) (sizesOf ▸ sized) metadata
  refine ⟨sizes, configured, _, made, builtin .null, ?_⟩
  exact @passesContent_stepFor ⟨classifier, policy⟩ ⟨"count", "int", none, none⟩ (by decide) _ builtin

end PlanCompiler

end EngineBridge
