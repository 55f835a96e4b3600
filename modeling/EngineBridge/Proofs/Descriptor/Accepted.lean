import EngineBridge.Descriptor.Reader
import EngineBridge.Proofs.Descriptor.Violations

/-!
Which documents are method entries.

For each form of schema there is a condition on documents under which nothing violates it. Main
statement: nothing violates the schema of a method entry exactly if the document is one.
-/

namespace EngineBridge.Document

namespace Schema

variable {document : Document}

theorem checkKind_eq_nil_iff {kind : Kind} :
    checkKind kind document = [] ↔ kind.admits document = true := by
  simp [checkKind]

theorem checkNonEmpty_eq_nil_iff {nonEmpty : Bool} :
    checkNonEmpty nonEmpty document = [] ↔ (nonEmpty = true → ∀ value, document = .text value →
      value ≠ "") := by
  cases document with
  | text value =>
      by_cases empty : value = ""
      · subst empty
        simp [checkNonEmpty]
      · simp [checkNonEmpty, empty]
  | _ => simp [checkNonEmpty]

/-- A schema that asks for a kind only, or for a text that is filled. -/
theorem violations_plain_eq_nil_iff {kind : Kind} {nonEmpty : Bool} :
    (Schema.mk kind nonEmpty [] [] [] []).violations document = [] ↔
      kind.admits document = true ∧
        (nonEmpty = true → ∀ value, document = .text value → value ≠ "") := by
  have required : checkRequired [] document = [] := by cases document <;> rfl
  simp [violations, required, propertyViolations, itemViolations, checkTogether,
    checkKind_eq_nil_iff, checkNonEmpty_eq_nil_iff]

theorem itemViolations_eq_nil_iff {schema : Schema} {values : List Document} :
    itemViolations [schema] (.array values) = [] ↔
      ∀ value ∈ values, schema.violations value = [] := by
  rw [itemViolations, List.flatten_eq_nil_iff]
  constructor
  · intro none value member
    obtain ⟨position, bound, rfl⟩ := List.mem_iff_getElem.mp member
    have here := none _ (List.mem_mapIdx.mpr ⟨position, bound, rfl⟩)
    exact List.map_eq_nil_iff.mp here
  · intro none found listed
    obtain ⟨position, bound, rfl⟩ := List.mem_mapIdx.mp listed
    rw [none _ (List.getElem_mem bound), List.map_nil]

theorem violations_arrayOf_eq_nil_iff {schema : Schema} :
    (arrayOf schema).violations document = [] ↔
      ∃ values, document = .array values ∧ ∀ value ∈ values, schema.violations value = [] := by
  cases document with
  | array values =>
      simp [arrayOf, violations, checkKind, Kind.admits, checkNonEmpty, checkRequired,
        propertyViolations, itemViolations_eq_nil_iff, checkTogether]
  | _ => simp [arrayOf, violations, checkKind, Kind.admits]

theorem propertyViolations_eq_nil_iff {properties : List (String × Schema)}
    {entries : List (String × Document)} :
    propertyViolations properties (.table entries) = [] ↔
      ∀ property ∈ properties, ∀ value, Entries.get? entries property.1 = some value →
        property.2.violations value = [] := by
  induction properties with
  | nil => simp [propertyViolations]
  | cons property rest induction =>
      obtain ⟨key, schema⟩ := property
      rw [propertyViolations, List.append_eq_nil_iff, induction, List.forall_mem_cons]
      apply and_congr_left'
      cases Entries.get? entries key <;> simp

theorem violations_object_eq_nil_iff {required notTogether : List String}
    {properties : List (String × Schema)} :
    (object required properties notTogether).violations document = [] ↔
      ∃ entries, document = .table entries ∧
        (∀ key ∈ required, Entries.contains entries key = true) ∧
        (∀ property ∈ properties, ∀ value, Entries.get? entries property.1 = some value →
          property.2.violations value = []) ∧
        (notTogether ≠ [] → ∃ key ∈ notTogether, Entries.contains entries key = false) := by
  cases document with
  | table entries =>
      simp [object, violations, checkKind, Kind.admits, checkNonEmpty, checkRequired,
        propertyViolations_eq_nil_iff, itemViolations, checkTogether, holdsAll]
  | _ => simp [object, violations, checkKind, Kind.admits]

end Schema

/-! ## Method entries -/

section Forms

variable (entries : List (String × Document)) (key : String)

/-- A text that is not empty stands under a key. -/
def HasText : Prop :=
  ∃ value, Entries.get? entries key = some (.text value) ∧ value ≠ ""

/-- What stands under a key, if anything does, is of some form. -/
def MayHave (form : Document → Prop) : Prop :=
  ∀ value, Entries.get? entries key = some value → form value

end Forms

def IsSomeText (document : Document) : Prop :=
  ∃ value, document = .text value

def IsFilledText (document : Document) : Prop :=
  ∃ value, document = .text value ∧ value ≠ ""

def IsTruthValue (document : Document) : Prop :=
  ∃ value, document = .bool value

/-- A whole number is an integer or a float that equals one. A truth value is none. -/
def IsWholeNumber (document : Document) : Prop :=
  (∃ number, document = .int number) ∨
    ∃ value number, document = .float value ∧ Number.exactInt? value = some number

inductive IsArgumentEntry : Document → Prop
  | mk {entries : List (String × Document)} (name : HasText entries "name")
      (typeName : HasText entries "type") (metadata : MayHave entries "meta" IsSomeText)
      (defaultValue : MayHave entries "default_value" IsSomeText) : IsArgumentEntry (.table entries)

inductive IsReturnEntry : Document → Prop
  | mk {entries : List (String × Document)} (typeName : HasText entries "type")
      (metadata : MayHave entries "meta" IsSomeText) : IsReturnEntry (.table entries)

def IsArgumentList (document : Document) : Prop :=
  ∃ items, document = .array items ∧ ∀ item ∈ items, IsArgumentEntry item

/-- What a method entry has to be. -/
inductive IsMethodEntry : Document → Prop
  | mk {entries : List (String × Document)} (name : HasText entries "name")
      (arguments : MayHave entries "arguments" IsArgumentList)
      (returnValue : MayHave entries "return_value" IsReturnEntry)
      (returnType : MayHave entries "return_type" IsFilledText)
      (oneForm : Entries.get? entries "return_value" = none ∨
        Entries.get? entries "return_type" = none)
      (flags : ∀ key ∈ ["is_static", "is_virtual", "is_vararg", "is_const"],
        MayHave entries key IsTruthValue)
      (hash : MayHave entries "hash" IsWholeNumber) : IsMethodEntry (.table entries)

namespace Schema

variable {document : Document}

theorem violations_anyText_eq_nil_iff : anyText.violations document = [] ↔ IsSomeText document := by
  rw [anyText, violations_plain_eq_nil_iff]
  cases document <;> simp [Kind.admits, IsSomeText]

theorem violations_someText_eq_nil_iff :
    someText.violations document = [] ↔ IsFilledText document := by
  rw [someText, violations_plain_eq_nil_iff]
  cases document <;> simp [Kind.admits, IsFilledText]

theorem violations_truthValue_eq_nil_iff :
    truthValue.violations document = [] ↔ IsTruthValue document := by
  rw [truthValue, violations_plain_eq_nil_iff]
  cases document <;> simp [Kind.admits, IsTruthValue]

theorem violations_wholeNumber_eq_nil_iff :
    wholeNumber.violations document = [] ↔ IsWholeNumber document := by
  rw [wholeNumber, violations_plain_eq_nil_iff]
  cases document <;> simp [Kind.admits, IsWholeNumber, Option.isSome_iff_exists]

theorem hasText_iff {entries : List (String × Document)} {key : String} :
    HasText entries key ↔
      Entries.contains entries key = true ∧ MayHave entries key IsFilledText := by
  simp only [HasText, MayHave, Entries.contains, IsFilledText]
  cases Entries.get? entries key <;> simp

theorem violations_argument_eq_nil_iff :
    argument.violations document = [] ↔ IsArgumentEntry document := by
  simp only [argument, violations_object_eq_nil_iff, List.forall_mem_cons,
    violations_someText_eq_nil_iff, violations_anyText_eq_nil_iff]
  constructor
  · rintro ⟨entries, rfl, ⟨name, typeName, -⟩, ⟨nameText, typeText, metadata, defaultValue, -⟩, -⟩
    exact .mk (hasText_iff.mpr ⟨name, nameText⟩) (hasText_iff.mpr ⟨typeName, typeText⟩) metadata
      defaultValue
  · rintro ⟨name, typeName, metadata, defaultValue⟩
    obtain ⟨hasName, nameText⟩ := hasText_iff.mp name
    obtain ⟨hasType, typeText⟩ := hasText_iff.mp typeName
    exact ⟨_, rfl, ⟨hasName, hasType, List.forall_mem_nil _⟩,
      ⟨nameText, typeText, metadata, defaultValue, List.forall_mem_nil _⟩, absurd rfl⟩

theorem violations_returnValue_eq_nil_iff :
    returnValue.violations document = [] ↔ IsReturnEntry document := by
  simp only [returnValue, violations_object_eq_nil_iff, List.forall_mem_cons,
    violations_someText_eq_nil_iff, violations_anyText_eq_nil_iff]
  constructor
  · rintro ⟨entries, rfl, ⟨typeName, -⟩, ⟨typeText, metadata, -⟩, -⟩
    exact .mk (hasText_iff.mpr ⟨typeName, typeText⟩) metadata
  · rintro ⟨typeName, metadata⟩
    obtain ⟨hasType, typeText⟩ := hasText_iff.mp typeName
    exact ⟨_, rfl, ⟨hasType, List.forall_mem_nil _⟩,
      ⟨typeText, metadata, List.forall_mem_nil _⟩, absurd rfl⟩

/-- The schema accepts exactly the method entries. -/
theorem violations_method_eq_nil_iff :
    method.violations document = [] ↔ IsMethodEntry document := by
  simp only [method, violations_object_eq_nil_iff, List.forall_mem_cons,
    violations_someText_eq_nil_iff, violations_arrayOf_eq_nil_iff, violations_argument_eq_nil_iff,
    violations_returnValue_eq_nil_iff, violations_truthValue_eq_nil_iff,
    violations_wholeNumber_eq_nil_iff]
  constructor
  · rintro ⟨entries, rfl, ⟨name, -⟩, ⟨nameText, arguments, returnValue, returnType, isStatic,
      isVirtual, isVararg, isConst, hash, -⟩, oneForm⟩
    refine .mk (hasText_iff.mpr ⟨name, nameText⟩) arguments returnValue returnType ?_ ?_ hash
    · simpa [Entries.contains] using oneForm
    · simp only [List.forall_mem_cons]
      exact ⟨isStatic, isVirtual, isVararg, isConst, List.forall_mem_nil _⟩
  · rintro ⟨name, arguments, returnValue, returnType, oneForm, flags, hash⟩
    obtain ⟨hasName, nameText⟩ := hasText_iff.mp name
    simp only [List.forall_mem_cons] at flags
    obtain ⟨isStatic, isVirtual, isVararg, isConst, _⟩ := flags
    refine ⟨_, rfl, ⟨hasName, List.forall_mem_nil _⟩, ⟨nameText, arguments, returnValue,
      returnType, isStatic, isVirtual, isVararg, isConst, hash, List.forall_mem_nil _⟩, ?_⟩
    simpa [Entries.contains] using oneForm

end Schema

end EngineBridge.Document
