import EngineBridge.Proofs.Descriptor.Accepted
import EngineBridge.Proofs.Descriptor.FromJson
import Mathlib.Data.List.Forall2

/-!
What a method entry means.

Main statement: exactly the method entries are read, each as the one descriptor that has its
arguments in their order, its result from whichever form is there, and nothing or false for what is
missing; every other document is refused with the violation that is reported; and keys outside the
schema never matter.
-/

namespace EngineBridge

/-! ## Keys outside the schema -/

namespace Document.Schema

mutual

/-- A document without the keys that are outside a schema. -/
def known : Schema → Document → Document
  | .mk _ _ _ properties _ _, .table entries => .table (knownEntries properties entries)
  | .mk _ _ _ _ (schema :: _) _, .array items => .array (knownItems schema items)
  | _, document => document

def knownEntries (properties : List (String × Schema)) :
    List (String × Document) → List (String × Document)
  | [] => []
  | (key, value) :: rest =>
      match Entries.get? properties key with
      | some schema => (key, schema.known value) :: knownEntries properties rest
      | none => knownEntries properties rest

def knownItems (schema : Schema) : List Document → List Document
  | [] => []
  | item :: rest => schema.known item :: knownItems schema rest

end

theorem get?_knownEntries (properties : List (String × Schema)) (entries : List (String × Document))
    (key : String) :
    Entries.get? (knownEntries properties entries) key =
      (Entries.get? properties key).bind fun schema =>
        (Entries.get? entries key).map schema.known := by
  induction entries with
  | nil => cases Entries.get? properties key <;> rfl
  | cons entry rest induction =>
      obtain ⟨other, value⟩ := entry
      rw [knownEntries, Entries.get?_cons]
      by_cases same : key = other
      · subst same
        cases found : Entries.get? properties key with
        | none => simpa [found] using induction
        | some schema => simp [Entries.get?_cons]
      · cases Entries.get? properties other with
        | none => simpa [same] using induction
        | some schema => simpa [same, Entries.get?_cons] using induction

theorem knownItems_eq_map (schema : Schema) (items : List Document) :
    knownItems schema items = items.map schema.known := by
  induction items with
  | nil => rfl
  | cons item rest induction => rw [knownItems, induction, List.map_cons]

/-- Whether a schema accepts a document exactly if it accepts the part that it knows. -/
def IgnoresUnknown (schema : Schema) : Prop :=
  ∀ document, schema.violations (schema.known document) = [] ↔ schema.violations document = []

theorem ignoresUnknown_plain {kind : Kind} {nonEmpty : Bool} :
    IgnoresUnknown (.mk kind nonEmpty [] [] [] []) := by
  intro document
  rw [violations_plain_eq_nil_iff, violations_plain_eq_nil_iff]
  cases document with
  | table entries => cases kind <;> simp [known, Kind.admits]
  | _ => simp [known]

theorem ignoresUnknown_arrayOf {schema : Schema} (ignores : schema.IgnoresUnknown) :
    (arrayOf schema).IgnoresUnknown := by
  intro document
  rw [violations_arrayOf_eq_nil_iff, violations_arrayOf_eq_nil_iff]
  cases document with
  | array items =>
      have each (item : Document) := ignores item
      simp [arrayOf, known, knownItems_eq_map, each]
  | _ => simp [arrayOf, known]

theorem ignoresUnknown_object {required notTogether : List String}
    {properties : List (String × Schema)} (distinct : (Entries.keys properties).Nodup)
    (requiredKnown : ∀ key ∈ required, key ∈ Entries.keys properties)
    (notTogetherKnown : ∀ key ∈ notTogether, key ∈ Entries.keys properties)
    (ignores : ∀ property ∈ properties, property.2.IgnoresUnknown) :
    (object required properties notTogether).IgnoresUnknown := by
  intro document
  rw [violations_object_eq_nil_iff, violations_object_eq_nil_iff]
  cases document with
  | table entries =>
      have contained (key : String) (isKnown : key ∈ Entries.keys properties) :
          Entries.contains (knownEntries properties entries) key =
            Entries.contains entries key := by
        have ⟨schema, found⟩ := Option.isSome_iff_exists.mp (Entries.isSome_get?_iff.mpr isKnown)
        simp [Entries.contains, get?_knownEntries, found]
      simp only [object, known, Document.table.injEq, exists_eq_left']
      refine and_congr ?requiredKeys (and_congr ?values ?together)
      case requiredKeys =>
        refine forall₂_congr fun key member => ?_
        rw [contained key (requiredKnown key member)]
      case values =>
        refine forall₂_congr fun property member => ?_
        rw [get?_knownEntries, Entries.get?_of_mem distinct member]
        cases Entries.get? entries property.1 with
        | none => simp
        | some value => simpa using ignores property member value
      case together =>
        refine imp_congr_right fun _ => exists_congr fun key => and_congr_right fun member => ?_
        rw [contained key (notTogetherKnown key member)]
  | _ => simp [object, known]

theorem ignoresUnknown_argument : argument.IgnoresUnknown := by
  refine ignoresUnknown_object (by decide) (by decide) (by decide) ?_
  simp only [List.forall_mem_cons]
  exact ⟨ignoresUnknown_plain, ignoresUnknown_plain, ignoresUnknown_plain, ignoresUnknown_plain,
    List.forall_mem_nil _⟩

theorem ignoresUnknown_returnValue : returnValue.IgnoresUnknown := by
  refine ignoresUnknown_object (by decide) (by decide) (by decide) ?_
  simp only [List.forall_mem_cons]
  exact ⟨ignoresUnknown_plain, ignoresUnknown_plain, List.forall_mem_nil _⟩

theorem ignoresUnknown_method : method.IgnoresUnknown := by
  refine ignoresUnknown_object (by decide) (by decide) (by decide) ?_
  simp only [List.forall_mem_cons]
  exact ⟨ignoresUnknown_plain, ignoresUnknown_arrayOf ignoresUnknown_argument,
    ignoresUnknown_returnValue, ignoresUnknown_plain, ignoresUnknown_plain, ignoresUnknown_plain,
    ignoresUnknown_plain, ignoresUnknown_plain, ignoresUnknown_plain, List.forall_mem_nil _⟩

/-! ### What the known part of a document means -/

theorem known_table (schema : Schema) (entries : List (String × Document)) :
    schema.known (.table entries) = .table (knownEntries schema.properties entries) := by
  cases schema
  rfl

theorem get?_known {properties : List (String × Schema)} {key : String} {schema : Schema}
    (named : Entries.get? properties key = some schema) (entries : List (String × Document)) :
    Entries.get? (knownEntries properties entries) key =
      (Entries.get? entries key).map schema.known := by
  rw [get?_knownEntries, named, Option.bind_some]

variable {schema part : Schema} {key : String}

theorem textField?_known (named : Entries.get? schema.properties key = some part)
    (document : Document) :
    (schema.known document).textField? key = document.textField? key := by
  cases document with
  | table entries =>
      obtain ⟨_, _, _, _, items, _⟩ := part
      rw [known_table, textField?, textField?, get?_known named]
      cases Entries.get? entries key with
      | none => rfl
      | some value => cases value <;> cases items <;> rfl
  | _ =>
      obtain ⟨_, _, _, _, items, _⟩ := schema
      cases items <;> rfl

theorem flag_known (named : Entries.get? schema.properties key = some part)
    (entries : List (String × Document)) :
    flag (.table (knownEntries schema.properties entries)) key = flag (.table entries) key := by
  obtain ⟨_, _, _, _, items, _⟩ := part
  rw [flag, flag, get?_known named]
  cases Entries.get? entries key with
  | none => rfl
  | some value => cases value <;> cases items <;> rfl

theorem ofDocument_known_argument (document : Document) :
    Argument.ofDocument (argument.known document) = Argument.ofDocument document := by
  have text (key : String) {part : Schema}
      (named : Entries.get? argument.properties key = some part) :=
    textField?_known named document
  simp only [Argument.ofDocument, textField]
  rw [text "name" rfl, text "type" rfl, text "meta" rfl, text "default_value" rfl]

theorem ofDocument_known_returnValue (document : Document) :
    ReturnValue.ofDocument (returnValue.known document) = ReturnValue.ofDocument document := by
  have text (key : String) {part : Schema}
      (named : Entries.get? returnValue.properties key = some part) :=
    textField?_known named document
  simp only [ReturnValue.ofDocument, textField]
  rw [text "type" rfl, text "meta" rfl]

end Document.Schema

namespace MethodDescriptor

open Document (Schema)

variable (entries : List (String × Document))

theorem argumentsOf_known :
    argumentsOf (Schema.knownEntries Schema.method.properties entries) = argumentsOf entries := by
  have there : Entries.get? Schema.method.properties "arguments" = some (.arrayOf .argument) := rfl
  rw [argumentsOf, argumentsOf, Schema.get?_known there]
  cases Entries.get? entries "arguments" with
  | none => rfl
  | some value =>
      cases value with
      | array items =>
          have each (item : Document) := Schema.ofDocument_known_argument item
          simp [Schema.arrayOf, Schema.known, Schema.knownItems_eq_map, each]
      | _ => rfl

theorem returnValueOf?_known :
    returnValueOf? (Schema.knownEntries Schema.method.properties entries) =
      returnValueOf? entries := by
  have table : Entries.get? Schema.method.properties "return_value" = some .returnValue := rfl
  have bare : Entries.get? Schema.method.properties "return_type" = some .someText := rfl
  rw [returnValueOf?, returnValueOf?, Schema.get?_known table, Schema.get?_known bare]
  cases Entries.get? entries "return_value" with
  | none =>
      cases Entries.get? entries "return_type" with
      | none => rfl
      | some value => cases value <;> rfl
  | some value => simp [Schema.ofDocument_known_returnValue]

/-- A method entry means the same without the keys that are outside the schema. -/
theorem ofEntries_known :
    ofEntries (Schema.knownEntries Schema.method.properties entries) = ofEntries entries := by
  have text : Document.textField (.table (Schema.knownEntries Schema.method.properties entries))
      "name" = Document.textField (.table entries) "name" := by
    rw [Document.textField, ← Schema.known_table, Schema.textField?_known rfl, Document.textField]
  have truth (key : String) {part : Schema}
      (named : Entries.get? Schema.method.properties key = some part) :=
    Schema.flag_known named entries
  have number : Entries.get? Schema.method.properties "hash" = some .wholeNumber := rfl
  have hash :
      ((Entries.get? entries "hash").map Schema.wholeNumber.known).bind AbiHash.ofDocument? =
        (Entries.get? entries "hash").bind AbiHash.ofDocument? := by
    cases Entries.get? entries "hash" with
    | none => rfl
    | some value => cases value <;> rfl
  simp only [ofEntries]
  rw [text, argumentsOf_known, returnValueOf?_known, truth "is_static" rfl, truth "is_virtual" rfl,
    truth "is_vararg" rfl, truth "is_const" rfl, Schema.get?_known number, hash]

end MethodDescriptor

/-! ## What a document gives -/

namespace Document

inductive GivesArgument : Document → Argument → Prop
  | mk {entries : List (String × Document)} {argument : Argument}
      (name : Entries.get? entries "name" = some (.text argument.name))
      (typeName : Entries.get? entries "type" = some (.text argument.typeName))
      (metadata : Entries.get? entries "meta" = argument.metadata.map .text)
      (defaultValue : Entries.get? entries "default_value" = argument.defaultValue.map .text) :
      GivesArgument (.table entries) argument

inductive GivesReturnValue : Document → ReturnValue → Prop
  | mk {entries : List (String × Document)} {result : ReturnValue}
      (typeName : Entries.get? entries "type" = some (.text result.typeName))
      (metadata : Entries.get? entries "meta" = result.metadata.map .text) :
      GivesReturnValue (.table entries) result

/-- The result is given as a table, or as a bare type name, or in neither form. -/
inductive GivesResult (entries : List (String × Document)) : Option ReturnValue → Prop
  | table {value : Document} {result : ReturnValue}
      (found : Entries.get? entries "return_value" = some value)
      (gives : value.GivesReturnValue result) : GivesResult entries (some result)
  | bare {typeName : String} (noTable : Entries.get? entries "return_value" = none)
      (found : Entries.get? entries "return_type" = some (.text typeName)) :
      GivesResult entries (some ⟨typeName, none⟩)
  | missing (noTable : Entries.get? entries "return_value" = none)
      (notBare : Entries.get? entries "return_type" = none) : GivesResult entries none

/-- The arguments are given one by one in their order. -/
def GivesArguments (entries : List (String × Document)) (arguments : List Argument) : Prop :=
  ∃ items, (Entries.get? entries "arguments").getD (.array []) = .array items ∧
    List.Forall₂ GivesArgument items arguments

/-- A flag is given, or missing and false. -/
def GivesFlag (entries : List (String × Document)) (key : String) (flag : Bool) : Prop :=
  (Entries.get? entries key).getD (.bool false) = .bool flag

inductive GivesDescriptor : Document → MethodDescriptor → Prop
  | mk {entries : List (String × Document)} {descriptor : MethodDescriptor}
      (name : Entries.get? entries "name" = some (.text descriptor.name))
      (arguments : GivesArguments entries descriptor.arguments)
      (result : GivesResult entries descriptor.returnValue)
      (isStatic : GivesFlag entries "is_static" descriptor.isStatic)
      (isVirtual : GivesFlag entries "is_virtual" descriptor.isVirtual)
      (isVararg : GivesFlag entries "is_vararg" descriptor.isVararg)
      (isConst : GivesFlag entries "is_const" descriptor.isConst)
      (hash : Entries.get? entries "hash" = descriptor.abiHash.map AbiHash.document) :
      GivesDescriptor (.table entries) descriptor

section Unique

/-! ### At most one descriptor is given -/

variable {entries : List (String × Document)} {key : String}

theorem textField?_eq {value : Option String}
    (found : Entries.get? entries key = value.map .text) :
    textField? (.table entries) key = value := by
  rw [textField?, found]
  cases value <;> rfl

theorem textField_eq {value : String} (found : Entries.get? entries key = some (.text value)) :
    textField (.table entries) key = value := by
  have optional : Entries.get? entries key = (some value).map .text := found
  rw [textField, textField?_eq optional, Option.getD_some]

theorem flag_eq {value : Bool} (gives : GivesFlag entries key value) :
    flag (.table entries) key = value := by
  unfold GivesFlag at gives
  rw [flag]
  cases found : Entries.get? entries key with
  | none =>
      rw [found] at gives
      exact Document.bool.inj gives
  | some document =>
      rw [found, Option.getD_some] at gives
      rw [gives]

theorem GivesArgument.eq {document : Document} {argument : Argument}
    (gives : document.GivesArgument argument) : Argument.ofDocument document = argument := by
  obtain ⟨name, typeName, metadata, defaultValue⟩ := gives
  rw [Argument.ofDocument, textField_eq name, textField_eq typeName, textField?_eq metadata,
    textField?_eq defaultValue]

theorem GivesReturnValue.eq {document : Document} {result : ReturnValue}
    (gives : document.GivesReturnValue result) : ReturnValue.ofDocument document = result := by
  obtain ⟨typeName, metadata⟩ := gives
  rw [ReturnValue.ofDocument, textField_eq typeName, textField?_eq metadata]

theorem GivesArguments.eq {arguments : List Argument} (gives : GivesArguments entries arguments) :
    MethodDescriptor.argumentsOf entries = arguments := by
  obtain ⟨items, listed, each⟩ := gives
  have read : items.map Argument.ofDocument = arguments := by
    rw [← List.forall₂_eq_eq_eq, List.forall₂_map_left_iff]
    exact each.imp fun _ _ gives => gives.eq
  rw [MethodDescriptor.argumentsOf]
  cases found : Entries.get? entries "arguments" with
  | none =>
      rw [found] at listed
      cases listed
      exact read
  | some document =>
      rw [found, Option.getD_some] at listed
      rw [listed]
      exact read

theorem GivesResult.eq {result : Option ReturnValue} (gives : GivesResult entries result) :
    MethodDescriptor.returnValueOf? entries = result := by
  rw [MethodDescriptor.returnValueOf?]
  cases gives with
  | table found gives => simp [found, gives.eq]
  | bare noTable found => simp [noTable, found]
  | missing noTable notBare => simp [noTable, notBare]

theorem ofDocument?_of_eq_map {hash : Option AbiHash} {document : Option Document}
    (given : document = hash.map AbiHash.document) : document.bind AbiHash.ofDocument? = hash := by
  rw [given]
  rcases hash with _ | ⟨number⟩ | ⟨number⟩ <;> rfl

theorem GivesDescriptor.eq {descriptor : MethodDescriptor}
    (gives : GivesDescriptor (.table entries) descriptor) :
    MethodDescriptor.ofEntries entries = descriptor := by
  obtain ⟨name, arguments, result, isStatic, isVirtual, isVararg, isConst, hash⟩ := gives
  rw [MethodDescriptor.ofEntries, textField_eq name, arguments.eq, result.eq, flag_eq isStatic,
    flag_eq isVirtual, flag_eq isVararg, flag_eq isConst, ofDocument?_of_eq_map hash]

end Unique

section Accepted

/-! ### A method entry gives one -/

variable {entries : List (String × Document)} {key : String}

theorem HasText.get? (has : HasText entries key) :
    Entries.get? entries key = some (.text (textField (.table entries) key)) := by
  obtain ⟨value, found, -⟩ := has
  rw [found, textField_eq found]

theorem get?_of_mayHave (may : MayHave entries key IsSomeText) :
    Entries.get? entries key = (textField? (.table entries) key).map .text := by
  rw [textField?]
  cases found : Entries.get? entries key with
  | none => rfl
  | some document =>
      obtain ⟨value, rfl⟩ := may document found
      rfl

theorem IsArgumentEntry.gives {document : Document} (isEntry : document.IsArgumentEntry) :
    document.GivesArgument (Argument.ofDocument document) := by
  obtain ⟨name, typeName, metadata, defaultValue⟩ := isEntry
  exact ⟨name.get?, typeName.get?, get?_of_mayHave metadata, get?_of_mayHave defaultValue⟩

theorem IsReturnEntry.gives {document : Document} (isEntry : document.IsReturnEntry) :
    document.GivesReturnValue (ReturnValue.ofDocument document) := by
  obtain ⟨typeName, metadata⟩ := isEntry
  exact ⟨typeName.get?, get?_of_mayHave metadata⟩

theorem givesArguments_of_mayHave (may : MayHave entries "arguments" IsArgumentList) :
    GivesArguments entries (MethodDescriptor.argumentsOf entries) := by
  rw [MethodDescriptor.argumentsOf, GivesArguments]
  cases found : Entries.get? entries "arguments" with
  | none => exact ⟨[], rfl, .nil⟩
  | some document =>
      obtain ⟨items, rfl, each⟩ := may document found
      refine ⟨items, rfl, ?_⟩
      rw [List.forall₂_map_right_iff, List.forall₂_same]
      exact fun item member => (each item member).gives

theorem givesResult_of_mayHave (table : MayHave entries "return_value" IsReturnEntry)
    (bare : MayHave entries "return_type" IsFilledText) :
    GivesResult entries (MethodDescriptor.returnValueOf? entries) := by
  rw [MethodDescriptor.returnValueOf?]
  cases found : Entries.get? entries "return_value" with
  | some document => exact .table found (table document found).gives
  | none =>
      cases foundBare : Entries.get? entries "return_type" with
      | none => exact .missing found foundBare
      | some document =>
          obtain ⟨typeName, rfl, -⟩ := bare document foundBare
          exact .bare found foundBare

theorem givesFlag_of_mayHave (may : MayHave entries key IsTruthValue) :
    GivesFlag entries key (flag (.table entries) key) := by
  rw [GivesFlag, flag]
  cases found : Entries.get? entries key with
  | none => rfl
  | some document =>
      obtain ⟨value, rfl⟩ := may document found
      rfl

theorem get?_hash_of_mayHave (may : MayHave entries "hash" IsWholeNumber) :
    Entries.get? entries "hash" =
      ((Entries.get? entries "hash").bind AbiHash.ofDocument?).map AbiHash.document := by
  cases found : Entries.get? entries "hash" with
  | none => rfl
  | some document =>
      rcases may document found with ⟨number, rfl⟩ | ⟨value, number, rfl, -⟩ <;> rfl

theorem IsMethodEntry.gives (isEntry : IsMethodEntry (.table entries)) :
    GivesDescriptor (.table entries) (MethodDescriptor.ofEntries entries) := by
  obtain ⟨name, arguments, returnValue, returnType, -, flags, hash⟩ := isEntry
  have truth (key : String) (named : key ∈ ["is_static", "is_virtual", "is_vararg", "is_const"]) :=
    givesFlag_of_mayHave (flags key named)
  exact ⟨name.get?, givesArguments_of_mayHave arguments,
    givesResult_of_mayHave returnValue returnType, truth "is_static" (by simp),
    truth "is_virtual" (by simp), truth "is_vararg" (by simp), truth "is_const" (by simp),
    get?_hash_of_mayHave hash⟩

end Accepted

end Document

/-! ## The outcome -/

namespace MethodDescriptor

open Document (Schema)

variable {document : Document}

/-- A document is refused for the violation that is reported. -/
structure IsRefused (document : Document) (violation : Document.Violation) : Prop where
  reported : Schema.IsReported (Schema.method.violations document) violation
  complaint : complaint? document = .ok (some ("schema:" ++ violation.complaint))
  outcome : ofDocument document =
    .error (.invalidDescriptor (nameOf document).spelling ("schema:" ++ violation.complaint))

/-- Nothing is wrong with a method entry. -/
theorem complaint?_of_isMethodEntry (isEntry : document.IsMethodEntry) :
    complaint? document = .ok none := by
  have none := Schema.violations_method_eq_nil_iff.mpr isEntry
  rw [complaint?, Schema.report?, Schema.firstViolation?_eq_none_iff.mpr none, none]
  rfl

theorem ofDocument_of_isMethodEntry {entries : List (String × Document)}
    (isEntry : Document.IsMethodEntry (.table entries)) :
    ofDocument (.table entries) = .ok (ofEntries entries) := by
  unfold ofDocument
  rw [complaint?_of_isMethodEntry isEntry]
  rfl

/-- A name that cannot be written is no text, which is a violation that cannot be worded. -/
theorem isWritable_nameOf
    (worded : ∀ violation, Schema.method.Finds document violation → violation.isWritable = true) :
    (nameOf document).isWritable = true := by
  cases document with
  | table entries =>
      rw [nameOf]
      cases found : Entries.get? entries "name" with
      | none => rfl
      | some value =>
          cases admitted : Document.Kind.string.admits value with
          | true =>
              cases value with
              | text name => rfl
              | _ => cases admitted
          | false =>
              have asked : ("name", Schema.someText) ∈ Schema.method.properties :=
                List.mem_cons_self
              exact worded _ (.property asked found (.kind admitted))
  | _ => rfl

theorem exists_isRefused (noEntry : ¬document.IsMethodEntry)
    (worded : ∀ violation, Schema.method.Finds document violation → violation.isWritable = true) :
    ∃ violation, IsRefused document violation := by
  have ⟨violation, first⟩ :
      ∃ violation, Schema.method.firstViolation? document = some violation := by
    rwa [← Option.ne_none_iff_exists', Ne, Schema.firstViolation?_eq_none_iff,
      Schema.violations_method_eq_nil_iff]
  have all : (Schema.method.violations document).all Document.Violation.isWritable = true :=
    List.all_eq_true.mpr fun other member => worded other (Schema.mem_violations_iff.mp member)
  have refused : complaint? document = .ok (some ("schema:" ++ violation.complaint)) := by
    rw [complaint?, Schema.report?, if_pos all, first]
    rfl
  refine ⟨violation, Schema.isReported_of_firstViolation? first, refused, ?_⟩
  unfold ofDocument
  rw [refused]
  change ((nameOf document).shown >>= _) = _
  rw [Document.shown_of_isWritable (isWritable_nameOf worded)]
  rfl

/-- Nothing is reported of a document if a violation cannot be worded. -/
theorem complaint?_of_unwritable {violation : Document.Violation}
    (found : Schema.method.Finds document violation) (unwritable : violation.isWritable = false) :
    complaint? document = .error .unreadable ∧ ofDocument document = .error .unreadable := by
  have notAll : (Schema.method.violations document).all Document.Violation.isWritable ≠ true := by
    intro all
    have writable := List.all_eq_true.mp all violation (Schema.mem_violations_iff.mpr found)
    rw [unwritable] at writable
    cases writable
  have failed : complaint? document = .error .unreadable := by
    rw [complaint?, Schema.report?, if_neg notAll]
    rfl
  refine ⟨failed, ?_⟩
  unfold ofDocument
  rw [failed]
  rfl

theorem ofDocument_eq_ok_iff {descriptor : MethodDescriptor} :
    ofDocument document = .ok descriptor ↔
      document.IsMethodEntry ∧ document.GivesDescriptor descriptor := by
  constructor
  · intro returned
    by_cases isEntry : document.IsMethodEntry
    · cases document with
      | table entries =>
          rw [ofDocument_of_isMethodEntry isEntry] at returned
          cases returned
          exact ⟨isEntry, isEntry.gives⟩
      | _ => cases isEntry
    · by_cases worded : ∀ violation, Schema.method.Finds document violation →
          violation.isWritable = true
      · obtain ⟨violation, refused⟩ := exists_isRefused isEntry worded
        rw [refused.outcome] at returned
        cases returned
      · obtain ⟨violation, unworded⟩ := Classical.not_forall.mp worded
        obtain ⟨found, unwritable⟩ := Classical.not_imp.mp unworded
        rw [(complaint?_of_unwritable found (Bool.eq_false_iff.mpr unwritable)).2] at returned
        cases returned
  · rintro ⟨isEntry, gives⟩
    cases document with
    | table entries => rw [ofDocument_of_isMethodEntry isEntry, gives.eq]
    | _ => cases isEntry

theorem isMethodEntry_known_iff :
    (Schema.method.known document).IsMethodEntry ↔ document.IsMethodEntry := by
  rw [← Schema.violations_method_eq_nil_iff, Schema.ignoresUnknown_method document,
    Schema.violations_method_eq_nil_iff]

theorem ofDocument_known_eq_ok_iff {descriptor : MethodDescriptor} :
    ofDocument (Schema.method.known document) = .ok descriptor ↔
      ofDocument document = .ok descriptor := by
  by_cases isEntry : document.IsMethodEntry
  · have knownEntry := isMethodEntry_known_iff.mpr isEntry
    cases document with
    | table entries =>
        rw [Schema.known_table] at knownEntry ⊢
        rw [ofDocument_of_isMethodEntry isEntry, ofDocument_of_isMethodEntry knownEntry,
          ofEntries_known]
    | _ => cases isEntry
  · rw [ofDocument_eq_ok_iff, ofDocument_eq_ok_iff, isMethodEntry_known_iff]
    simp [isEntry]

/-- What is read from a document, and how it is refused. A violation quotes the part that is at
fault, and one that cannot be written fails there; no document that stands in a JSON text does. -/
theorem ofDocument_outcome (document : Document) :
    (∀ descriptor, ofDocument document = .ok descriptor ↔
      document.IsMethodEntry ∧ document.GivesDescriptor descriptor) ∧
    (document.IsMethodEntry →
      complaint? document = .ok none ∧ ∃ descriptor, ofDocument document = .ok descriptor) ∧
    (document.IsFromJson → ¬ document.IsMethodEntry →
      ∃ violation, IsRefused document violation) ∧
    (¬ document.IsMethodEntry →
      (∀ violation, Schema.method.Finds document violation → violation.isWritable = true) →
      ∃ violation, IsRefused document violation) ∧
    (∀ violation, Schema.method.Finds document violation → violation.isWritable = false →
      complaint? document = .error .unreadable ∧ ofDocument document = .error .unreadable) ∧
    (∀ violation, violation ∈ Schema.method.violations document ↔
      Schema.method.Finds document violation) ∧
    (∀ first second, Schema.method.Finds document first → Schema.method.Finds document second →
      first.path.Comparable second.path) ∧
    ∀ descriptor, ofDocument (Schema.method.known document) = .ok descriptor ↔
      ofDocument document = .ok descriptor := by
  refine ⟨fun _ => ofDocument_eq_ok_iff, ?accepted, ?fromJson, exists_isRefused,
    fun _ => complaint?_of_unwritable, fun _ => Schema.mem_violations_iff, ?comparable,
    fun _ => ofDocument_known_eq_ok_iff⟩
  case accepted =>
    intro isEntry
    refine ⟨complaint?_of_isMethodEntry isEntry, ?_⟩
    cases document with
    | table entries => exact ⟨_, ofDocument_of_isMethodEntry isEntry⟩
    | _ => cases isEntry
  case fromJson =>
    intro fromJson noEntry
    exact exists_isRefused noEntry fun violation found => found.isWritable fromJson.isWritable
  case comparable =>
    intro first second finds findsToo
    have ⟨_, toFirst⟩ := finds.exists_part
    have ⟨_, toSecond⟩ := findsToo.exists_part
    exact Document.Path.comparable_of_part? toFirst toSecond

/-- An entry with a foreign key is read, and one with an empty name and a truth value for a hash is
refused. -/
theorem ofDocument_outcome_of_foreign_key :
    (∃ descriptor, ofDocument (.table [("name", .text "f"), ("hint", .int 1),
        ("arguments", .array [.table [("type", .text "int"), ("name", .text "x")]]),
        ("return_type", .text "int"), ("hash", .int 7)]) = .ok descriptor) ∧
      ∃ violation, IsRefused (.table [("hash", .bool true), ("name", .text "")]) violation := by
  constructor
  · apply And.right
    apply (ofDocument_outcome _).2.1
    exact Schema.violations_method_eq_nil_iff.mp rfl
  · have noEntry :
        ¬ Document.IsMethodEntry (.table [("hash", .bool true), ("name", .text "")]) := by
      rw [← Schema.violations_method_eq_nil_iff]
      exact List.cons_ne_nil _ _
    have fromJson :
        Document.IsFromJson (.table [("hash", .bool true), ("name", .text "")]) :=
      Document.isFromJson_of_keeps (.table (by decide) (by simp)) (by decide +kernel)
    exact (ofDocument_outcome _).2.2.1 fromJson noEntry

end MethodDescriptor

end EngineBridge
