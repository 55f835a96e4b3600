import EngineBridge.Descriptor.Api
import EngineBridge.Proofs.Document.JsonReading
import EngineBridge.Proofs.Document.Writable

/-!
Descriptors that stand in JSON texts.

The hash of a method is an integer that a message may have to quote. Main statement: a descriptor
that was read from an entry of a JSON text has a hash that can be written, wherever the entry stands
in the text. So have all methods of a description that was read from JSON.
-/

namespace EngineBridge

namespace Document

/-- Whether a document stands in another one, at any depth. -/
inductive StandsIn (part : Document) : Document → Prop where
  | whole : StandsIn part part
  | item {items : List Document} {item : Document} (listed : item ∈ items)
      (inside : StandsIn part item) : StandsIn part (.array items)
  | value {entries : List (String × Document)} {entry : String × Document}
      (listed : entry ∈ entries) (inside : StandsIn part entry.2) : StandsIn part (.table entries)

theorem StandsIn.isWritable {part whole : Document} (stands : part.StandsIn whole)
    (writable : whole.isWritable = true) : part.isWritable = true := by
  induction stands with
  | whole => exact writable
  | item listed _ induction => exact induction (isWritable_array.mp writable _ listed)
  | value listed _ induction => exact induction (isWritable_table.mp writable _ listed)

/-- Whether a document stands somewhere in a JSON text. -/
def IsFromJson (document : Document) : Prop :=
  ∃ text whole, Json.read text = .ok whole ∧ document.StandsIn whole

theorem IsFromJson.isWritable {document : Document} (fromJson : document.IsFromJson) :
    document.isWritable = true := by
  obtain ⟨text, whole, read, stands⟩ := fromJson
  exact stands.isWritable (Json.isWritable_of_read read)

/-- JSON can hold every document that it keeps. -/
theorem isFromJson_of_keeps {document : Document} (keeps : Json.Keeps Json.nestingRoom document)
    (writable : Json.isWritable document = true) : document.IsFromJson :=
  ⟨Json.writeFile document, document, Json.read_writeFile keeps writable, .whole⟩

theorem isWritable_of_members {document : Document} {items : List Document}
    (writable : document.isWritable = true) (listed : document.members = .ok items) :
    ∀ item ∈ items, item.isWritable = true := by
  intro item inside
  cases document with
  | array members =>
      cases listed
      exact isWritable_array.mp writable item inside
  | table entries =>
      cases listed
      obtain ⟨entry, -, rfl⟩ := List.mem_map.mp inside
      rfl
  | text value =>
      cases listed
      obtain ⟨character, -, rfl⟩ := List.mem_map.mp inside
      rfl
  | _ => cases listed

theorem isWritable_of_fieldOr {document default value : Document} {key : String}
    (writable : document.isWritable = true) (spare : default.isWritable = true)
    (found : document.fieldOr key default = .ok value) : value.isWritable = true := by
  obtain ⟨field, looked, found⟩ := exists_of_bind_eq_ok found
  cases found
  cases document with
  | table entries =>
      cases looked
      cases here : Entries.get? entries key with
      | none => exact spare
      | some value => exact isWritable_of_get? writable here
  | _ => cases looked

end Document

namespace MethodDescriptor

variable {descriptor : MethodDescriptor}

/-- Whether a message can quote the hash of a method, if the method has one. -/
def HasWritableHash (descriptor : MethodDescriptor) : Prop :=
  ∀ hash, descriptor.abiHash = some hash → hash.document.isWritable = true

/-- Whether a descriptor was read from an entry that stands somewhere in a JSON text. -/
def IsFromJson (descriptor : MethodDescriptor) : Prop :=
  ∃ entry : Document, entry.IsFromJson ∧ ofDocument entry = .ok descriptor

theorem hasWritableHash_of_ofDocument {document : Document} (writable : document.isWritable = true)
    (read : ofDocument document = .ok descriptor) : descriptor.HasWritableHash := by
  intro hash given
  obtain ⟨complaint, -, read⟩ := exists_of_bind_eq_ok read
  split at read
  · obtain ⟨_, -, thrown⟩ := exists_of_bind_eq_ok read
    cases thrown
  · cases read
    obtain ⟨number, found, isHash⟩ := Option.bind_eq_some_iff.mp given
    have here := Document.isWritable_of_get? writable found
    cases number with
    | int number =>
        cases isHash
        exact here
    | float number =>
        cases isHash
        rfl
    | _ => cases isHash
  · cases read

theorem IsFromJson.hasWritableHash (fromJson : descriptor.IsFromJson) :
    descriptor.HasWritableHash := by
  obtain ⟨entry, given, made⟩ := fromJson
  exact hasWritableHash_of_ofDocument given.isWritable made

theorem hasWritableHash_of_mapM {entries : List Document} {descriptors : List MethodDescriptor}
    (writable : ∀ entry ∈ entries, entry.isWritable = true)
    (read : entries.mapM ofDocument = .ok descriptors) :
    ∀ descriptor ∈ descriptors, descriptor.HasWritableHash := by
  have each := mapM_eq_ok_iff.mp read
  clear read
  induction each with
  | nil => exact List.forall_mem_nil _
  | cons here _ induction =>
      rw [List.forall_mem_cons] at writable ⊢
      exact ⟨hasWritableHash_of_ofDocument writable.1 here, induction writable.2⟩

end MethodDescriptor

namespace ApiDescription

variable {api : ApiDescription}

/-- Whether a description can be written, which is so if it was read from JSON. -/
def IsWritable (api : ApiDescription) : Prop :=
  (Document.table api.entries).isWritable = true

theorem IsWritable.listed (writable : api.IsWritable) {key : String} {items : List Document}
    (listed : api.listed key = .ok items) : ∀ item ∈ items, item.isWritable = true := by
  apply Document.isWritable_of_members _ listed
  cases found : Entries.get? api.entries key with
  | none => rfl
  | some value => exact Document.isWritable_of_get? writable found

theorem hasWritableHash_of_findClass {name : Document} {entries : List Document}
    {description : ClassDescription} (writable : ∀ entry ∈ entries, entry.isWritable = true)
    (found : findClass name entries = .ok (some description)) :
    ∀ descriptor ∈ description.methods, descriptor.HasWritableHash := by
  induction entries with
  | nil => cases found
  | cons entry rest induction =>
      rw [List.forall_mem_cons] at writable
      obtain ⟨given, -, found⟩ := exists_of_bind_eq_ok found
      split at found
      · obtain ⟨here, described, found⟩ := exists_of_bind_eq_ok found
        cases found
        obtain ⟨field, fielded, described⟩ := exists_of_bind_eq_ok described
        obtain ⟨methods, members, described⟩ := exists_of_bind_eq_ok described
        obtain ⟨descriptors, read, described⟩ := exists_of_bind_eq_ok described
        cases described
        have fieldWritable := Document.isWritable_of_fieldOr writable.1 rfl fielded
        exact MethodDescriptor.hasWritableHash_of_mapM
          (Document.isWritable_of_members fieldWritable members) read
      · exact induction writable.2 found

theorem IsWritable.getClass (writable : api.IsWritable) {name : Document}
    {description : ClassDescription} (found : api.getClass name = .ok (some description)) :
    ∀ descriptor ∈ description.methods, descriptor.HasWritableHash := by
  obtain ⟨entries, listed, found⟩ := exists_of_bind_eq_ok found
  exact hasWritableHash_of_findClass (writable.listed listed) found

theorem IsWritable.utilityFunctions (writable : api.IsWritable)
    {functions : List MethodDescriptor} (found : api.utilityFunctions = .ok functions) :
    ∀ descriptor ∈ functions, descriptor.HasWritableHash := by
  obtain ⟨entries, listed, found⟩ := exists_of_bind_eq_ok found
  exact MethodDescriptor.hasWritableHash_of_mapM (writable.listed listed) found

end ApiDescription

end EngineBridge
