import EngineBridge.Descriptor.Api
import EngineBridge.Proofs.Binding.Register
import EngineBridge.Proofs.Descriptor.Meaning
import EngineBridge.Proofs.Plan.Configured

/-!
The classes of a description.

All classes are listed by walking over the names of the entries, and a name is looked up from the
start every time. Main statement: in place of each entry there stands what the first entry of its
name describes, so that entries are described as they are exactly if no two of one name differ.
-/

namespace EngineBridge

namespace Document

/-- What an entry of a class has to be: it has a name, and its methods are in form. -/
inductive IsClassEntry : Document → Prop
  | mk {entries : List (String × Document)} {name : String}
      (named : Entries.get? entries "name" = some (.text name))
      (methods : MayHave entries "methods" fun value =>
        ∃ items, value = .array items ∧ ∀ item ∈ items, IsMethodEntry item) :
      IsClassEntry (.table entries)

/-- The class that an entry describes. -/
inductive GivesClass : Document → ClassDescription → Prop
  | mk {entries : List (String × Document)} {items : List Document} {name : String}
      {methods : List MethodDescriptor}
      (named : Entries.get? entries "name" = some (.text name))
      (listed : (Entries.get? entries "methods").getD (.array []) = .array items)
      (inForm : ∀ item ∈ items, IsMethodEntry item)
      (gives : List.Forall₂ GivesDescriptor items methods) :
      GivesClass (.table entries) ⟨.text name, methods⟩

/-- Methods in form have descriptors. -/
theorem exists_gives_of_isMethodEntry {items : List Document}
    (inForm : ∀ item ∈ items, IsMethodEntry item) :
    ∃ methods, List.Forall₂ GivesDescriptor items methods := by
  induction items with
  | nil => exact ⟨[], .nil⟩
  | cons item rest induction =>
      have ⟨here, others⟩ := List.forall_mem_cons.mp inForm
      have ⟨methods, gives⟩ := induction others
      cases here with
      | mk name arguments returnValue returnType oneForm flags hash =>
          exact ⟨_ :: methods,
            .cons (IsMethodEntry.mk name arguments returnValue returnType oneForm flags hash).gives
              gives⟩

theorem IsClassEntry.exists_gives {entry : Document} (inForm : entry.IsClassEntry) :
    ∃ description, entry.GivesClass description := by
  cases inForm with
  | @mk entries name named methods =>
      cases found : Entries.get? entries "methods" with
      | none => exact ⟨_, .mk named (by rw [found]; rfl) (by simp) .nil⟩
      | some value =>
          have ⟨items, isArray, each⟩ := methods value found
          have ⟨descriptors, gives⟩ := exists_gives_of_isMethodEntry each
          exact ⟨_, .mk named (by rw [found, isArray]; rfl) each gives⟩

end Document

namespace ClassDescription

/-- The first description of a name. -/
def firstNamed (described : List ClassDescription) (name : Document) : Option ClassDescription :=
  described.find? fun description => description.name.same name

/-- The description that answers for the name of another one. -/
def answering (described : List ClassDescription) (description : ClassDescription) :
    ClassDescription :=
  (firstNamed described description.name).getD description

theorem name_of_firstNamed {described : List ClassDescription} {name : String}
    {first : ClassDescription} (found : firstNamed described (.text name) = some first) :
    first.name = .text name := by
  have same := List.find?_some found
  exact Document.eq_of_same_text same

end ClassDescription

namespace ApiDescription

open ClassDescription (firstNamed answering)

variable {entries : List Document} {described : List ClassDescription}
  {entry : Document} {description : ClassDescription}

theorem describe_of_gives (gives : entry.GivesClass description) (name : Document) :
    describe name entry = .ok ⟨name, description.methods⟩ := by
  cases gives with
  | @mk fields items _ methods named listed inForm gives =>
      have read : items.mapM MethodDescriptor.ofDocument = .ok methods := by
        rw [mapM_eq_ok_iff]
        clear listed
        induction gives with
        | nil => exact .nil
        | cons here _ induction =>
            have ⟨first, others⟩ := List.forall_mem_cons.mp inForm
            exact .cons (MethodDescriptor.ofDocument_eq_ok_iff.mpr ⟨first, here⟩) (induction others)
      have found : (Document.table fields).fieldOr "methods" (.array []) = .ok (.array items) :=
        congrArg Except.ok listed
      rw [describe, found]
      change (items.mapM MethodDescriptor.ofDocument >>= _) = _
      rw [read]
      rfl

theorem name_of_gives (gives : entry.GivesClass description) :
    entry.fieldAt "name" = .ok description.name ∧
      entry.fieldOr "name" .null = .ok description.name ∧ description.name.IsText := by
  cases gives with
  | mk named listed inForm gives =>
      refine ⟨?_, ?_, _, rfl⟩
      · simp only [Document.fieldAt, named]
      · exact congrArg (fun found => Except.ok (found.getD Document.null)) named

/-- An entry describes one class only. -/
theorem rightUnique_givesClass : Relator.RightUnique Document.GivesClass := by
  intro entry first second here there
  have names : first.name = second.name :=
    Except.ok.inj ((name_of_gives here).1.symm.trans (name_of_gives there).1)
  have same := (describe_of_gives here first.name).symm.trans (describe_of_gives there first.name)
  cases first
  cases second
  cases names
  cases same
  rfl

/-- A name is looked up among what the entries describe. -/
theorem findClass_eq (gives : List.Forall₂ Document.GivesClass entries described) (name : String) :
    findClass (.text name) entries = .ok (firstNamed described (.text name)) := by
  induction gives with
  | nil => rfl
  | @cons entry description entries described here others induction =>
      have ⟨_, named, className, isText⟩ := name_of_gives here
      rw [findClass, named]
      change (if description.name.same (.text name) = true then _ else _) = _
      rw [firstNamed, List.find?_cons]
      split
      · next same =>
          have isName : description.name = .text name := by
            rw [isText, Document.same_text, beq_iff_eq] at same
            rw [isText, same]
          rw [describe_of_gives here, same, ← isName]
          rfl
      · next different =>
          rw [eq_false_of_ne_true different]
          exact induction

theorem classNames_eq {api : ApiDescription} (listed : api.listed "classes" = .ok entries)
    (gives : List.Forall₂ Document.GivesClass entries described) :
    api.classNames = .ok (described.map (·.name)) := by
  rw [classNames, listed]
  change entries.mapM _ = _
  rw [mapM_eq_ok_iff, List.forall₂_map_right_iff]
  exact gives.imp fun entry description here => (name_of_gives here).1

theorem isText_of_gives (gives : List.Forall₂ Document.GivesClass entries described) :
    ∀ description ∈ described, description.name.IsText := by
  induction gives with
  | nil => simp
  | cons here _ induction =>
      exact List.forall_mem_cons.mpr ⟨(name_of_gives here).2.2, induction⟩

theorem getClass_eq {api : ApiDescription} (listed : api.listed "classes" = .ok entries)
    (gives : List.Forall₂ Document.GivesClass entries described) (name : String) :
    api.getClass (.text name) = .ok (firstNamed described (.text name)) := by
  rw [getClass, listed]
  exact findClass_eq gives name

/-- A name that is described is found. -/
theorem firstNamed_eq_answering (inside : description ∈ described)
    (isText : description.name.IsText) :
    firstNamed described description.name = some (answering described description) := by
  have ⟨name, named⟩ := isText
  have found : (firstNamed described description.name).isSome = true := by
    rw [firstNamed, List.find?_isSome]
    exact ⟨description, inside, by rw [named, Document.same_text, beq_self_eq_true]⟩
  have ⟨first, isFirst⟩ := Option.isSome_iff_exists.mp found
  rw [answering, isFirst]
  rfl

theorem classes_eq_map {api : ApiDescription} (listed : api.listed "classes" = .ok entries)
    (gives : List.Forall₂ Document.GivesClass entries described) :
    api.classes = .ok (described.map (answering described)) := by
  have found : (described.map (·.name)).mapM api.getClass =
      .ok (described.map fun description => some (answering described description)) := by
    rw [List.mapM_map]
    apply mapM_eq_ok_of_forall
    intro description inside
    have isText := isText_of_gives gives description inside
    have ⟨name, named⟩ := isText
    rw [← firstNamed_eq_answering inside isText, Function.comp_apply, named]
    exact getClass_eq listed gives name
  rw [classes, classNames_eq listed gives]
  change ((described.map (·.name)).mapM api.getClass >>= _) = _
  rw [found]
  change Except.ok (List.filterMap id (described.map _)) = _
  rw [List.filterMap_map]
  exact congrArg Except.ok (congrFun List.filterMap_eq_map described)

/-- Each description answers for itself exactly if no other one of its name differs. -/
theorem map_answering_eq_iff (texts : ∀ description ∈ described, description.name.IsText) :
    described.map (answering described) = described ↔
      ∀ one ∈ described, ∀ other ∈ described, one.name = other.name → one = other := by
  have each : described.map (answering described) = described ↔
      ∀ description ∈ described, answering described description = description := by
    simpa using List.map_inj_left (l := described) (f := answering described) (g := id)
  rw [each]
  constructor
  · intro itself one isOne other isOther same
    rw [← itself one isOne, ← itself other isOther, ← Option.some_inj,
      ← firstNamed_eq_answering isOne (texts one isOne),
      ← firstNamed_eq_answering isOther (texts other isOther), same]
  · intro agree description inside
    have isText := texts description inside
    have first := firstNamed_eq_answering inside isText
    have member := List.mem_of_find?_eq_some first
    have ⟨name, named⟩ := isText
    rw [named] at first
    have sameName := ClassDescription.name_of_firstNamed first
    exact agree _ member description inside (sameName.trans named.symm)

end ApiDescription

end EngineBridge
