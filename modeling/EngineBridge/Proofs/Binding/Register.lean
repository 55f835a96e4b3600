import EngineBridge.Binding.Binder
import EngineBridge.Proofs.Entries
import EngineBridge.Proofs.Plan.Outcome

/-!
What the register of virtual methods holds.

The register is described by the entries that were made, class by class and name by name in the
order of their arrival. `VirtualRegistrar.Records` says that it holds these and nothing else.
-/

namespace EngineBridge

namespace Document

@[simp] theorem same_text (left right : String) : (text left).same (text right) = (left == right) := by
  simp [same]

theorem any_same_text (names : List String) (name : String) :
    (names.map text).any (text name).same = decide (name ∈ names) := by
  rw [Bool.eq_iff_iff, List.any_eq_true]
  simp

end Document

namespace NameTable

variable {α : Type}

/-- A table of things that stand under texts, each found by a function of the text. -/
def ofTexts (names : List String) (value : String → α) : NameTable α :=
  names.map fun name => (.text name, value name)

theorem find?_ofTexts (name : String) (names : List String) (value : String → α) :
    (ofTexts names value).find? (.text name) = if name ∈ names then some (value name) else none := by
  induction names with
  | nil => rfl
  | cons first rest induction =>
      rw [ofTexts] at induction
      by_cases same : first = name
      · simp [ofTexts, find?, same]
      · simp [ofTexts, find?, same, Ne.symm same, induction]

theorem replace_ofTexts_of_mem {name : String} {names : List String} (present : name ∈ names)
    (distinct : names.Nodup) (value : String → α) (new : α) :
    (ofTexts names value).replace (.text name) (.text name) new =
      ofTexts names fun other => if other = name then new else value other := by
  induction names with
  | nil => cases present
  | cons first rest induction =>
      obtain ⟨absent, distinct⟩ := List.nodup_cons.mp distinct
      by_cases same : first = name
      · subst same
        have others : ∀ other ∈ rest, (Document.text other, value other) =
            (.text other, if other = first then new else value other) := by
          rintro other member
          have different : other ≠ first := by
            rintro rfl
            exact absent member
          rw [if_neg different]
        simp only [ofTexts, replace, List.map_cons, Document.key?_text, if_true]
        rw [List.map_congr_left others]
      · have present : name ∈ rest := by simpa [Ne.symm same] using present
        simpa [ofTexts, replace, same] using induction present distinct

theorem replace_ofTexts_of_not_mem {name : String} {names : List String} (absent : name ∉ names)
    (value : String → α) (new : α) :
    (ofTexts names value).replace (.text name) (.text name) new =
      ofTexts names value ++ [(.text name, new)] := by
  induction names with
  | nil => rfl
  | cons first rest induction =>
      obtain ⟨different, absent⟩ := List.ne_and_not_mem_of_not_mem_cons absent
      simpa [ofTexts, replace, Ne.symm different] using induction absent

end NameTable

namespace VirtualRegistrar

/-- The classes of entries, in the order of their first entries. -/
def classesOf (entries : List (String × String)) : List String :=
  (entries.map Prod.fst).eraseDups

/-- The methods that entries give to a class, in the order in which they were first given. -/
def methodsOf (entries : List (String × String)) (className : String) : List String :=
  ((entries.filter fun entry => entry.1 == className).map Prod.snd).eraseDups

theorem methodsOf_of_not_mem {entries : List (String × String)} {className : String}
    (absent : className ∉ classesOf entries) : methodsOf entries className = [] := by
  have none : entries.filter (fun entry => entry.1 == className) = [] := by
    simp only [classesOf, List.mem_eraseDups, List.mem_map, not_exists, not_and] at absent
    simpa using fun first second member same => absent (first, second) member same
  rw [methodsOf, none]
  rfl

theorem classesOf_concat (entries : List (String × String)) (className methodName : String) :
    classesOf (entries ++ [(className, methodName)]) =
      if className ∈ classesOf entries then classesOf entries
      else classesOf entries ++ [className] := by
  rw [classesOf, List.map_append, List.map_singleton, eraseDups_concat]
  simp only [classesOf, List.mem_eraseDups]

theorem methodsOf_concat_self (entries : List (String × String)) (className methodName : String) :
    methodsOf (entries ++ [(className, methodName)]) className =
      if methodName ∈ methodsOf entries className then methodsOf entries className
      else methodsOf entries className ++ [methodName] := by
  have last : (entries ++ [(className, methodName)]).filter (fun entry => entry.1 == className) =
      entries.filter (fun entry => entry.1 == className) ++ [(className, methodName)] := by simp
  rw [methodsOf, last, List.map_append, List.map_singleton, eraseDups_concat]
  simp only [methodsOf, List.mem_eraseDups]

theorem methodsOf_concat_of_ne (entries : List (String × String)) {className other : String}
    (different : other ≠ className) (methodName : String) :
    methodsOf (entries ++ [(className, methodName)]) other = methodsOf entries other := by
  simp [methodsOf, Ne.symm different]

def Records (registrar : VirtualRegistrar) (entries : List (String × String)) : Prop :=
  registrar.byClass = .ofTexts (classesOf entries) fun className =>
    (methodsOf entries className).map .text

theorem records_empty : empty.Records [] := rfl

theorem document_of_records {registrar : VirtualRegistrar} {entries : List (String × String)}
    (records : registrar.Records entries) :
    registrar.document = .table ((classesOf entries).map fun className =>
      (className, .array ((methodsOf entries className).map .text))) := by
  rw [document, records, NameTable.ofTexts, List.map_map]
  rfl

theorem virtualMethods_of_records {registrar : VirtualRegistrar} {entries : List (String × String)}
    (records : registrar.Records entries) (className : String) :
    registrar.virtualMethods (.text className) =
      .ok ((methodsOf entries className).map .text) := by
  have found : (registrar.byClass.find? (.text className)).getD [] =
      (methodsOf entries className).map .text := by
    rw [records, NameTable.find?_ofTexts]
    split
    · rfl
    · next absent => rw [methodsOf_of_not_mem absent]; rfl
  exact congrArg Except.ok found

/-- Putting the methods of one more entry under its class makes the table of all entries. -/
private theorem replace_of_records {registrar : VirtualRegistrar} {entries : List (String × String)}
    (records : registrar.Records entries) (className methodName : String) :
    Records
      ⟨registrar.byClass.replace (.text className) (.text className)
        ((methodsOf (entries ++ [(className, methodName)]) className).map .text)⟩
      (entries ++ [(className, methodName)]) := by
  have others : ∀ other, other ≠ className →
      (methodsOf entries other).map Document.text =
        (methodsOf (entries ++ [(className, methodName)]) other).map .text := by
    intro other different
    rw [methodsOf_concat_of_ne entries different]
  change registrar.byClass.replace _ _ _ = _
  rw [records, classesOf_concat]
  split
  · next known =>
      rw [NameTable.replace_ofTexts_of_mem known (nodup_eraseDups _)]
      congr 1
      funext other
      split
      · next same => rw [same]
      · next different => exact others other different
  · next new =>
      rw [NameTable.replace_ofTexts_of_not_mem new, NameTable.ofTexts, NameTable.ofTexts,
        List.map_append]
      congr 1
      refine List.map_congr_left fun other member => ?_
      rw [others other fun same => new (same ▸ member)]

/-- Registering a method adds one entry. -/
theorem records_register {registrar : VirtualRegistrar} {entries : List (String × String)}
    (records : registrar.Records entries) (className methodName : String) :
    ∃ next, (registrar.register (.text className) (.text methodName)).outcome = .ok next ∧
      next.Records (entries ++ [(className, methodName)]) := by
  have replaced := replace_of_records records className methodName
  rw [methodsOf_concat_self] at replaced
  simp only [register, virtualMethods_of_records records className]
  rw [Logged.outcome_bind_of_ok _ rfl, Document.any_same_text]
  by_cases known : methodName ∈ methodsOf entries className
  · rw [if_pos known] at replaced
    rw [if_pos (decide_eq_true known)]
    exact ⟨_, rfl, replaced⟩
  · rw [if_neg known, List.map_append] at replaced
    rw [if_neg (by simpa using known)]
    exact ⟨_, rfl, replaced⟩

end VirtualRegistrar

end EngineBridge
