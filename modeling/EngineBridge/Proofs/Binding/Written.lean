import EngineBridge.Proofs.Binding.Calls
import EngineBridge.Proofs.Plan.Written

/-!
Bindings written as documents.

Main statement: JSON keeps the binding of every call of a configured compiler, and the register that
the calls share.
-/

namespace EngineBridge

open Document.Json (Keeps)

namespace NameTable

variable {α : Type}

/-- A table of things that stand under texts. -/
def named (entries : Entries α) : NameTable α :=
  entries.map fun entry => (.text entry.1, entry.2)

theorem replace_named (name : String) (value : α) (entries : Entries α) :
    (named entries).replace (.text name) (.text name) value =
      named (Entries.put name value entries) := by
  induction entries with
  | nil => rfl
  | cons entry rest induction =>
      obtain ⟨other, present⟩ := entry
      rw [named] at induction
      by_cases same : other = name
      · simp [named, replace, Entries.put, same]
      · simp [named, replace, Entries.put, same, induction]

theorem names_named (entries : Entries α) : (named entries).names = entries.keys.map .text := by
  simp [named, names, Entries.keys]

theorem values_named (entries : Entries α) : (named entries).values = entries.values := by
  simp [named, values, Entries.values]

theorem get?_named (entries : Entries α) (name : String) :
    (named entries).get? (.text name) = .ok (entries.get? name) := by
  apply congrArg Except.ok
  induction entries with
  | nil => rfl
  | cons entry rest induction =>
      rcases entry with ⟨other, value⟩
      rw [named] at induction
      by_cases same : name = other
      · simp [named, find?, Entries.get?_cons, same]
      · simp [named, find?, Entries.get?_cons, same, Ne.symm same, induction]

theorem mem_values_replace {key : Document.Key} {name : Document} {value other : α}
    {table : NameTable α} (inside : other ∈ (table.replace key name value).values) :
    other = value ∨ other ∈ table.values := by
  induction table with
  | nil => exact Or.inl (List.mem_singleton.mp inside)
  | cons entry rest induction =>
      unfold replace at inside
      split at inside
      · rcases List.mem_cons.mp inside with isNew | behind
        · exact Or.inl isNew
        · exact Or.inr (List.mem_cons_of_mem _ behind)
      · rcases List.mem_cons.mp inside with isFirst | behind
        · rw [isFirst]
          exact Or.inr List.mem_cons_self
        · exact (induction behind).imp_right (List.mem_cons_of_mem _)

end NameTable

/-- What JSON asks of a binding: texts as names, no method skipped twice, and plans that it keeps. -/
structure ClassBinding.IsPlain (binding : ClassBinding) : Prop where
  owner : ∃ className, binding.className = .ofText? className
  plans : ∀ plan ∈ binding.plans.values, ∀ room, Keeps (room + 4) plan.document
  virtualMethods : ∃ names : List String, binding.virtualMethods = names.map .text
  skipped : ∃ reasons : Entries String, reasons.keys.Nodup ∧ binding.skipped = .named reasons

namespace ClassBinding

variable {binding : ClassBinding}

theorem isPlain_empty (className : Option String) (kind : MethodKind) :
    (ClassBinding.empty (.ofText? className) kind).IsPlain where
  owner := ⟨className, rfl⟩
  plans := fun _ none => absurd none List.not_mem_nil
  virtualMethods := ⟨[], rfl⟩
  skipped := ⟨[], List.nodup_nil, rfl⟩

theorem keeps_texts (names : List String) (room : Nat) :
    Keeps (room + 1) (.array (names.map .text)) := by
  apply Keeps.array
  simp

theorem IsPlain.keeps (plain : binding.IsPlain) (room : Nat) : Keeps (room + 6) binding.document := by
  obtain ⟨className, owner⟩ := plain.owner
  obtain ⟨names, listed⟩ := plain.virtualMethods
  obtain ⟨reasons, distinct, skipped⟩ := plain.skipped
  have plans : Keeps (room + 5) (.array (binding.plans.values.map MarshalingPlan.document)) := by
    apply Keeps.array
    intro document inside
    obtain ⟨plan, member, same⟩ := List.mem_map.mp inside
    rw [← same]
    exact plain.plans plan member room
  have table : Keeps (room + 5)
      (.table (binding.skipped.map fun entry => (entry.1.wording, .text entry.2))) := by
    rw [skipped, NameTable.named, List.map_map]
    apply Keeps.table
    · simpa [Entries.keys, Function.comp_def, Document.wording] using distinct
    · intro entry inside
      obtain ⟨_, _, same⟩ := List.mem_map.mp inside
      rw [← same]
      exact .text _
  apply Keeps.table
  · simp [Entries.keys]
  · simp [owner, plans, listed, table, keeps_texts]

end ClassBinding

namespace VirtualRegistrar

theorem keeps_of_records {registrar : VirtualRegistrar} {entries : List (String × String)}
    (records : registrar.Records entries) (room : Nat) : Keeps (room + 2) registrar.document := by
  rw [document_of_records records]
  have keys : Entries.keys ((classesOf entries).map fun className =>
      (className, Document.array ((methodsOf entries className).map .text))) =
        classesOf entries := by
    simp [Entries.keys, Function.comp_def]
  apply Keeps.table
  · rw [keys]
    exact nodup_eraseDups _
  · simp [ClassBinding.keeps_texts]

end VirtualRegistrar

variable {compiler : PlanCompiler}

namespace BinderState

/-- A method that is added leaves a binding that JSON keeps. -/
theorem isPlain_addMethod (measured : compiler.IsMeasured) {state next : BinderState}
    (plain : state.binding.IsPlain) (descriptor : MethodDescriptor)
    (added : (state.addMethod compiler (.ofDescriptor descriptor)).outcome = .ok next) :
    next.binding.IsPlain := by
  have ⟨className, owner⟩ := plain.owner
  unfold addMethod at added
  have ⟨outcome, attempted, added⟩ := Logged.exists_of_bind_eq_ok added
  have compiled : (compiler.compile (.ofDescriptor descriptor) (.ofText? className)
      state.binding.kind).outcome = outcome := by
    rw [← owner]
    exact Except.ok.inj attempted
  split at added
  · -- the signature holds a raw pointer
    have ⟨_, _, added⟩ := Logged.exists_of_bind_eq_ok added
    have ⟨skipped, put, added⟩ := Logged.exists_of_bind_eq_ok added
    have ⟨reasons, distinct, table⟩ := plain.skipped
    cases added
    cases put
    exact { plain with
      skipped := by
        rw [table]
        exact ⟨_, Entries.nodup_keys_put distinct _ _, NameTable.replace_named _ _ reasons⟩ }
  · cases added
  · rename_i plan
    have ⟨plans, put, added⟩ := Logged.exists_of_bind_eq_ok added
    have ⟨⟨registrar, isVirtual⟩, _, added⟩ := Logged.exists_of_bind_eq_ok added
    have ⟨names, listed⟩ := plain.virtualMethods
    have ⟨exposed, isText⟩ : ∃ exposed, plan.exposedName = .text exposed :=
      ⟨_, (PlanCompiler.isPlanFor_of_compile compiled).exposedName⟩
    cases added
    cases put
    exact {
      owner := plain.owner
      plans := by
        intro other inside room
        rcases NameTable.mem_values_replace inside with isNew | old
        · rw [isNew]
          exact PlanCompiler.keeps_plan measured compiled room
        · exact plain.plans other old room
      virtualMethods := by
        simp only [listed, isText]
        split
        · exact ⟨names ++ [exposed], by simp⟩
        · exact ⟨names, rfl⟩
      skipped := plain.skipped }

end BinderState

namespace BindResult

/-- A binding that a call returns is one that JSON keeps. -/
theorem isPlain_addMethods (measured : compiler.IsMeasured) (descriptors : List MethodDescriptor)
    {state : BinderState} (plain : state.binding.IsPlain) {result : BindResult}
    (added : (addMethods compiler (descriptors.map .ofDescriptor) state).outcome = .ok result)
    {binding : ClassBinding} (returned : result.outcome = .ok binding) : binding.IsPlain := by
  induction descriptors generalizing state with
  | nil =>
      cases added
      cases returned
      exact plain
  | cons descriptor rest induction =>
      rw [List.map_cons, addMethods] at added
      obtain ⟨outcome, attempted, added⟩ := Logged.exists_of_bind_eq_ok added
      split at added
      · rename_i next
        have succeeded : (state.addMethod compiler (.ofDescriptor descriptor)).outcome = .ok next :=
          Except.ok.inj attempted
        exact induction (BinderState.isPlain_addMethod measured plain descriptor succeeded) added
      · cases added
        cases returned

end BindResult

end EngineBridge
