import EngineBridge.Plan.Configured
import EngineBridge.Proofs.Binding.Register

/-!
Compilers made from a configuration.

Main statements: such a compiler knows positive numbers of bytes as sizes only, and it is made
only if all known classes are named by texts.
-/

namespace EngineBridge

namespace Size

/-- Whether a size is one that can be written down. -/
def IsMeasured : Size → Prop
  | .unusable _ => False
  | _ => True

/-- Whether a size is a number of bytes, of one byte at least. -/
def IsPositive (size : Size) : Prop :=
  ∃ count, size.count? = some count ∧ 0 < count

theorem IsPositive.isMeasured {size : Size} (positive : size.IsPositive) : size.IsMeasured := by
  rcases positive with ⟨count, counted, _⟩
  cases size with
  | unusable given => cases counted
  | _ => trivial

end Size

namespace SizeTable

def IsMeasured (sizes : SizeTable) : Prop :=
  ∀ typeName size, sizes.get? typeName = some size → size.IsMeasured

def IsPositive (sizes : SizeTable) : Prop :=
  ∀ typeName size, sizes.get? typeName = some size → size.IsPositive

theorem IsPositive.isMeasured {sizes : SizeTable} (positive : sizes.IsPositive) :
    sizes.IsMeasured :=
  fun typeName size found => (positive typeName size found).isMeasured

theorem IsPositive.put {sizes : SizeTable} (positive : sizes.IsPositive) (name : String)
    {size : Size} (fits : size.IsPositive) : IsPositive (Entries.put name size sizes) := by
  intro typeName other found
  by_cases same : typeName = name
  · rw [same, Entries.get?_put_self] at found
    cases found
    exact fits
  · rw [Entries.get?_put_of_ne same] at found
    exact positive typeName other found

theorem isPositive_overrideWith {overrides : List (String × Document)} {sizes result : SizeTable}
    (positive : sizes.IsPositive) (overridden : overrideWith overrides sizes = .ok result) :
    result.IsPositive := by
  fun_induction overrideWith overrides sizes with
  | case1 sizes =>
      cases overridden
      exact positive
  | case2 name count rest sizes large induction =>
      exact induction (positive.put name ⟨count, rfl, large⟩) overridden
  | case3 => cases overridden
  | case4 name rest sizes induction =>
      exact induction (positive.put name ⟨1, rfl, Int.one_pos⟩) overridden
  | case5 => cases overridden

theorem isPositive_bundled : IsPositive (Entries.ofPairs bundled) := by
  have positive : ∀ entry ∈ bundled, entry.2.IsPositive := by
    simp [bundled, Size.IsPositive, Size.count?]
  intro typeName size found
  rw [ofPairs_bundled] at found
  exact positive (typeName, size) (mem_of_lookup found)

/-- The sizes of a configuration are positive numbers of bytes. -/
theorem isPositive_configured {config : Document} {sizes : SizeTable}
    (configured : SizeTable.configured config = .ok sizes) : sizes.IsPositive := by
  unfold SizeTable.configured at configured
  split at configured
  · have ⟨types, _, configured⟩ := exists_of_bind_eq_ok configured
    have ⟨overrides, _, configured⟩ := exists_of_bind_eq_ok configured
    have ⟨pairs, _, overridden⟩ := exists_of_bind_eq_ok configured
    exact isPositive_overrideWith isPositive_bundled overridden
  · cases configured
    exact isPositive_bundled

end SizeTable

namespace TypeClassifier

/-- The classifier of a table and some classes has the sizes of the table. -/
theorem sizes_ofTables {sizes : SizeTable} {classes : List String} {classifier : TypeClassifier}
    (made : ofTables sizes classes = .ok classifier) : classifier.sizes = sizes := by
  unfold ofTables at made
  split at made
  · cases made
    rfl
  · cases made

end TypeClassifier

namespace Document

def IsText (document : Document) : Prop :=
  ∃ name, document = .text name

/-- What is the same as a text is this text. -/
theorem eq_of_same_text {document : Document} {name : String}
    (same : document.same (.text name) = true) : document = .text name := by
  cases document with
  | text other =>
      rw [same_text, beq_iff_eq] at same
      rw [same]
  | _ => simp [Document.same, sameNumber, number?] at same

theorem isText_of_below_text {name : String} {other : Document}
    (comparable : (below? (.text name) other).isSome = true) : other.IsText := by
  cases other with
  | text other => exact ⟨other, rfl⟩
  | _ => simp [below?, magnitude?, number?] at comparable

theorem isText_of_text_below {name : String} {other : Document}
    (comparable : (below? other (.text name)).isSome = true) : other.IsText := by
  cases other with
  | text other => exact ⟨other, rfl⟩
  | _ => simp [below?, magnitude?, number?] at comparable

/-- What can be sorted together with a text is a text. -/
theorem isText_of_sorted {documents ordered : List Document}
    (sorted : Document.sorted documents = .ok ordered) {name : String}
    (inside : .text name ∈ documents) : ∀ document ∈ documents, document.IsText := by
  unfold Document.sorted at sorted
  split at sorted
  · cases inside
  · rename_i only
    rw [List.mem_singleton] at inside
    intro document isOnly
    rw [List.mem_singleton] at isOnly
    exact ⟨name, isOnly.trans inside.symm⟩
  · rename_i first rest _
    split at sorted
    · rename_i comparable
      rw [List.all_eq_true] at comparable
      obtain ⟨firstName, isText⟩ : first.IsText := by
        rcases List.mem_cons.mp inside with isFirst | behind
        · exact ⟨name, isFirst.symm⟩
        · exact isText_of_text_below (comparable (.text name) behind)
      intro document member
      rcases List.mem_cons.mp member with isFirst | behind
      · exact ⟨firstName, isFirst.trans isText⟩
      · have against := comparable document behind
        rw [isText] at against
        exact isText_of_below_text against
    · cases sorted

end Document

namespace ClassSet

variable {classes extended : ClassSet}

/-- A name that is listed is a text if only texts are listed afterwards. -/
theorem isText_of_insert {name : Document} (inserted : classes.insert name = .ok extended)
    (texts : ∀ other ∈ extended, other.IsText) :
    name.IsText ∧ ∀ other ∈ classes, other.IsText := by
  unfold insert at inserted
  split at inserted
  · cases inserted
  split at inserted
  · rename_i known
    cases inserted
    have ⟨other, member, same⟩ := List.any_eq_true.mp known
    have ⟨text, isText⟩ := texts other member
    rw [isText] at same
    exact ⟨⟨text, Document.eq_of_same_text same⟩, texts⟩
  · cases inserted
    rw [List.forall_mem_append, List.forall_mem_singleton] at texts
    exact texts.symm

theorem isText_of_insertAll {names : List Document}
    (inserted : classes.insertAll names = .ok extended) (texts : ∀ other ∈ extended, other.IsText) :
    (∀ name ∈ names, name.IsText) ∧ ∀ other ∈ classes, other.IsText := by
  induction names generalizing classes with
  | nil =>
      cases inserted
      exact ⟨fun _ none => absurd none List.not_mem_nil, texts⟩
  | cons name rest induction =>
      rw [insertAll, List.foldlM_cons] at inserted
      have ⟨next, first, others⟩ := exists_of_bind_eq_ok inserted
      have ⟨restTexts, nextTexts⟩ := induction others
      have ⟨nameText, classTexts⟩ := isText_of_insert first nextTexts
      exact ⟨List.forall_mem_cons.mpr ⟨nameText, restTexts⟩, classTexts⟩

theorem mem_of_insert_text {name : String} (inserted : classes.insert (.text name) = .ok extended) :
    .text name ∈ extended := by
  unfold insert at inserted
  split at inserted
  · cases inserted
  split at inserted
  · rename_i known
    cases inserted
    have ⟨other, member, same⟩ := List.any_eq_true.mp known
    cases other with
    | text other =>
        rw [Document.same_text, beq_iff_eq] at same
        rw [same]
        exact member
    | _ => simp [Document.same] at same
  · cases inserted
    exact List.mem_append_right classes List.mem_cons_self

end ClassSet

/-- What a policy lists is read from a configuration before it is put together. -/
theorem BindingPolicy.wellTyped_of_ofConfig {config : Document} {classNames : List Document}
    {policy : BindingPolicy} (configured : ofConfig config classNames = .ok policy) :
    policy.WellTyped := by
  unfold ofConfig at configured
  simp only at configured
  split at configured
  all_goals
    iterate 6 obtain ⟨_, _, configured⟩ := exists_of_bind_eq_ok configured
    cases configured
    exact ⟨trivial, trivial⟩

namespace PlanCompiler

def IsMeasured (compiler : PlanCompiler) : Prop :=
  compiler.classifier.sizes.IsMeasured

/-- A configured compiler is measured, and all its classes are named by texts. -/
theorem isText_of_ofConfig {config : Document} {knownClasses : List Document}
    (made : ofConfig config knownClasses = .ok compiler) :
    compiler.IsMeasured ∧ ∀ name ∈ knownClasses, name.IsText := by
  unfold ofConfig at made
  have ⟨known, collected, made⟩ := exists_of_bind_eq_ok made
  have ⟨classes, extended, made⟩ := exists_of_bind_eq_ok made
  have ⟨sizes, configured, made⟩ := exists_of_bind_eq_ok made
  have ⟨classifier, classified, made⟩ := exists_of_bind_eq_ok made
  have ⟨ordered, sorted, made⟩ := exists_of_bind_eq_ok made
  have ⟨policy, _, made⟩ := exists_of_bind_eq_ok made
  cases made
  constructor
  · have ⟨names, _, tabled⟩ := exists_of_bind_eq_ok classified
    change classifier.sizes.IsMeasured
    rw [TypeClassifier.sizes_ofTables tabled]
    exact (SizeTable.isPositive_configured configured).isMeasured
  · have texts := Document.isText_of_sorted sorted (ClassSet.mem_of_insert_text extended)
    exact (ClassSet.isText_of_insertAll collected (ClassSet.isText_of_insert extended texts).2).1

/-- A configured compiler has a policy that lists method names. -/
theorem wellTyped_of_ofConfig {config : Document} {knownClasses : List Document}
    (made : ofConfig config knownClasses = .ok compiler) : compiler.policy.WellTyped := by
  unfold ofConfig at made
  iterate 5 obtain ⟨_, _, made⟩ := exists_of_bind_eq_ok made
  have ⟨policy, configured, made⟩ := exists_of_bind_eq_ok made
  cases made
  exact BindingPolicy.wellTyped_of_ofConfig configured

end PlanCompiler

end EngineBridge
