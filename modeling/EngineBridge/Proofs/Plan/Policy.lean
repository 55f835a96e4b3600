import EngineBridge.Plan.Configured
import EngineBridge.Proofs.Binding.Register

/-!
What a configured policy answers.

A configuration has two policy tables, each from the names of classes to lists of method names.
Main statement: if all their entries are lists of texts, the policy answers for every class what the
configuration lists for it, whatever further class names it is made for; and an entry that is no list
keeps the policy from being made, whoever asks for it.
-/

namespace EngineBridge

theorem Entries.get?_of_not_mem {α : Type} {entries : Entries α} {key : String}
    (absent : key ∉ entries.keys) : entries.get? key = none := by
  apply List.lookup_eq_none_iff.mpr
  intro entry inside
  rw [bne_iff_ne]
  rintro rfl
  exact absent (List.mem_map_of_mem inside)

theorem Entries.mem_keys_of_get? {α : Type} {entries : Entries α} {key : String} {value : α}
    (found : entries.get? key = some value) : key ∈ entries.keys := by
  by_contra absent
  rw [get?_of_not_mem absent] at found
  cases found

namespace Document

/-- The entries of the table at a key, none if the key is missing. Nothing else may stand there. -/
def tableAt? (document : Document) (key : String) : Option (Entries Document) :=
  match document with
  | .table entries => match Entries.get? entries key with
      | some (.table inner) => some inner
      | some _ => none
      | none => some []
  | _ => none

/-- The entries of the part of a configuration that is about policies. A configuration that holds
nothing has none. -/
def policyEntries? (config : Document) : Option (Entries Document) :=
  if config.isTruthy then config.tableAt? "policy" else some []

/-- The entries of a policy table of a configuration. -/
def policyTable? (config : Document) (tableName : String) : Option (Entries Document) := do
  (table (← config.policyEntries?)).tableAt? tableName

variable {config : Document} {policy entries : Entries Document} {key tableName : String}

theorem getD_of_tableAt? (found : (table policy).tableAt? key = some entries) :
    (Entries.get? policy key).getD (table []) = table entries := by
  unfold tableAt? at found
  cases present : Entries.get? policy key with
  | none =>
      simp only [present] at found
      cases found
      rfl
  | some value =>
      simp only [present] at found
      cases value <;> cases found
      rfl

theorem entry?_text (entries : Entries Document) (key : String) :
    Document.entry? (table entries) (.text key) = .ok (Entries.get? entries key) := rfl

theorem fieldOr_of_tableAt? {document : Document} (found : document.tableAt? key = some entries) :
    document.fieldOr key (table []) = .ok (table entries) := by
  cases document with
  | table policy => exact congrArg Except.ok (getD_of_tableAt? found)
  | _ => cases found

/-- The part of a configuration that is about policies, as it is looked up. -/
theorem policy_of_policyEntries? (found : config.policyEntries? = some policy) :
    (if config.isTruthy then config.fieldOr "policy" (table []) else pure (table [])) =
      .ok (table policy) := by
  unfold policyEntries? at found
  split at found
  · rw [if_pos ‹_›]
    exact fieldOr_of_tableAt? found
  · rw [if_neg ‹_›]
    cases found
    rfl

theorem exists_of_policyTable? (found : config.policyTable? tableName = some entries) :
    ∃ policy, config.policyEntries? = some policy ∧
      (table policy).tableAt? tableName = some entries :=
  Option.bind_eq_some_iff.mp found

end Document

namespace BindingPolicy

variable {config : Document} {policy entries : Entries Document} {tableName key : String}

/-- The documents that stand for listed names. -/
def namesTable (listed : Entries (List String)) : Entries Document :=
  listed.mapValues fun names => .array (names.map .text)

theorem distinct_texts (names : List String) :
    distinct (names.map .text) = .ok (names.eraseDups.map .text) := by
  induction names using List.reverseRecOn with
  | nil => rfl
  | append_singleton names name induction =>
      unfold distinct at induction ⊢
      rw [List.map_append, List.foldlM_append, induction, eraseDups_concat]
      change Except.ok (if ((names.eraseDups.map Document.text).any (Document.text name).same) = true
        then _ else _) = _
      rw [Document.any_same_text]
      by_cases known : name ∈ names
      · simp [known]
      · simp [known]

theorem tableKeys_eq (found : (Document.table policy).tableAt? tableName = some entries) :
    tableKeys (.table policy) tableName = .ok (entries.keys.eraseDups.map .text) := by
  unfold tableKeys
  rw [Document.fieldOr_of_tableAt? found]
  change distinct (entries.map fun entry => .text entry.1) = _
  rw [← distinct_texts, Entries.keys, List.map_map]
  rfl

/-- What is listed for a class follows from its entry. -/
theorem listedNames_eq (found : config.policyTable? tableName = some entries) (key : String) :
    listedNames config (.text tableName) (.text key) =
      match Entries.get? entries key with
      | Option.none => .ok []
      | some (.array names) => distinct names
      | some _ => .error (.badKind (.policyNames (.text tableName) (.text key))) := by
  have ⟨policy, policies, inside⟩ := Document.exists_of_policyTable? found
  have given := Document.policy_of_policyEntries? policies
  unfold listedNames
  dsimp only
  split at given
  · rw [if_pos ‹_›, given]
    dsimp only [bind, Except.bind, pure, Except.pure]
    rw [Document.entry?_text]
    dsimp only
    rw [Document.getD_of_tableAt? inside]
    rfl
  · rw [if_neg ‹_›]
    cases given
    cases inside
    rfl

/-! ## Tables of listed names -/

theorem get?_namesTable (listed : Entries (List String)) (key : String) :
    Entries.get? (namesTable listed) key =
      (Entries.get? listed key).map fun names => .array (names.map .text) := by
  induction listed with
  | nil => rfl
  | cons entry rest induction =>
      obtain ⟨other, names⟩ := entry
      rw [namesTable, Entries.mapValues] at induction ⊢
      rw [List.map_cons, Entries.get?_cons, Entries.get?_cons, induction]
      split
      · rfl
      · rfl

/-- The names that are listed for a class, or for the functions that belong to no class. -/
def listedFor (listed : Entries (List String)) (className : Option String) : List String :=
  (Entries.get? listed (className.getD utilityKey)).getD []

theorem tableOf_eq {listed : Entries (List String)}
    (found : config.policyTable? tableName = some (namesTable listed)) (keys : List String) :
    tableOf config tableName (keys.map .text) = .ok (NameTable.ofTexts keys fun key =>
      ((Entries.get? listed key).getD []).eraseDups.map .text) := by
  unfold tableOf
  rw [List.mapM_map]
  apply mapM_eq_ok_of_forall
  intro key _
  have names : listedNames config (.text tableName) (.text key) =
      .ok (((Entries.get? listed key).getD []).eraseDups.map .text) := by
    rw [listedNames_eq found, get?_namesTable]
    cases Entries.get? listed key with
    | none => rfl
    | some names => exact distinct_texts names
  dsimp only [Function.comp]
  rw [names]
  rfl

/-- A table that is made for all classes with an entry answers for every class. -/
theorem lists_ofTexts {listed : Entries (List String)} {keys : List String}
    (made : ∀ key ∈ Entries.keys listed, key ∈ keys) (className : Option String)
    (methodName : String) :
    (PolicyTable.listed (NameTable.ofTexts keys fun key =>
        ((Entries.get? listed key).getD []).eraseDups.map .text)).lists (.ofText? className)
        (.text methodName) = .ok (decide (methodName ∈ listedFor listed className)) := by
  have classKey : PolicyTable.classKey (.ofText? className) =
      .text (className.getD utilityKey) := by
    cases className with
    | none => rfl
    | some name => rfl
  rw [PolicyTable.lists, classKey]
  change Except.ok (List.any (Option.getD (NameTable.find? (.text _) _) []) _) = _
  rw [NameTable.find?_ofTexts, listedFor]
  split
  · rw [Option.getD_some, Document.any_same_text]
    simp only [List.mem_eraseDups]
  · next unmade =>
      -- a class without an entry has nothing listed
      have missing := Entries.get?_of_not_mem fun known => unmade (made _ known)
      simp [missing]

/-! ## Policies -/

/-- The names of the classes that a policy is made for. -/
def policyKeys (property discardable : Entries Document) (classNames : List String) : List String :=
  (property.keys.eraseDups ++ discardable.keys.eraseDups ++ classNames).eraseDups

/-- A policy is made of its two tables, each for the classes of both and for the further ones. -/
theorem ofConfig_eq {property discardable : Entries Document}
    (hasProperty : config.policyTable? "used_by_property" = some property)
    (hasDiscardable : config.policyTable? "discardable_result" = some discardable)
    (classNames : List String) :
    ofConfig config (classNames.map .text) = (do
      let keys := (policyKeys property discardable classNames).map .text
      return {
        usedByProperty := .listed (← tableOf config "used_by_property" keys)
        discardableResult := .listed (← tableOf config "discardable_result" keys)
        naming := Naming.escaped }) := by
  have ⟨policy, policies, insideProperty⟩ := Document.exists_of_policyTable? hasProperty
  have ⟨other, others, insideDiscardable⟩ := Document.exists_of_policyTable? hasDiscardable
  cases policies.symm.trans others
  have given := Document.policy_of_policyEntries? policies
  have keys : distinct (property.keys.eraseDups.map .text ++ discardable.keys.eraseDups.map .text ++
      classNames.map .text) = .ok ((policyKeys property discardable classNames).map .text) := by
    rw [← List.map_append, ← List.map_append, distinct_texts, policyKeys]
  unfold ofConfig
  dsimp only
  split at given
  · rw [if_pos ‹_›, given]
    dsimp only [bind, Except.bind]
    rw [tableKeys_eq insideProperty, tableKeys_eq insideDiscardable]
    dsimp only
    rw [keys]
  · rw [if_neg ‹_›]
    cases given
    dsimp only [bind, Except.bind, pure, Except.pure]
    rw [tableKeys_eq insideProperty, tableKeys_eq insideDiscardable]
    dsimp only
    rw [keys]

/-! ## Entries that are no lists -/

/-- Why nothing can be made of an entry of a policy table: it is no list, or it lists something that
has no key. Both times something of the wrong kind stands there. -/
inductive Faults (tableName : String) (entries : Entries Document) : Failure → Prop
  | noList (key : String) (value : Document) (found : Entries.get? entries key = some value)
      (noList : ∀ names, value ≠ .array names) :
      Faults tableName entries (.badKind (.policyNames (.text tableName) (.text key)))
  | keyless (key : String) (names : List Document) (name : Document)
      (found : Entries.get? entries key = some (.array names)) (inside : name ∈ names)
      (keyless : name.key? = Option.none) : Faults tableName entries .wrongShape

/-- Names can be told apart from the ones that are kept so far, unless one of them has no key. -/
theorem keyless_of_foldlM {names kept : List Document} {failure : Failure}
    (failed : names.foldlM (fun kept name => do
      let _ ← name.keyOf
      return if kept.any name.same then kept else kept ++ [name]) kept = .error failure) :
    failure = .wrongShape ∧ ∃ name ∈ names, name.key? = Option.none := by
  induction names generalizing kept with
  | nil => cases failed
  | cons name rest induction =>
      rw [List.foldlM_cons] at failed
      cases keyed : name.key? with
      | none =>
          have noKey : name.keyOf = .error .wrongShape := by rw [Document.keyOf, keyed]
          rw [noKey] at failed
          cases failed
          exact ⟨rfl, name, List.mem_cons_self, keyed⟩
      | some key =>
          have hasKey : name.keyOf = .ok key := by rw [Document.keyOf, keyed]
          rw [hasKey] at failed
          have ⟨same, other, inside, keyless⟩ := induction failed
          exact ⟨same, other, List.mem_cons_of_mem name inside, keyless⟩

theorem keyless_of_distinct {names : List Document} {failure : Failure}
    (failed : distinct names = .error failure) :
    failure = .wrongShape ∧ ∃ name ∈ names, name.key? = Option.none :=
  keyless_of_foldlM failed

theorem faults_of_listedNames {failure : Failure}
    (found : config.policyTable? tableName = some entries)
    (failed : listedNames config (.text tableName) (.text key) = .error failure) :
    Faults tableName entries failure := by
  rw [listedNames_eq found] at failed
  split at failed
  · cases failed
  · rename_i names present
    have ⟨same, name, inside, keyless⟩ := keyless_of_distinct failed
    rw [same]
    exact .keyless key names name present inside keyless
  · rename_i value noList present
    cases failed
    exact .noList key value present fun names same => noList names same

theorem faults_of_tableOf {keys : List String} {failure : Failure}
    (found : config.policyTable? tableName = some entries)
    (failed : tableOf config tableName (keys.map .text) = .error failure) :
    Faults tableName entries failure := by
  have ⟨name, inside, fails⟩ := exists_of_mapM_eq_error failed
  have ⟨key, _, same⟩ := List.mem_map.mp inside
  cases same
  cases listed : listedNames config (.text tableName) (.text key) with
  | ok names =>
      rw [listed] at fails
      cases fails
  | error other =>
      rw [listed] at fails
      cases fails
      exact faults_of_listedNames found listed

/-- No table can be made for a class whose entry is no list. -/
theorem tableOf_refuses {keys : List String} {value : Document}
    (found : config.policyTable? tableName = some entries)
    (present : Entries.get? entries key = some value) (noList : ∀ names, value ≠ .array names)
    (asked : key ∈ keys) (table : NameTable (List Document)) :
    tableOf config tableName (keys.map .text) ≠ .ok table := by
  intro made
  have ⟨entry, _, listed⟩ :=
    exists_of_mem_of_mapM_eq_ok made (List.mem_map_of_mem (f := Document.text) asked)
  have ⟨names, here, _⟩ := exists_of_bind_eq_ok listed
  rw [listedNames_eq found, present] at here
  cases value with
  | array names => exact noList names rfl
  | _ => cases here

/-- A policy that is read from a configuration answers for each class, and for the functions that
belong to no class, what the two tables of the configuration list for it. The class names that it is
made for do not matter. An entry of either table that is no list keeps it from being made. -/
theorem ofConfig_answers {property discardable : Entries Document}
    (hasProperty : config.policyTable? "used_by_property" = some property)
    (hasDiscardable : config.policyTable? "discardable_result" = some discardable)
    (classNames : List String) :
    (∀ listed other : Entries (List String),
      property = namesTable listed → discardable = namesTable other →
      ∃ policy, ofConfig config (classNames.map .text) = .ok policy ∧
        ∀ (className : Option String) (methodName : String),
          policy.isUsedByProperty (.ofText? className) (.text methodName) =
              .ok (decide (methodName ∈ listedFor listed className)) ∧
            policy.isDiscardable (.ofText? className) (.text methodName) =
              .ok (decide (methodName ∈ listedFor other className))) ∧
    ∀ key value, Entries.get? property key = some value ∨ Entries.get? discardable key = some value →
      (∀ names, value ≠ .array names) →
      ∃ failure, ofConfig config (classNames.map .text) = .error failure ∧
        (Faults "used_by_property" property failure ∨
          Faults "discardable_result" discardable failure) := by
  have made := ofConfig_eq hasProperty hasDiscardable classNames
  have known (key : String) (inside : key ∈ property.keys ∨ key ∈ discardable.keys) :
      key ∈ policyKeys property discardable classNames := by
    simp only [policyKeys, List.mem_eraseDups, List.mem_append]
    exact .inl inside
  dsimp only at made
  rw [made]
  constructor
  · rintro listed other rfl rfl
    rw [tableOf_eq hasProperty, tableOf_eq hasDiscardable]
    have keys (listed : Entries (List String)) : (namesTable listed).keys = listed.keys := by
      simp [namesTable, Entries.mapValues, Entries.keys]
    refine ⟨_, rfl, fun className methodName => ⟨?_, ?_⟩⟩
    · exact lists_ofTexts (fun key inside => known key (.inl ((keys listed).symm ▸ inside)))
        className methodName
    · exact lists_ofTexts (fun key inside => known key (.inr ((keys other).symm ▸ inside)))
        className methodName
  · intro key value present noList
    cases first : tableOf config "used_by_property"
        ((policyKeys property discardable classNames).map .text) with
    | error failure => exact ⟨failure, rfl, .inl (faults_of_tableOf hasProperty first)⟩
    | ok table =>
        cases second : tableOf config "discardable_result"
            ((policyKeys property discardable classNames).map .text) with
        | error failure => exact ⟨failure, rfl, .inr (faults_of_tableOf hasDiscardable second)⟩
        | ok last =>
            rcases present with here | there
            · exact absurd first (tableOf_refuses hasProperty here noList
                (known key (.inl (Entries.mem_keys_of_get? here))) table)
            · exact absurd second (tableOf_refuses hasDiscardable there noList
                (known key (.inr (Entries.mem_keys_of_get? there))) last)

/-- A configuration whose first table lists one method of a class. -/
def nodePolicyConfig (discardable : Entries Document) : Document :=
  .table [("policy", .table [
    ("used_by_property", .table (namesTable [("Node", ["get_name"])])),
    ("discardable_result", .table discardable)])]

/-- What is listed in one table is answered by that table alone, for a class that the policy is not
made for too. A text in the place of a list is refused. -/
theorem ofConfig_answers_of_nodePolicyConfig :
    (∃ policy,
      ofConfig (nodePolicyConfig (namesTable [("@utility", ["print"])])) [.text "Spot"] =
          .ok policy ∧
        policy.isUsedByProperty (.text "Node") (.text "get_name") = .ok true ∧
        policy.isDiscardable (.text "Node") (.text "get_name") = .ok false ∧
        policy.isUsedByProperty .null (.text "print") = .ok false ∧
        policy.isDiscardable .null (.text "print") = .ok true) ∧
    ∃ failure, ofConfig (nodePolicyConfig [("Spot", .text "print")]) [] = .error failure := by
  constructor
  · have ⟨policy, made, answers⟩ := (@ofConfig_answers
      (nodePolicyConfig (namesTable [("@utility", ["print"])])) _ _ rfl rfl ["Spot"]).1
      [("Node", ["get_name"])] [("@utility", ["print"])] rfl rfl
    refine ⟨policy, made, ?_, ?_, ?_, ?_⟩
    · exact (answers (some "Node") "get_name").1
    · exact (answers (some "Node") "get_name").2
    · exact (answers Option.none "print").1
    · exact (answers Option.none "print").2
  · have ⟨failure, failed, _⟩ := (@ofConfig_answers
      (nodePolicyConfig [("Spot", .text "print")]) _ _ rfl rfl []).2
      "Spot" (.text "print") (.inr rfl) fun names same => by cases same
    exact ⟨failure, failed⟩

end BindingPolicy

end EngineBridge
