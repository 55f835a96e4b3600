import EngineBridge.Proofs.Files.Written

/-!
Files that stay as they are.

Writing a file and making directories only add to what paths lead to. Main statements: a path leads
where it led, making directories changes no file, and writing a file changes none but the one that
its path leads to.
-/

namespace EngineBridge.FileTree

variable {tree after last : FileTree} {directory target : Place} {places more : Place → Prop}

/-- The text of the file at a place, if there is a file. -/
def file? (tree : FileTree) (place : Place) : Option String :=
  match tree.entry? place with
  | some (.file content) => some content
  | _ => none

/-- Whether paths lead where they led and all files outside some places are as they were. -/
structure ChangesOnly (places : Place → Prop) (tree after : FileTree) : Prop where
  finds : ∀ (directory : Place) (path : String) (place : Place),
    tree.find directory path = .ok place → after.find directory path = .ok place
  files : ∀ place, ¬places place → after.file? place = tree.file? place

namespace ChangesOnly

theorem refl (places : Place → Prop) (tree : FileTree) : ChangesOnly places tree tree where
  finds _ _ _ found := found
  files _ _ := rfl

theorem trans (first : ChangesOnly places tree after) (second : ChangesOnly places after last) :
    ChangesOnly places tree last where
  finds directory path place found :=
    second.finds directory path place (first.finds directory path place found)
  files place outside := (second.files place outside).trans (first.files place outside)

/-- What changes in fewer places changes in more of them. -/
theorem mono (changes : ChangesOnly places tree after) (within : ∀ place, places place → more place) :
    ChangesOnly more tree after where
  finds := changes.finds
  files place outside := changes.files place fun inside => outside (within place inside)

end ChangesOnly

theorem changesOnly_put (noDirectory : tree.entry? target ≠ some .directory) (entry : FileEntry) :
    ChangesOnly (· = target) tree (tree.put target entry) where
  finds _ _ _ found := find_put noDirectory entry found
  files place different := by rw [file?, file?, entry?_put_of_ne different]

/-- Where nothing was, a directory takes the place of no file. -/
theorem changesOnly_put_directory (missing : tree.entry? target = none) :
    ChangesOnly (fun _ => False) tree (tree.put target .directory) where
  finds _ _ _ found := find_put (by simp [missing]) _ found
  files place _ := by
    have noDirectory : tree.entry? target ≠ some .directory := by simp [missing]
    by_cases same : place = target
    · subst same
      rw [file?, file?, missing, entry?_put_self (ne_nil_of_noDirectory noDirectory)]
    · rw [file?, file?, entry?_put_of_ne same]

theorem changesOnly_stepMaking {place next : Place} {part : List Char} {isLast : Bool}
    (made : tree.stepMaking place part isLast = .ok (after, next)) :
    ChangesOnly (fun _ => False) tree after := by
  unfold stepMaking at made
  have ⟨reached, _, made⟩ := exists_of_bind_eq_ok made
  split at made
  · cases made
    exact .refl _ _
  · cases made
  · rename_i missing
    cases made
    exact changesOnly_put_directory missing

theorem changesOnly_makeAlong {place : Place} {parts : List (List Char)}
    (made : tree.makeAlong place parts = .ok after) : ChangesOnly (fun _ => False) tree after := by
  induction parts generalizing tree place with
  | nil =>
      cases made
      exact .refl _ _
  | cons part rest induction =>
      have ⟨⟨middle, next⟩, here, made⟩ := exists_of_bind_eq_ok made
      exact (changesOnly_stepMaking here).trans (induction made)

/-- Making directories changes no file. -/
theorem changesOnly_makeDirectories {path : String}
    (made : tree.makeDirectories directory path = .ok after) :
    ChangesOnly (fun _ => False) tree after := by
  have ⟨_, _, made⟩ := exists_of_bind_eq_ok made
  exact changesOnly_makeAlong made

/-- Writing a file changes the one that the path leads to, and it has a text afterwards. -/
theorem changesOnly_update {path : String} {content : String → String}
    (updated : tree.update directory path content = .ok after) :
    ∃ place, tree.find directory path = .ok place ∧ ChangesOnly (· = place) tree after ∧
      after.file? place = some (content ((tree.file? place).getD "")) := by
  have ⟨place, found, noDirectory, put⟩ := of_update updated
  refine ⟨place, found, ?_, ?_⟩
  · rw [put]
    exact changesOnly_put noDirectory _
  · rw [put, file?, entry?_put_self (ne_nil_of_noDirectory noDirectory), file?]
    cases tree.entry? place with
    | none => rfl
    | some entry => cases entry <;> rfl

end EngineBridge.FileTree
