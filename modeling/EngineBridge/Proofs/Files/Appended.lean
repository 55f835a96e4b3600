import EngineBridge.Proofs.Files.Written

/-!
Files that text is added to.

A path is open if it leads to a file. Main statements: text can be added at the end of what an open
path leads to, and whatever is added to whatever file, an open path stays open.
-/

namespace EngineBridge.FileTree

variable {tree after : FileTree} {directory other : Place} {path text : String}

/-- Whether a path leads to a file. -/
def IsOpen (tree : FileTree) (directory : Place) (path : String) : Prop :=
  ∃ place content, tree.find directory path = .ok place ∧
    tree.entry? place = some (.file content)

theorem isOpen_append (added : tree.append directory path text = .ok after) :
    after.IsOpen directory path := by
  have ⟨place, found, noDirectory, put⟩ := of_update added
  rw [put]
  exact ⟨place, _, find_put noDirectory _ found,
    entry?_put_self (ne_nil_of_noDirectory noDirectory) _ _⟩

/-- What is added elsewhere, or here, does not close a path. -/
theorem IsOpen.append {elsewhere : String} (isOpen : tree.IsOpen directory path)
    (added : tree.append other elsewhere text = .ok after) : after.IsOpen directory path := by
  have ⟨place, content, found, isFile⟩ := isOpen
  have ⟨target, _, noDirectory, put⟩ := of_update added
  rw [put]
  refine ⟨place, ?_⟩
  by_cases same : place = target
  · subst same
    exact ⟨_, find_put noDirectory _ found,
      entry?_put_self (ne_nil_of_noDirectory noDirectory) _ _⟩
  · exact ⟨content, find_put noDirectory _ found, (entry?_put_of_ne same _ _).trans isFile⟩

/-- Text that is added to an open path stands behind what was there. -/
theorem IsOpen.exists_append (isOpen : tree.IsOpen directory path) (text : String) :
    ∃ content after, tree.read directory path = .ok content ∧
      tree.append directory path text = .ok after ∧
      after.read directory path = .ok (content ++ text) := by
  obtain ⟨place, content, found, isFile⟩ := isOpen
  have noDirectory : tree.entry? place ≠ some .directory := by
    simp [isFile]
  refine ⟨content, tree.put place (.file (content ++ text)), read_of_find found isFile, ?_, ?_⟩
  · simp only [FileTree.append, update, found, bind, Except.bind, isFile]
    rfl
  · exact read_of_find (find_put noDirectory _ found)
      (entry?_put_self (ne_nil_of_noDirectory noDirectory) _ _)

end EngineBridge.FileTree
