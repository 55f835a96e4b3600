import EngineBridge.Files.Resource
import EngineBridge.Proofs.Running

/-!
Files that are written and read back.

Main statement: after a document has been written to a path, the file that the path leads to holds
it.
-/

namespace EngineBridge

namespace FileTree

variable {tree written : FileTree} {directory place target : Place}

theorem entry?_put_self (nonempty : place ≠ []) (tree : FileTree) (entry : FileEntry) :
    entry? (tree.put place entry) place = some entry := by
  simp [put, entry?, nonempty]

theorem entry?_put_of_ne (different : place ≠ target) (tree : FileTree) (entry : FileEntry) :
    entry? (tree.put target entry) place = tree.entry? place := by
  have kept : (tree.filter fun member => member.1 != target).lookup place = tree.lookup place := by
    induction tree with
    | nil => rfl
    | cons member rest induction =>
        obtain ⟨here, present⟩ := member
        by_cases same : here = target
        · simp [same, List.lookup_cons, induction, beq_eq_false_iff_ne.mpr different]
        · simp [same, List.lookup_cons, induction]
  simp [put, entry?, List.lookup_cons, kept, beq_eq_false_iff_ne.mpr different]

/-- A step that can be made can still be made after something was put where no directory was. -/
theorem step_put {next : Place} {part : List Char}
    (noDirectory : tree.entry? target ≠ some .directory) (entry : FileEntry)
    (stepped : tree.step place part = .ok next) :
    (tree.put target entry).step place part = .ok next := by
  have isDirectory : tree.entry? place = some .directory := by
    unfold step at stepped
    split at stepped
    · cases stepped
    · cases stepped
    · assumption
  have different : place ≠ target := by
    intro same
    rw [same] at isDirectory
    exact noDirectory isDirectory
  unfold step at stepped ⊢
  rw [entry?_put_of_ne different]
  exact stepped

theorem steps_put {parts : List (List Char)} {last : Place}
    (noDirectory : tree.entry? target ≠ some .directory) (entry : FileEntry)
    (stepped : parts.foldlM tree.step place = .ok last) :
    parts.foldlM (tree.put target entry).step place = .ok last := by
  induction parts generalizing place with
  | nil => exact stepped
  | cons part rest induction =>
      rw [List.foldlM_cons] at stepped ⊢
      have ⟨next, first, stepped⟩ := exists_of_bind_eq_ok stepped
      rw [step_put noDirectory entry first]
      exact induction stepped

/-- A path leads to the same place after something was put where no directory was. -/
theorem find_put {path : String} (noDirectory : tree.entry? target ≠ some .directory)
    (entry : FileEntry) (found : tree.find directory path = .ok place) :
    (tree.put target entry).find directory path = .ok place := by
  unfold find at found ⊢
  have ⟨start, split, stepped⟩ := exists_of_bind_eq_ok found
  rw [split]
  exact steps_put noDirectory entry stepped

theorem read_of_find {path content : String} (found : tree.find directory path = .ok place)
    (isFile : tree.entry? place = some (.file content)) :
    tree.read directory path = .ok content := by
  simp only [read, found, bind, Except.bind, isFile]
  rfl

/-- A file is put in the place that a path leads to, and never where a directory is. -/
theorem of_update {path : String} {content : String → String}
    (updated : tree.update directory path content = .ok written) :
    ∃ place, tree.find directory path = .ok place ∧ tree.entry? place ≠ some .directory ∧
      written = tree.put place (.file (content (match tree.entry? place with
        | some (.file present) => present
        | _ => ""))) := by
  unfold update at updated
  have ⟨place, found, updated⟩ := exists_of_bind_eq_ok updated
  refine ⟨place, found, ?_⟩
  split at updated
  · cases updated
  · rename_i isFile
    cases updated
    simp [isFile]
  · rename_i isNothing
    cases updated
    simp [isNothing]

/-- The root is a directory. -/
theorem ne_nil_of_noDirectory (noDirectory : tree.entry? place ≠ some .directory) : place ≠ [] := by
  intro root
  apply noDirectory
  simp [root, entry?]

theorem read_write {path content : String}
    (wrote : tree.write directory path content = .ok written) :
    written.read directory path = .ok content := by
  have ⟨place, found, noDirectory, put⟩ := of_update wrote
  rw [put]
  exact read_of_find (find_put noDirectory _ found)
    (entry?_put_self (ne_nil_of_noDirectory noDirectory) _ _)

end FileTree

namespace Run

variable {host after : Host}

theorem runFrom_changeFiles (change : Host → Except Failure FileTree) (host : Host) :
    runFrom (changeFiles change) host =
      match change host with
      | .ok files => (.ok (), { host with files })
      | .error failure => (.error failure, host) := by
  unfold changeFiles
  rw [runFrom_bind_of_ok (runFrom_get host)]
  cases changed : change host with
  | ok files => rfl
  | error failure => rfl

theorem of_runFrom_changeFiles {change : Host → Except Failure FileTree}
    (ran : runFrom (changeFiles change) host = (.ok (), after)) :
    ∃ files, change host = .ok files ∧ after = { host with files } := by
  rw [runFrom_changeFiles] at ran
  split at ran
  · rename_i files changed
    cases ran
    exact ⟨files, changed, rfl⟩
  · cases ran

theorem of_runFrom_requireWritable {document : Document}
    (ran : runFrom (requireWritable document) host = (.ok (), after)) :
    Document.Json.isWritable document = true ∧ after = host := by
  unfold requireWritable at ran
  split at ran
  · cases ran
    exact ⟨‹_›, rfl⟩
  · cases ran

/-- Once a document is written, its text is in the file. -/
theorem read_of_writeDocument {path : String} {document : Document}
    (ran : runFrom (writeDocument path document) host = (.ok (), after)) :
    after.files.read after.workingDirectory path = .ok (Document.Json.writeFile document) := by
  have written {ready : Host}
      (ran : runFrom (do
        changeFiles fun host =>
          host.files.write host.workingDirectory path (Document.Json.writeFile document)
        requireWritable document) ready = (.ok (), after)) :
      after.files.read after.workingDirectory path = .ok (Document.Json.writeFile document) := by
    have ⟨_, middle, changed, ran⟩ := exists_of_runFrom_bind ran
    have ⟨files, wrote, same⟩ := of_runFrom_changeFiles changed
    have ⟨_, last⟩ := of_runFrom_requireWritable ran
    rw [last, same]
    exact FileTree.read_write wrote
  unfold writeDocument at ran
  simp only at ran
  split at ran
  · have ⟨_, ready, _, ran⟩ := exists_of_runFrom_bind ran
    exact written ran
  · exact written ran

end Run

end EngineBridge
