import EngineBridge.Proofs.Files.Unchanged
import EngineBridge.Proofs.Log.Failing

/-!
The log files, and what logging leaves as it is.

A log file is one that a handler writes to. Main statements: to hand over records and to set up
logging changes no other file, whatever comes of it, and nothing but log lines is printed.
-/

namespace EngineBridge

/-- The path of the log file that a sink writes to. -/
def Log.Sink.path? : Log.Sink → Option String
  | .output | .errorOutput => none
  | .textFile path | .eventFile path => some path

namespace Host

variable {host before after last : Host} {places more : Place → Prop}

/-- Whether a handler writes to the file at a place. -/
def IsLog (host : Host) (place : Place) : Prop :=
  ∃ handler ∈ host.logging.handlers, ∃ path, handler.sink.path? = some path ∧
    host.files.find host.workingDirectory path = .ok place

/-- Whether nothing changes between two hosts but log files and the files at some places, and nothing
is printed but log lines. -/
structure ChangesOnly (places : Place → Prop) (before after : Host) : Prop where
  directory : after.workingDirectory = before.workingDirectory
  handlers : ∀ handler ∈ before.logging.handlers, handler ∈ after.logging.handlers
  files : FileTree.ChangesOnly (fun place => places place ∨ after.IsLog place) before.files
    after.files
  printed : before.Prints after

namespace ChangesOnly

theorem isLog (changes : before.ChangesOnly places after) {place : Place}
    (log : before.IsLog place) : after.IsLog place := by
  have ⟨handler, inside, path, writes, found⟩ := log
  refine ⟨handler, changes.handlers handler inside, path, writes, ?_⟩
  rw [changes.directory]
  exact changes.files.finds _ _ _ found

theorem shows (changes : before.ChangesOnly places after) {line : String}
    (shown : before.logging.Shows line) : after.logging.Shows line := by
  have ⟨handler, inside, record, passed⟩ := shown
  exact ⟨handler, changes.handlers handler inside, record, passed⟩

theorem refl (places : Place → Prop) (host : Host) : host.ChangesOnly places host where
  directory := rfl
  handlers _ inside := inside
  files := .refl _ _
  printed := prints_of_output_eq rfl

theorem trans (first : before.ChangesOnly places after)
    (second : after.ChangesOnly places last) : before.ChangesOnly places last where
  directory := second.directory.trans first.directory
  handlers handler inside := second.handlers handler (first.handlers handler inside)
  files := (first.files.mono fun _ changed => changed.imp_right second.isLog).trans second.files
  printed := by
    have ⟨lines, printed, shown⟩ := first.printed
    have ⟨others, printedToo, shownToo⟩ := second.printed
    refine ⟨lines ++ others, ?_, ?_⟩
    · rw [printedToo, printed, String.join_append, String.append_assoc]
    · intro line inside
      rcases List.mem_append.mp inside with early | late
      · exact second.shows (shown line early)
      · exact shownToo line late

theorem mono (changes : before.ChangesOnly places after)
    (within : ∀ place, places place → more place) : before.ChangesOnly more after where
  directory := changes.directory
  handlers := changes.handlers
  files := changes.files.mono fun place changed => changed.imp_left (within place)
  printed := changes.printed

/-- A file outside the places that is no log file is what it was. -/
theorem file?_eq (changes : before.ChangesOnly places after) {place : Place}
    (outside : ¬places place) (noLog : ¬after.IsLog place) :
    after.files.file? place = before.files.file? place :=
  changes.files.files place fun changed => changed.elim outside noLog

end ChangesOnly

instance (places : Place → Prop) : IsPreorder Host (ChangesOnly places) where
  refl := ChangesOnly.refl places
  trans _ _ _ first second := first.trans second

/-- Other handlers besides those that are there change no file. -/
theorem changesOnly_routing {routing : Log.Routing}
    (more : ∀ handler ∈ host.logging.handlers, handler ∈ routing.handlers) :
    host.ChangesOnly places { host with logging := routing } where
  directory := rfl
  handlers := more
  files := .refl _ _
  printed := prints_of_output_eq rfl

theorem changesOnly_files {files : FileTree}
    (changed : FileTree.ChangesOnly (fun place => places place ∨
      { host with files }.IsLog place) host.files files) :
    host.ChangesOnly places { host with files } where
  directory := rfl
  handlers _ inside := inside
  files := changed
  printed := prints_of_output_eq rfl

/-- What is added to a log file changes no other file. -/
theorem changesOnly_append {handler : Log.Handler} (inside : handler ∈ host.logging.handlers)
    {path text : String} (writes : handler.sink.path? = some path) {files : FileTree}
    (added : host.files.append host.workingDirectory path text = .ok files) :
    host.ChangesOnly places { host with files } := by
  have ⟨place, found, changes, _⟩ := FileTree.changesOnly_update added
  apply changesOnly_files
  apply changes.mono
  rintro _ rfl
  exact .inr ⟨handler, inside, path, writes, changes.finds _ _ _ found⟩

theorem changesOnly_handle (host : Host) (handler : Log.Handler)
    (inside : handler ∈ host.logging.handlers) (record : Log.Record) :
    host.ChangesOnly places (host.handle record handler) where
  directory := by
    unfold handle
    split
    · exact workingDirectory_writeLine host handler.sink _
    · rfl
  handlers := by
    rw [logging_handle]
    exact fun _ member => member
  files := by
    unfold handle writeLine
    split
    · split
      · exact .refl _ _
      · exact .refl _ _
      · next path isFile =>
          split
          · next added =>
              exact (changesOnly_append inside (by rw [isFile]; rfl) added).files
          · exact .refl _ _
      · next path isFile =>
          split
          · next added =>
              exact (changesOnly_append inside (by rw [isFile]; rfl) added).files
          · exact .refl _ _
    · exact .refl _ _
  printed := (logs_handle inside record).printed

theorem changesOnly_deliver (host : Host) (record : Log.Record) :
    host.ChangesOnly places (host.deliver record) :=
  relates_deliver changesOnly_handle host record

theorem Delivers.changesOnly (delivers : before.Delivers after) :
    before.ChangesOnly places after :=
  delivers.relates changesOnly_handle

end Host

namespace Run

variable {places : Place → Prop} {α : Type}

theorem changesOnly_of_delivers {operation : Run α} (delivers : Advances Host.Delivers operation) :
    Advances (Host.ChangesOnly places) operation :=
  fun host => (delivers host).changesOnly

theorem changeFiles_changesOnly {change : Host → Except Failure FileTree}
    (changed : ∀ host files, change host = .ok files →
      FileTree.ChangesOnly places host.files files) :
    Advances (Host.ChangesOnly places) (changeFiles change) := by
  intro host
  rw [runFrom_changeFiles]
  split
  · next files made =>
      exact Host.changesOnly_files ((changed host files made).mono fun _ inside => .inl inside)
  · exact .refl places host

theorem makeDirectories_changesOnly (path : String) :
    Advances (Host.ChangesOnly places)
      (changeFiles fun host => host.files.makeDirectories host.workingDirectory path) :=
  changeFiles_changesOnly fun _ _ made =>
    (FileTree.changesOnly_makeDirectories made).mono fun _ none => none.elim

end Run

namespace Log

variable {places : Place → Prop}

/-- A log file that is made belongs to the handler that is put in place for it. -/
theorem installFile_changesOnly {sink : String → Sink} (isFile : ∀ path, (sink path).path? = some path)
    (path : String) (threshold : Threshold) :
    Advances (Host.ChangesOnly places) (installFile path sink threshold) := by
  intro host
  unfold installFile
  rw [runFrom_bind_of_ok (runFrom_get host), runFrom_bind, Run.runFrom_changeFiles]
  cases added : host.files.append host.workingDirectory (host.logFile path) "" with
  | error failure =>
      rw [Host.logFile] at added
      simp only [added]
      exact .refl places host
  | ok files =>
      let handler : Handler := ⟨sink (host.logFile path), threshold, false⟩
      let routing : Routing :=
        { host.logging with handlers := host.logging.handlers ++ [handler] }
      have handled : host.ChangesOnly places { host with logging := routing } :=
        Host.changesOnly_routing fun _ inside => List.mem_append_left _ inside
      have written : ({ host with logging := routing } : Host).ChangesOnly places
          { host with logging := routing, files } :=
        Host.changesOnly_append (List.mem_append_right _ List.mem_cons_self) (isFile _) added
      rw [Host.logFile] at added
      simp only [added]
      exact handled.trans written

theorem installFiles_changesOnly (reading : Reading) :
    Advances (Host.ChangesOnly places) (installFiles reading) := by
  unfold installFiles
  split
  · exact .pure _
  · refine .bind (Run.makeDirectories_changesOnly _) fun _ => ?_
    refine .bind .get fun host => .bind (.lift _) fun name => ?_
    refine .bind (installFile_changesOnly (fun _ => rfl) _ _) fun _ => ?_
    split
    · exact .bind (installFile_changesOnly (fun _ => rfl) _ _) fun _ => .pure _
    · exact .pure _

/-- Setting up logging changes no file but the log files, however far it comes. -/
theorem configure_changesOnly {overrides : Overrides} (keeps : overrides.reconfigure = false)
    (config : Document) : Advances (Host.ChangesOnly places) (configure config overrides) := by
  intro host
  by_cases isConfigured : host.logging.isConfigured = true
  · rw [runFrom_configure_of_isConfigured keeps isConfigured]
    exact .refl places host
  · have none : host.logging.handlers = [] := by
      simpa [Routing.isConfigured] using isConfigured
    unfold configure
    rw [runFrom_bind_of_ok (runFrom_get host), if_neg (by simp [isConfigured])]
    rw [runFrom_bind, runFrom_lift]
    cases readConfiguration host.directoryPath config overrides with
    | error failure => exact .refl places host
    | ok reading =>
        have streaming : host.ChangesOnly places (reading.streaming host) :=
          Host.changesOnly_routing (by simp [none])
        dsimp only
        rw [runFrom_bind_of_ok (runFrom_installStreams reading host)]
        refine streaming.trans (Advances.bind (installFiles_changesOnly reading) ?_ _)
        intro paths
        refine .bind (.modify fun host => Host.changesOnly_routing ?_) fun _ =>
          .bind (.modify fun host => Host.changesOnly_routing fun _ inside => inside) fun _ =>
            .pure _
        split
        · exact fun _ inside => inside
        · exact fun _ inside => inside

end Log

end EngineBridge
