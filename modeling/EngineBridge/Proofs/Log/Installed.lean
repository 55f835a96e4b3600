import EngineBridge.Log.Configuration
import EngineBridge.Proofs.Files.Appended

/-!
What setting up logging leaves behind.

The steps of setting up change the files and the state of logging, and nothing else of a host. Main
statements: a call that is not to change anything changes nothing; a configuration that cannot be
read changes nothing; and of one that can be read the handlers of the streams are there afterwards,
those of the files as far as the steps came, and the settings if all steps succeeded.
-/

namespace EngineBridge

/-- A host with other files, and with handlers of log files besides those that it has. -/
def Host.filing (host : Host) (threshold : Log.Threshold) (files : FileTree)
    (sinks : List Log.Sink) : Host :=
  { host with
    files
    logging := { host.logging with
      handlers := host.logging.handlers ++ sinks.map fun sink => ⟨sink, threshold, false⟩ } }

theorem Host.filing_nil (host : Host) (threshold : Log.Threshold) (files : FileTree) :
    host.filing threshold files [] = { host with files } := by
  simp [filing]

theorem Host.filing_filing (host : Host) (threshold : Log.Threshold) (files more : FileTree)
    (sinks others : List Log.Sink) :
    (host.filing threshold files sinks).filing threshold more others =
      host.filing threshold more (sinks ++ others) := by
  simp [filing]

/-- Where the log file of a path is, as it is seen from the working directory. -/
def Host.logFile (host : Host) (path : String) : String :=
  Path.absolute host.directoryPath path

namespace Log

variable {reading : Reading} {config : Document} {overrides : Overrides} {host after : Host}

namespace Reading

/-- The handlers of the streams. -/
def streams (reading : Reading) (host : Host) : List Handler :=
  [⟨.output, reading.consoleLevel, reading.useColor && host.outputIsTerminal⟩,
    ⟨.errorOutput, reading.consoleLevel.higher (.number Level.error),
      reading.useColor && host.errorOutputIsTerminal⟩]

/-- A host in which the handlers of the streams are in place of all others. -/
def streaming (reading : Reading) (host : Host) : Host :=
  { host with logging := { host.logging with
      handlers := reading.streams host
      libraryLevel := reading.consoleLevel.lower reading.fileLevel
      propagates := false } }

/-- The settings that come of a configuration, with the paths of the log files. -/
def settings (reading : Reading) (textPath eventPath : Option String) : Settings where
  directory := reading.directory
  textPath
  eventPath
  consoleLevel := reading.consoleLevel
  fileLevel := reading.fileLevel
  writesEvents := reading.writesEvents
  tracesPlans := reading.tracesPlans

end Reading

namespace Settings

/-- The level of the logger of decisions. -/
def planLevel (settings : Settings) : Int :=
  if settings.tracesPlans.isTruthy then Level.trace else Level.notSet

/-- The level of the library's logger, from the one that it has before single decisions are
recorded. -/
def libraryLevel (settings : Settings) (level : Threshold) : Threshold :=
  if settings.tracesPlans.isTruthy then Threshold.lower (.number Level.trace) level else level

/-- A host in which settings come into force. -/
def inForce (settings : Settings) (host : Host) : Host :=
  { host with logging := { host.logging with
      planLevel := settings.planLevel
      libraryLevel := settings.libraryLevel host.logging.libraryLevel
      settings := some settings
      revision := host.logging.revision + 1 } }

end Settings

theorem runFrom_installStreams (reading : Reading) (host : Host) :
    runFrom (installStreams reading) host = (.ok (), reading.streaming host) := rfl

theorem runFrom_installTrace (reading : Reading) (textPath eventPath : Option String)
    (host : Host) :
    runFrom (installTrace reading) host = (.ok (), { host with logging := { host.logging with
      planLevel := (reading.settings textPath eventPath).planLevel
      libraryLevel :=
        (reading.settings textPath eventPath).libraryLevel host.logging.libraryLevel } }) := by
  have same : (reading.settings textPath eventPath).tracesPlans = reading.tracesPlans := rfl
  unfold installTrace Settings.planLevel Settings.libraryLevel
  rw [same]
  split
  · rfl
  · rfl

/-- A file that cannot be made gets no handler. One that can be is open, and closes no other. -/
theorem installFile_cases (path : String) (sink : String → Sink) (threshold : Threshold)
    (host : Host) :
    (∃ failure, runFrom (installFile path sink threshold) host = (.error failure, host)) ∨
      ∃ files : FileTree, files.IsOpen host.workingDirectory (host.logFile path) ∧
        (∀ other, host.files.IsOpen host.workingDirectory other →
          files.IsOpen host.workingDirectory other) ∧
        runFrom (installFile path sink threshold) host =
          (.ok (), host.filing threshold files [sink (host.logFile path)]) := by
  have changed := Run.runFrom_changeFiles (fun current =>
    current.files.append current.workingDirectory (host.logFile path) "") host
  have ran : runFrom (installFile path sink threshold) host =
      runFrom (Run.changeFiles (fun current =>
          current.files.append current.workingDirectory (host.logFile path) "") >>= fun _ =>
        addHandler ⟨sink (host.logFile path), threshold, false⟩) host :=
    runFrom_bind_of_ok (runFrom_get host) _
  rw [ran]
  cases added : host.files.append host.workingDirectory (host.logFile path) "" with
  | error failure =>
      simp only [added] at changed
      exact .inl ⟨failure, runFrom_bind_of_error changed _⟩
  | ok files =>
      simp only [added] at changed
      exact .inr ⟨files, FileTree.isOpen_append added, fun other isOpen => isOpen.append added,
        runFrom_bind_of_ok changed _⟩

/-- What putting the handlers of the log files in place comes to. -/
inductive Files (reading : Reading) (host : Host) :
    Except Failure (Option String × Option String) × Host → Prop
  | unasked (unnamed : reading.directory = none) : Files reading host (.ok (none, none), host)
  /-- The directory cannot be made, the name cannot be built or the text log cannot be made. -/
  | unmade (named : reading.directory.isSome) (failure : Failure) (files : FileTree) :
      Files reading host (.error failure, host.filing reading.fileLevel files [])
  | text (named : reading.directory.isSome) (silent : reading.writesEvents.isTruthy = false)
      (path : String) (files : FileTree)
      (isOpen : files.IsOpen host.workingDirectory (host.logFile path)) :
      Files reading host (.ok (some path, none),
        host.filing reading.fileLevel files [.textFile (host.logFile path)])
  /-- The text log is in place when the log of JSON lines cannot be made. -/
  | textOnly (named : reading.directory.isSome) (failure : Failure) (path : String)
      (files : FileTree) :
      Files reading host (.error failure,
        host.filing reading.fileLevel files [.textFile (host.logFile path)])
  | both (named : reading.directory.isSome) (writes : reading.writesEvents.isTruthy = true)
      (path eventPath : String) (files : FileTree)
      (isOpen : files.IsOpen host.workingDirectory (host.logFile path))
      (isOpenToo : files.IsOpen host.workingDirectory (host.logFile eventPath)) :
      Files reading host (.ok (some path, some eventPath),
        host.filing reading.fileLevel files
          [.textFile (host.logFile path), .eventFile (host.logFile eventPath)])

/-- In any case there are handlers of files besides the others, at most. -/
theorem Files.exists_filing {outcome : Except Failure (Option String × Option String)}
    (files : Files reading host (outcome, after)) :
    ∃ tree sinks, after = host.filing reading.fileLevel tree sinks ∧
      ∀ sink ∈ sinks, ∃ path, sink = .textFile path ∨ sink = .eventFile path := by
  cases files with
  | unasked => exact ⟨host.files, [], (host.filing_nil _ _).symm, nofun⟩
  | unmade _ _ tree => exact ⟨tree, [], rfl, nofun⟩
  | text _ _ path tree => exact ⟨tree, _, rfl, by simp⟩
  | textOnly _ _ path tree => exact ⟨tree, _, rfl, by simp⟩
  | both _ _ path eventPath tree => exact ⟨tree, _, rfl, by simp⟩

/-- The log of JSON lines is put in place behind the text log. -/
theorem files_installEvents (named : reading.directory.isSome)
    (writes : reading.writesEvents.isTruthy = true) (path eventPath : String) {files : FileTree}
    (isOpen : files.IsOpen host.workingDirectory (host.logFile path)) :
    Files reading host (runFrom (do
      installFile eventPath .eventFile reading.fileLevel
      return (some path, some eventPath))
      (host.filing reading.fileLevel files [.textFile (host.logFile path)])) := by
  rcases installFile_cases eventPath .eventFile reading.fileLevel
    (host.filing reading.fileLevel files [.textFile (host.logFile path)])
    with ⟨failure, failed⟩ | ⟨more, isOpenToo, stays, added⟩
  · rw [runFrom_bind_of_error failed]
    exact .textOnly named failure path files
  · rw [runFrom_bind_of_ok added, Host.filing_filing]
    exact .both named writes path eventPath more (stays _ isOpen) isOpenToo

/-- One case for each step that may fail, and one for each choice of files. -/
theorem files_installFiles (reading : Reading) (host : Host) :
    Files reading host (runFrom (installFiles reading) host) := by
  unfold installFiles
  split
  · exact .unasked ‹_›
  rename_i directory isNamed
  have named : reading.directory.isSome := by
    simp [isNamed]
  have unmade (failure : Failure) (files : FileTree) :
      Files reading host (.error failure, { host with files }) := by
    rw [← host.filing_nil reading.fileLevel files]
    exact .unmade named failure files
  rw [runFrom_bind, Run.runFrom_changeFiles]
  cases host.files.makeDirectories host.workingDirectory directory with
  | error failure => exact unmade failure host.files
  | ok made =>
      dsimp only
      rw [runFrom_bind_of_ok (runFrom_get _), runFrom_bind, runFrom_lift]
      cases fileName reading { host with files := made } with
      | error failure => exact unmade failure made
      | ok name =>
          dsimp only
          rw [← host.filing_nil reading.fileLevel made]
          rcases installFile_cases (filePaths directory name).1 .textFile reading.fileLevel
            (host.filing reading.fileLevel made [])
            with ⟨failure, failed⟩ | ⟨files, isOpen, _, added⟩
          · rw [runFrom_bind_of_error failed]
            exact .unmade named failure made
          · rw [runFrom_bind_of_ok added, Host.filing_filing]
            split
            · exact files_installEvents named ‹_› _ _ isOpen
            · exact .text named (eq_false_of_ne_true ‹_›) _ files isOpen

/-- What setting up logging comes to. -/
inductive Configures (config : Document) (overrides : Overrides) (host : Host) :
    Except Failure (Option Settings) × Host → Prop
  /-- Without being asked to, a second configuration changes nothing. -/
  | kept (kept : (host.logging.isConfigured && !overrides.reconfigure) = true) :
      Configures config overrides host (.ok host.logging.settings, host)
  | unread (replaced : (host.logging.isConfigured && !overrides.reconfigure) = false)
      (failure : Failure)
      (unreadable : readConfiguration host.directoryPath config overrides = .error failure) :
      Configures config overrides host (.error failure, host)
  /-- The handlers of the streams are in place before the files are tried. -/
  | unfiled (replaced : (host.logging.isConfigured && !overrides.reconfigure) = false)
      (reading : Reading)
      (read : readConfiguration host.directoryPath config overrides = .ok reading)
      (failure : Failure) (after : Host)
      (filed : Files reading (reading.streaming host) (.error failure, after)) :
      Configures config overrides host (.error failure, after)
  | done (replaced : (host.logging.isConfigured && !overrides.reconfigure) = false)
      (reading : Reading)
      (read : readConfiguration host.directoryPath config overrides = .ok reading)
      (textPath eventPath : Option String) (after : Host)
      (filed : Files reading (reading.streaming host) (.ok (textPath, eventPath), after)) :
      Configures config overrides host (.ok (some (reading.settings textPath eventPath)),
        (reading.settings textPath eventPath).inForce after)

theorem configures_configure (config : Document) (overrides : Overrides) (host : Host) :
    Configures config overrides host (runFrom (configure config overrides) host) := by
  unfold configure
  rw [runFrom_bind_of_ok (runFrom_get host)]
  split
  · exact .kept ‹_›
  rename_i replaces
  have replaced := eq_false_of_ne_true replaces
  rw [runFrom_bind, runFrom_lift]
  cases read : readConfiguration host.directoryPath config overrides with
  | error failure => exact .unread replaced failure read
  | ok reading =>
      dsimp only
      have filed := files_installFiles reading (reading.streaming host)
      rw [runFrom_bind_of_ok (runFrom_installStreams reading host), runFrom_bind]
      rcases filing : runFrom (installFiles reading) (reading.streaming host) with ⟨outcome, after⟩
      rw [filing] at filed
      cases outcome with
      | error failure => exact .unfiled replaced reading read failure after filed
      | ok paths =>
          dsimp only
          rw [runFrom_bind_of_ok (runFrom_installTrace reading paths.1 paths.2 after)]
          exact .done replaced reading read paths.1 paths.2 after filed

end Log

end EngineBridge
