import EngineBridge.Host
import EngineBridge.Log.Pattern

/-!
Setting up where records go.

A configuration is read in full before anything is changed. Then the handlers are put in place one
after the other; what is there when a later step fails stays there. A second configuration changes
nothing unless it is asked to.
-/

namespace EngineBridge.Log

/-- What a caller sets besides the configuration. Null stands for what is not set. -/
structure Overrides where
  outputDirectory : Document
  consoleLevel : Document
  fileLevel : Document
  logDirectory : Document
  disableColor : Bool
  writeEvents : Document
  reconfigure : Bool

namespace Overrides

def none : Overrides := ⟨.null, .null, .null, .null, false, .null, false⟩

end Overrides

/-- What is known before anything is changed. -/
structure Reading where
  section_ : Document
  consoleLevel : Threshold
  fileLevel : Threshold
  useColor : Bool
  writesEvents : Document
  tracesPlans : Document
  directory : Option String

/-- The directory of the log files: the one that the caller names, else, if the configuration asks
for files, the one that it names, else one inside the output directory. -/
def readDirectory (workingDirectory : String) (logSection : Document) (overrides : Overrides) :
    Except Failure (Option String) := do
  if overrides.logDirectory.isTruthy then
    return some (Path.absolute workingDirectory (← overrides.logDirectory.asText))
  if !(← logSection.fieldOr "to_file" (.bool false)).isTruthy then return none
  let named ← logSection.fieldOr "dir" .null
  if named.isTruthy then return some (Path.absolute workingDirectory (← named.asText))
  let base ← if overrides.outputDirectory.isTruthy then overrides.outputDirectory.asText
    else pure workingDirectory
  let inside ← (← logSection.fieldOr "subdir" (.text "logs")).asText
  return some (Path.join (Path.absolute workingDirectory base) inside)

/-- The part of a configuration that is about logging. -/
def loggingOf (config : Document) : Except Failure Document :=
  if config.isTruthy then config.fieldOr "logging" (.table []) else .ok (.table [])

/-- The level that a caller names, else the one that a configuration names, else a default. -/
def readLevel (default : Int) (configured named : Document) : Except Failure Threshold := do
  Threshold.read (← Threshold.read (.number default) configured) named

def readConfiguration (workingDirectory : String) (config : Document) (overrides : Overrides) :
    Except Failure Reading := do
  let logSection ← loggingOf config
  let consoleLevel ←
    readLevel Level.info (← logSection.fieldOr "console_level" .null) overrides.consoleLevel
  let fileLevel ←
    readLevel Level.debug (← logSection.fieldOr "file_level" .null) overrides.fileLevel
  let color ← logSection.fieldOr "color" (.bool true)
  let configuredEvents ← logSection.fieldOr "jsonl" (.bool false)
  return {
    section_ := logSection
    consoleLevel
    fileLevel
    useColor := color.isTruthy && !overrides.disableColor
    writesEvents := match overrides.writeEvents with
      | .null => configuredEvents
      | set => set
    tracesPlans := ← logSection.fieldOr "plan_trace" (.bool false)
    directory := ← readDirectory workingDirectory logSection overrides }

def changeRouting (change : Routing → Routing) : Run Unit :=
  modify fun host => { host with logging := change host.logging }

def addHandler (handler : Handler) : Run Unit :=
  changeRouting fun routing => { routing with handlers := routing.handlers ++ [handler] }

/-- Put the two handlers of the streams in place of all others. Errors go to the error output. -/
def installStreams (reading : Reading) : Run Unit := do
  let host ← get
  changeRouting fun routing => { routing with
    handlers := []
    libraryLevel := reading.consoleLevel.lower reading.fileLevel
    propagates := false }
  addHandler ⟨.output, reading.consoleLevel, reading.useColor && host.outputIsTerminal⟩
  addHandler ⟨.errorOutput, reading.consoleLevel.higher (.number Level.error),
    reading.useColor && host.errorOutputIsTerminal⟩

/-- Make a log file, if it is not there, and add its handler. -/
def installFile (path : String) (sink : String → Sink) (threshold : Threshold) : Run Unit := do
  let place := Path.absolute (← get).directoryPath path
  Run.changeFiles fun host => host.files.append host.workingDirectory place ""
  addHandler ⟨sink place, threshold, false⟩

/-- The name of the text log: the pattern of the configuration with the present time in it. -/
def fileName (reading : Reading) (host : Host) : Except Failure String := do
  let format ←
    (← reading.section_.fieldOr "timestamp_format" (.text "%Y%m%dT%H%M%S")).asText
  let stamp := String.ofList (host.now.writtenBy format.toList)
  match ← reading.section_.fieldOr "filename_pattern" (.text "gdmarshal-\x7btimestamp\x7d.log") with
  | .text pattern => Pattern.fill host.memory pattern stamp
  | _ => throw .noSuchField

/-- The paths of the text log and of the log of JSON lines in a directory. The names differ in
their endings only. -/
def filePaths (directory name : String) : String × String :=
  (Path.join directory name, Path.join directory (Path.withoutEnding name ++ ".jsonl"))

/-- Put the handlers of the log files in place, and give their paths. -/
def installFiles (reading : Reading) : Run (Option String × Option String) := do
  match reading.directory with
  | none => return (none, none)
  | some directory => do
      Run.changeFiles fun host => host.files.makeDirectories host.workingDirectory directory
      let (textPath, eventPath) := filePaths directory (← fileName reading (← get))
      installFile textPath .textFile reading.fileLevel
      if reading.writesEvents.isTruthy then
        installFile eventPath .eventFile reading.fileLevel
        return (some textPath, some eventPath)
      else return (some textPath, none)

/-- Give the logger of decisions its level. Recording decisions lowers the level of the library's
logger with it. -/
def installTrace (reading : Reading) : Run Unit :=
  changeRouting fun routing =>
    if reading.tracesPlans.isTruthy then
      { routing with
        planLevel := Level.trace
        libraryLevel := Threshold.lower (.number Level.trace) routing.libraryLevel }
    else { routing with planLevel := Level.notSet }

/-- Set up logging, and give the settings that are in force afterwards. -/
def configure (config : Document) (overrides : Overrides) : Run (Option Settings) := do
  let host ← get
  if host.logging.isConfigured && !overrides.reconfigure then return host.logging.settings
  let reading ← readConfiguration host.directoryPath config overrides
  installStreams reading
  let (textPath, eventPath) ← installFiles reading
  installTrace reading
  let settings : Settings := {
    directory := reading.directory
    textPath
    eventPath
    consoleLevel := reading.consoleLevel
    fileLevel := reading.fileLevel
    writesEvents := reading.writesEvents
    tracesPlans := reading.tracesPlans }
  changeRouting fun routing =>
    { routing with settings := some settings, revision := routing.revision + 1 }
  return some settings

end EngineBridge.Log
