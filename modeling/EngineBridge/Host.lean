import EngineBridge.Files.Tree
import EngineBridge.Log.Layout
import EngineBridge.Log.Routing

/-!
What surrounds a run: files, streams, the clock, and the state of logging.

Everything that a run does to its surroundings is a change of the host, so that a run is a function
of the host that it starts with.
-/

namespace EngineBridge

structure Host where
  files : FileTree
  workingDirectory : Place
  homes : Path.Homes
  /-- The environment variable that names a settings file. -/
  settingsVariable : Option String
  /-- The default settings that come with the library, as text. -/
  defaultSettings : Option String
  /-- The settings of the checkout that the library runs from, as text. -/
  checkoutSettings : Option String
  output : String
  errorOutput : String
  outputIsTerminal : Bool
  errorOutputIsTerminal : Bool
  /-- How many characters of a laid out text there is memory for. -/
  memory : Nat
  /-- The moment in the names of log files. -/
  now : Log.Moment
  /-- The time that is put on records, in seconds since the first of January 1970. -/
  recordTime : Int
  logging : Log.Routing

/-- A run: it may fail, and what it did before stays done. -/
abbrev Run := ExceptT Failure (StateM Host)

namespace Host

def directoryPath (host : Host) : String :=
  host.workingDirectory.path

/-- Write a line to a sink. Files that cannot be written are passed over. -/
def writeLine (host : Host) (sink : Log.Sink) (line : String) : Host :=
  match sink with
  | .output => { host with output := host.output ++ line ++ "\n" }
  | .errorOutput => { host with errorOutput := host.errorOutput ++ line ++ "\n" }
  | .textFile path | .eventFile path =>
      match host.files.append host.workingDirectory path (line ++ "\n") with
      | .ok files => { host with files }
      | .error _ => host

def lineFor (handler : Log.Handler) (record : Log.Record) : String :=
  match handler.sink with
  | .eventFile _ => record.json
  | _ => record.text handler.isColored

def handle (host : Host) (record : Log.Record) (handler : Log.Handler) : Host :=
  if handler.accepts record.level then host.writeLine handler.sink (lineFor handler record)
  else host

/-- Put the time on a record and hand it to all handlers of its logger, if the logger records at
its level. -/
def deliver (host : Host) (record : Log.Record) : Host :=
  if host.logging.isEnabled record.logger record.level then
    (host.logging.handlersOf record.logger).foldl
      (fun host handler => host.handle { record with created := host.recordTime } handler) host
  else host

end Host

namespace Run

variable {α : Type}

/-- Hand over the records of a computation and go on with its outcome. -/
def logged (computation : Logged α) : Run α := do
  modify fun host => computation.records.foldl Host.deliver host
  match computation.outcome with
  | .ok value => return value
  | .error failure => throw failure

def log (record : Log.Record) : Run Unit :=
  modify fun host => host.deliver record

def print (text : String) : Run Unit :=
  modify fun host => { host with output := host.output ++ text }

/-- Change the files, if that is possible. -/
def changeFiles (change : Host → Except Failure FileTree) : Run Unit := do
  let files ← change (← get)
  modify fun host => { host with files }

end Run

end EngineBridge
