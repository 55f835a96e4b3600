import EngineBridge.Log.Record
import EngineBridge.Log.Threshold
import EngineBridge.Text.Lead

/-!
The state of logging: where records go.

Loggers are named; all loggers of the library stand below one, and those of the plan compiler's
decisions below another. A logger without a level of its own takes that of the logger above it, and
at last that of the root.
-/

namespace EngineBridge.Log

/-- Where a handler writes. -/
inductive Sink where
  /-- The standard output, for everything less serious than an error. -/
  | output
  | errorOutput
  | textFile (path : String)
  | eventFile (path : String)
deriving DecidableEq, Repr

structure Handler where
  sink : Sink
  threshold : Threshold
  isColored : Bool
deriving DecidableEq, Repr

namespace Handler

def accepts (handler : Handler) (level : Int) : Bool :=
  handler.threshold.level ≤ level && (handler.sink != .output || level < Level.error)

def kindName (handler : Handler) : String :=
  match handler.sink with
  | .output | .errorOutput => "StreamHandler"
  | .textFile _ | .eventFile _ => "FileHandler"

end Handler

/-- What a configuration came to. -/
structure Settings where
  directory : Option String
  textPath : Option String
  eventPath : Option String
  consoleLevel : Threshold
  fileLevel : Threshold
  /-- Whether JSON lines are written, as it was set. -/
  writesEvents : Document
  /-- Whether the decisions of the plan compiler are recorded, as it was set. -/
  tracesPlans : Document

namespace Settings

def pathDocument (path : Option String) : Document :=
  (path.map Document.text).getD .null

def document (settings : Settings) : Document :=
  .table [
    ("log_dir", pathDocument settings.directory),
    ("text_log_path", pathDocument settings.textPath),
    ("jsonl_log_path", pathDocument settings.eventPath),
    ("console_level", settings.consoleLevel.document),
    ("file_level", settings.fileLevel.document),
    ("jsonl_enabled", settings.writesEvents),
    ("plan_trace_enabled", settings.tracesPlans)]

end Settings

def libraryLogger : String := "gdmarshal"

def planLogger : String := "gdmarshal.plan"

/-- The full name of a logger. Names that begin with the library's are full already. -/
def fullName (name : String) : String :=
  if (Text.after? libraryLogger name).isSome then name else libraryLogger ++ "." ++ name

example : fullName "a" = "gdmarshal.a" ∧ fullName "gdmarshalx" = "gdmarshalx" := by
  decide +kernel

/-- The full name of the logger that was asked for: null asks for the library's own. -/
def loggerName : Document → Except Failure String
  | .null => .ok libraryLogger
  | .text name => .ok (fullName name)
  | _ => .error .noSuchField

/-- The record of a single decision, with an event that describes it in named parts. The message
has a name too, and no part may take it. -/
def decisionRecord (message : String) (event : List (String × Document)) :
    Except Failure Record :=
  if (event.lookup "message").isSome then .error .wrongShape
  else .ok { Record.plain Level.trace planLogger "logging" message with
    event := if event.isEmpty then none else some (.table event) }

def isWithin (above logger : String) : Bool :=
  logger == above || (Text.after? (above ++ ".") logger).isSome

structure Routing where
  handlers : List Handler
  /-- The level of the library's logger; zero stands for none. -/
  libraryLevel : Threshold
  /-- The level of the logger of decisions; zero stands for none. -/
  planLevel : Int
  /-- Whether records also go to the handlers above the library. -/
  propagates : Bool
  settings : Option Settings
  /-- How many configurations have succeeded. -/
  revision : Nat

namespace Routing

def initial : Routing := ⟨[], .number Level.notSet, Level.notSet, true, none, 0⟩

def isConfigured (routing : Routing) : Bool :=
  !routing.handlers.isEmpty

def rootLevel : Threshold := .number Level.warning

def effectiveLevel (routing : Routing) (logger : String) : Threshold :=
  if isWithin planLogger logger && routing.planLevel != 0 then .number routing.planLevel
  else if isWithin libraryLogger logger && routing.libraryLevel.level != 0 then routing.libraryLevel
  else rootLevel

/-- Whether a logger records at a level. Nothing is recorded at level zero or below. -/
def isEnabled (routing : Routing) (logger : String) (level : Int) : Bool :=
  0 < level && (routing.effectiveLevel logger).level ≤ level

/-- The handlers that a record is handed to. Before anything is configured there are none, and a
record goes nowhere. -/
def handlersOf (routing : Routing) (logger : String) : List Handler :=
  if isWithin libraryLogger logger then routing.handlers else []

end Routing

end EngineBridge.Log
