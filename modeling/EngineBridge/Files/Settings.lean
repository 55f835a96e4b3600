import EngineBridge.Document.Merge
import EngineBridge.Document.Toml.Reader
import EngineBridge.Host

/-!
The settings of a program: a user's file on top of the defaults.

The file is the one that the caller names, else the one that the environment names, else one in
the working directory, else one in the checkout. A file that is named has to be there. Without any
file the defaults stand alone.
-/

namespace EngineBridge.Settings

def fileName : String := "gdmarshal.toml"

def bundledLines : List String :=
  [
    "# Default configuration for gdmarshal. User files are merged on top of it.",
    "",
    "[logging]",
    "console_level = \"INFO\"",
    "file_level = \"DEBUG\"",
    "color = true",
    "# write a text log file under `dir` (or `<output>/logs`)",
    "to_file = false",
    "subdir = \"logs\"",
    "filename_pattern = \"gdmarshal-\x7btimestamp\x7d.log\"",
    "timestamp_format = \"%Y%m%dT%H%M%S\"",
    "jsonl = false",
    "# emit one TRACE record per argument/return decision",
    "plan_trace = false",
    "",
    "[types]",
    "# name -> byte size, applied on top of _resources/builtin_sizes.txt",
    "size_overrides = \x7b\x7d",
    "# class names treated as object handles in addition to the API description",
    "extra_classes = []",
    "",
    "[policy.used_by_property]",
    "# ClassName = [\"raw_method_name\", ...]",
    "",
    "[policy.discardable_result]",
    "# ClassName = [\"raw_method_name\", ...]"]

def bundledText : String :=
  String.join (bundledLines.map fun line => line ++ "\n")

def defaults (host : Host) : Except Failure Document :=
  match host.defaultSettings with
  | some text => Document.Toml.read text
  | none => .error (.missingSettings .bundled)

def mergedWith (defaultSettings : Document) (text : String) : Except Failure Document := do
  (← Document.Toml.read text).merge defaultSettings

def named (host : Host) (path : String) (missing : MissingSettings) (defaultSettings : Document) :
    Except Failure Document := do
  if ← host.files.isFile host.workingDirectory path then
    mergedWith defaultSettings (← host.files.read host.workingDirectory path)
  else throw (.missingSettings missing)

def nothingFoundRecord : Log.Record :=
  Log.Record.plain Log.Level.info "gdmarshal.utils" "utils"
    "No user config found; falling back to default configuration only"

/-- The settings, where nobody names a file. -/
def unnamed (host : Host) (defaultSettings : Document) : Logged Document := do
  if ← host.files.isFile host.workingDirectory fileName then
    mergedWith defaultSettings (← host.files.read host.workingDirectory fileName)
  else match host.checkoutSettings with
    | some text => mergedWith defaultSettings text
    | none => do
        Logged.emit nothingFoundRecord
        return defaultSettings

def expanded (host : Host) (path : String) : Except Failure String :=
  match Path.expanded? host.homes path with
  | some path => .ok path
  | none => .error .unknownHome

/-- The settings of a program, for a file that the caller may have named. An empty name is none. -/
def load (host : Host) (path : Option String) : Logged Document := do
  let defaultSettings ← defaults host
  let given := path.getD ""
  let variable_ := host.settingsVariable.getD ""
  if given != "" then
    let found ← expanded host given
    named host found (.named found) defaultSettings
  else if variable_ != "" then
    named host (← expanded host variable_) (.fromEnvironment variable_) defaultSettings
  else unnamed host defaultSettings

end EngineBridge.Settings
