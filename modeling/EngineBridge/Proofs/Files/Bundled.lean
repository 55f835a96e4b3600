import EngineBridge.Files.Settings
import Mathlib.Data.String.Basic

/-!
The settings that come with the library.

Main statement: their text can be read, and they are all the settings there are where nobody else
gives any.
-/

namespace EngineBridge.Settings

/-- What the bundled text says. -/
def bundled : Document :=
  .table [
    ("logging", .table [
      ("console_level", .text "INFO"), ("file_level", .text "DEBUG"), ("color", .bool true),
      ("to_file", .bool false), ("subdir", .text "logs"),
      ("filename_pattern", .text "gdmarshal-\x7btimestamp\x7d.log"),
      ("timestamp_format", .text "%Y%m%dT%H%M%S"), ("jsonl", .bool false),
      ("plan_trace", .bool false)]),
    ("types", .table [("size_overrides", .table []), ("extra_classes", .array [])]),
    ("policy", .table [
      ("used_by_property", .table []), ("discardable_result", .table [])])]

theorem toList_join_lines (lines : List String) :
    (String.join (lines.map fun line => line ++ "\n")).toList =
      lines.flatMap fun line => line.toList ++ ['\n'] := by
  simp [String.toList_join, List.flatMap_map]

set_option maxRecDepth 20000 in
theorem read_bundledText : Document.Toml.read bundledText = .ok bundled := by
  unfold Document.Toml.read
  -- The characters of a joined text are dear to compute, and those of its lines are not.
  rw [bundledText, toList_join_lines]
  with_unfolding_all rfl

theorem load_eq_unnamed {host : Host} (given : host.defaultSettings = some bundledText)
    (variable_ : host.settingsVariable.getD "" = "") : load host none = unnamed host bundled := by
  have defaults : defaults host = .ok bundled := by
    rw [Settings.defaults, given]
    exact read_bundledText
  unfold load
  rw [defaults, Logged.bind_of_ok _ rfl]
  simp [variable_]
  rfl

/-- Whether the bundled settings are the only ones. -/
structure Alone (host : Host) : Prop where
  defaults : host.defaultSettings = some bundledText
  variable_ : host.settingsVariable.getD "" = ""
  file : host.files.isFile host.workingDirectory fileName = .ok false
  checkout : host.checkoutSettings = none

theorem load_of_alone {host : Host} (alone : Alone host) :
    load host none = ⟨.ok bundled, [nothingFoundRecord]⟩ := by
  rw [load_eq_unnamed alone.defaults alone.variable_, unnamed, alone.file,
    Logged.bind_of_ok _ rfl, alone.checkout]
  rfl

/-- Whether a text in the working directory gives the only settings besides the bundled ones. -/
structure AloneWith (host : Host) (text : String) : Prop where
  defaults : host.defaultSettings = some bundledText
  variable_ : host.settingsVariable.getD "" = ""
  file : host.files.isFile host.workingDirectory fileName = .ok true
  reads : host.files.read host.workingDirectory fileName = .ok text

theorem load_of_aloneWith {host : Host} {text : String} (alone : AloneWith host text) :
    (load host none).outcome = mergedWith bundled text := by
  rw [load_eq_unnamed alone.defaults alone.variable_, unnamed, alone.file,
    Logged.bind_of_ok _ rfl]
  change ((liftM (host.files.read host.workingDirectory fileName) : Logged String) >>=
    fun text => liftM (mergedWith bundled text)).outcome = _
  rw [alone.reads, Logged.bind_of_ok _ rfl]
  rfl

end EngineBridge.Settings
