import EngineBridge.Document.Json.Printer
import EngineBridge.Log.Record
import EngineBridge.Log.TimePattern

/-!
Records as lines of text.

A text line has the time, the level name in a column of eight, the logger with the line number, and
the message. On a terminal the level name can be coloured, with its padding. A JSON line is one
object; decisions and failures stand under keys of their own.
-/

namespace EngineBridge.Log.Record

def columnWidth : Nat := 8

/-- A level name in its column. Longer names stick out. -/
def column (levelName : String) : String :=
  levelName ++ String.ofList (List.replicate (columnWidth - levelName.length) ' ')

example : column "INFO" = "INFO    " ∧ column "CRITICAL" = "CRITICAL" := by decide +kernel

def colors : List (Int × String) :=
  [(Level.trace, "\x1b[90m"), (Level.debug, "\x1b[36m"), (Level.warning, "\x1b[33m"),
    (Level.error, "\x1b[31m"), (Level.critical, "\x1b[41m")]

def colorEnd : String := "\x1b[0m"

/-- The level name of a record in its column, coloured if it is asked for and the level has a
colour. -/
def levelColumn (record : Record) (isColored : Bool) : String :=
  match (if isColored then colors.lookup record.level else none) with
  | some color => color ++ column record.levelName ++ colorEnd
  | none => column record.levelName

def stamp (record : Record) : String :=
  (Moment.ofSeconds record.created).stamp

/-- The line that says when, how serious, where and what. -/
def headline (record : Record) (isColored : Bool) : String :=
  record.stamp ++ " | " ++ record.levelColumn isColored ++ " | " ++ record.logger ++ ":" ++
    Number.writeInt record.line ++ " | " ++ record.message

def withFailure (record : Record) (text : String) : String :=
  match record.failure with
  | none => text
  | some failure =>
      if failure.isEmpty then text
      else if text.toList.getLast? == some '\n' then text ++ failure
      else text ++ "\n" ++ failure

def text (record : Record) (isColored : Bool) : String :=
  record.withFailure (record.headline isColored)

def document (record : Record) : Document :=
  .table ([
    ("timestamp", .text record.stamp),
    ("level", .text record.levelName),
    ("logger", .text record.logger),
    ("message", .text record.message),
    ("where", .text (record.place ++ ":" ++ Number.writeInt record.line))] ++
    (record.event.map fun event => ("plan_event", event)).toList ++
    (record.failure.map fun failure => ("exc_info", Document.text failure)).toList)

def json (record : Record) : String :=
  Document.Json.writeUnicode record.document

end EngineBridge.Log.Record
