import EngineBridge.Number.Numeral

/-!
Levels of log records: numbers, some of which have names.
-/

namespace EngineBridge.Log

namespace Level

def notSet : Int := 0

/-- Single decisions of the plan compiler. -/
def trace : Int := 5

def debug : Int := 10

def info : Int := 20

def warning : Int := 30

def error : Int := 40

def critical : Int := 50

def names : List (Int × String) :=
  [(notSet, "NOTSET"), (trace, "TRACE"), (debug, "DEBUG"), (info, "INFO"), (warning, "WARNING"),
    (error, "ERROR"), (critical, "CRITICAL")]

def name (level : Int) : String :=
  (names.lookup level).getD ("Level " ++ Number.writeInt level)

example : name 30 = "WARNING" ∧ name 25 = "Level 25" := by decide +kernel

/-- The level of a name in upper case. Two levels have a second name. -/
def ofName? (text : String) : Option Int :=
  if text = "WARN" then some warning
  else if text = "FATAL" then some critical
  else (names.find? fun entry => entry.2 = text).map Prod.fst

end Level

end EngineBridge.Log
