import EngineBridge.Command.Run
import Std.Time

/-!
The program.

A run is a function of its host. The program makes a host of what it finds on the disk, runs, and
carries out what the run has changed. When a run touches a place that has not been looked up, the
place is looked up and the run starts again: nothing has been carried out before.
-/

namespace EngineBridge.Program

def entryAt? (place : Place) : IO (Option FileEntry) := do
  let path := (← IO.currentDir) / place.path
  if ← path.isDir then return some .directory
  else if ← path.pathExists then return some (.file (← IO.FS.readFile path))
  else return none

def lookUp (tree : FileTree) (place : Place) : IO FileTree :=
  (List.range place.length).foldlM (fun tree length => do
      let reached := place.take (length + 1)
      match ← entryAt? reached with
      | some entry => return tree.put reached entry
      | none => return tree) tree

def placeOf (directory path : String) : Place :=
  (Path.parts (Path.absolute directory path)).filter fun part => !part.isEmpty

def wallClock : IO Log.Moment := do
  let now ← Std.Time.PlainDateTime.now
  return {
    year := now.date.year.toInt
    month := now.date.month.toNat
    day := now.date.day.toNat
    hour := now.time.hour.toNat
    minute := now.time.minute.toNat
    second := now.time.second.toNat }

def namedPaths (arguments : List String) (settingsVariable : Option String) : List String :=
  let requested := match Command.read arguments with
    | .ok request => request.paths
    | .error _ => []
  Settings.fileName :: settingsVariable.toList ++ requested

def homeOfLine? (line : List Char) : Option (String × String) :=
  match Text.splitOn ':' line with
  | name :: _ :: _ :: _ :: _ :: home :: _ => some (String.ofList name, String.ofList home)
  | _ => none

def userHomes : IO Path.Homes := do
  match ← entryAt? ["etc".toList, "passwd".toList] with
  | some (.file content) => return (Text.splitLines content.toList).filterMap homeOfLine?
  | _ => return []

/-- The host of the program, with what the disk has where the named paths lead to. -/
def findHost (arguments : List String) : IO Host := do
  let directory := (← IO.currentDir).toString
  let home := (← IO.getEnv "HOME").getD "/"
  let homes := ("", home) :: (← userHomes)
  let settingsVariable ← IO.getEnv "GDMARSHAL_CONFIG"
  let places := directory :: namedPaths arguments settingsVariable
  let files ← places.foldlM (fun tree path =>
    lookUp tree (placeOf directory ((Path.expanded? homes path).getD path))) []
  let now ← wallClock
  return {
    files
    workingDirectory := placeOf "/" directory
    homes
    settingsVariable
    defaultSettings := some Settings.bundledText
    checkoutSettings := none
    output := ""
    errorOutput := ""
    outputIsTerminal := ← (← IO.getStdout).isTty
    errorOutputIsTerminal := ← (← IO.getStderr).isTty
    memory := 0x40000000
    now
    recordTime := now.seconds
    logging := Log.Routing.initial }

/-- Run until everything that the run touches has been looked up, at most a number of times. Gives
the files as they were found, and what the run came to. -/
def runSettled (arguments : List String) (host : Host) :
    Nat → IO (FileTree × Command.Ending × Host)
  | 0 => do return (host.files, Command.run arguments host)
  | rounds + 1 => do
      let (ending, after) := Command.run arguments host
      let unseen := (after.files.map Prod.fst).filter fun place =>
        (host.files.entry? place).isNone
      let found ← unseen.foldlM lookUp host.files
      if found.length = host.files.length then return (host.files, ending, after)
      else runSettled arguments { host with files := found } rounds

def saveFiles (found changed : FileTree) : IO Unit :=
  changed.reverse.forM fun (place, entry) => do
    if found.lookup place != some entry then
      match entry with
      | .directory => IO.FS.createDirAll place.path
      | .file content => IO.FS.writeFile place.path content

/-- How often a run may start again. -/
def rounds : Nat := 16

end EngineBridge.Program

open EngineBridge in
def main (arguments : List String) : IO UInt32 := do
  let host ← Program.findHost arguments
  let (found, ending, after) ← Program.runSettled arguments host Program.rounds
  Program.saveFiles found after.files
  IO.print after.output
  IO.eprint after.errorOutput
  match ending with
  | .status code => return code.toUInt32
  | .failed failure =>
      IO.eprintln (failure.message.getD "The input does not have the form that is asked of it.")
      return 1
