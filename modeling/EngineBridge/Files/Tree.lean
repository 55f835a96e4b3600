import EngineBridge.Failure
import EngineBridge.Files.Path
import EngineBridge.Text.Lead

/-!
Files and directories.

A place is the list of names on the way to it from the root. What a path leads to is found step by
step: each step has to start in a directory. The root always exists.
-/

namespace EngineBridge

/-- What there is at a place. -/
inductive FileEntry where
  | directory
  | file (content : String)
deriving DecidableEq, Repr

abbrev Place := List (List Char)

abbrev FileTree := List (Place × FileEntry)

namespace Place

def path (place : Place) : String :=
  "/" ++ Path.ofParts place

end Place

namespace FileTree

def entry? (tree : FileTree) (place : Place) : Option FileEntry :=
  if place.isEmpty then some .directory else tree.lookup place

def put (tree : FileTree) (place : Place) (entry : FileEntry) : FileTree :=
  (place, entry) :: tree.filter fun other => other.1 != place

/-- The length of the longest name that a directory holds, in bytes. -/
def maximalNameLength : Nat := 255

/-- The length of the longest path, in bytes. -/
def maximalPathLength : Nat := 4095

/-- One step from a place, which has to be a directory. -/
def step (tree : FileTree) (place : Place) (part : List Char) : Except Failure Place :=
  match tree.entry? place with
  | none => .error .fileNotFound
  | some (.file _) => .error .notDirectory
  | some .directory =>
      if Path.isIdle part then .ok place
      else if part = Path.parent then .ok place.dropLast
      else if maximalNameLength < (String.ofList part).utf8ByteSize then .error .refusedBySystem
      else .ok (place ++ [part])

/-- The place that the steps along a path start from, and the steps. A path that holds a null
character is none. -/
def steps (directory : Place) (path : String) : Except Failure (Place × List (List Char)) :=
  if Text.holds '\x00' path then .error .unreadable
  else if path.isEmpty then .error .fileNotFound
  else if maximalPathLength < path.utf8ByteSize then .error .refusedBySystem
  else .ok (if Path.isAbsolute path then [] else directory, Path.parts path)

/-- The place that a path leads to from a directory. Nothing needs to be there yet. -/
def find (tree : FileTree) (directory : Place) (path : String) : Except Failure Place := do
  let (start, parts) ← steps directory path
  parts.foldlM tree.step start

/-- Whether a path leads to a file. Only a path that the system refuses has no answer. -/
def isFile (tree : FileTree) (directory : Place) (path : String) : Except Failure Bool :=
  match tree.find directory path with
  | .ok place => match tree.entry? place with
      | some (.file _) => .ok true
      | _ => .ok false
  | .error .refusedBySystem => .error .refusedBySystem
  | .error _ => .ok false

def read (tree : FileTree) (directory : Place) (path : String) : Except Failure String := do
  match tree.entry? (← tree.find directory path) with
  | some (.file content) => return content
  | some .directory => throw .isDirectory
  | none => throw .fileNotFound

/-- Put a file where a path leads to, in a directory that exists. The content may depend on the one
that is there. -/
def update (tree : FileTree) (directory : Place) (path : String) (content : String → String) :
    Except Failure FileTree := do
  let place ← tree.find directory path
  match tree.entry? place with
  | some .directory => throw .isDirectory
  | some (.file present) => return tree.put place (.file (content present))
  | none => return tree.put place (.file (content ""))

/-- Write a file, in place of one that is there. -/
def write (tree : FileTree) (directory : Place) (path content : String) : Except Failure FileTree :=
  tree.update directory path fun _ => content

def append (tree : FileTree) (directory : Place) (path content : String) :
    Except Failure FileTree :=
  tree.update directory path fun present => present ++ content

/-- One step on the way to a directory, which is made if it is not there. `isLast` says whether the
directory itself is reached. -/
def stepMaking (tree : FileTree) (place : Place) (part : List Char) (isLast : Bool) :
    Except Failure (FileTree × Place) := do
  let next ← tree.step place part
  match tree.entry? next with
  | some .directory => return (tree, next)
  | some (.file _) => throw (if isLast then .fileExists else .notDirectory)
  | none => return (tree.put next .directory, next)

def makeAlong (tree : FileTree) (place : Place) : List (List Char) → Except Failure FileTree
  | [] => .ok tree
  | part :: rest => do
      let (tree, place) ← tree.stepMaking place part rest.isEmpty
      makeAlong tree place rest

/-- Make the directory that a path leads to, and those on the way to it. -/
def makeDirectories (tree : FileTree) (directory : Place) (path : String) :
    Except Failure FileTree := do
  let (start, parts) ← steps directory path
  tree.makeAlong start parts

def ofFiles (directory : Place) (files : List (String × String)) : FileTree :=
  files.foldl (fun tree file =>
      let parent := Path.directory file.1
      let made := if parent.isEmpty then tree
        else (tree.makeDirectories directory parent).toOption.getD tree
      (made.write directory file.1 file.2).toOption.getD made)
    ((List.range directory.length).map fun length => (directory.take (length + 1), .directory))

/-- The files inside a directory, with their paths as seen from it. -/
def filesIn (tree : FileTree) (directory : Place) : List (String × String) :=
  tree.filterMap fun (place, entry) =>
    match entry with
    | .file content =>
        if directory.isPrefixOf place then
          some (Path.ofParts (place.drop directory.length), content)
        else none
    | .directory => none

end FileTree

end EngineBridge
