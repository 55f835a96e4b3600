import EngineBridge.Document.Json.Reader
import EngineBridge.Files.Settings
import EngineBridge.Text.Lines
import EngineBridge.TypeClass.Sizes

/-!
Texts that come with the library, and documents in files.
-/

namespace EngineBridge

namespace Resource

def directory : Place := ["gdmarshal".toList, "_resources".toList]

def files : FileTree :=
  FileTree.ofFiles directory
    [("builtin_sizes.txt", SizeTable.bundledText), ("gdmarshal.default.toml", Settings.bundledText)]

/-- The text of a resource: the bundled one, or else the content of a file that stands in for it,
where there is one. -/
def read (name : String) (fallback : Option String) : Except Failure String :=
  match files.read [] (Path.tidy (Path.join directory.path name)), fallback with
  | .error .fileNotFound, some content => .ok (String.ofList (Text.unifyLineFeeds content.toList))
  | found, _ => found

end Resource

namespace Run

def readDocument (path : String) : Run Document := do
  let host ← get
  Document.Json.read (← host.files.read host.workingDirectory path)

/-- Fail for a document that breaks off where it is written. -/
def requireWritable (document : Document) : Run Unit :=
  if Document.Json.isWritable document then return else throw .unreadable

/-- Write a document to a file, and make the directories on the way to it. -/
def writeDocument (path : String) (document : Document) : Run Unit := do
  let parent := Path.directory path
  if parent != "" then
    changeFiles fun host => host.files.makeDirectories host.workingDirectory parent
  changeFiles fun host =>
    host.files.write host.workingDirectory path (Document.Json.writeFile document)
  requireWritable document

/-- Write a document to the standard output. -/
def printDocument (document : Document) : Run Unit := do
  print (Document.Json.writeFile document)
  requireWritable document

end Run

end EngineBridge
