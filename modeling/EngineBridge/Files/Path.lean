import EngineBridge.Text.Split

/-!
Paths as texts.

A path is a text with slashes between its parts. It is absolute if it starts with a slash; two
slashes at the beginning, and not more, are kept as they are.
-/

namespace EngineBridge.Path

def parts (path : String) : List (List Char) :=
  Text.splitOn '/' path.toList

def ofParts (parts : List (List Char)) : String :=
  String.ofList (Text.joinWith '/' parts)

def isAbsolute (path : String) : Bool :=
  path.toList.head? == some '/'

def lead (path : String) : String :=
  match path.toList with
  | '/' :: '/' :: '/' :: _ => "/"
  | '/' :: '/' :: _ => "//"
  | '/' :: _ => "/"
  | _ => ""

def current : List Char := ['.']

def parent : List Char := ['.', '.']

def isIdle (part : List Char) : Bool :=
  part.isEmpty || part == current

/-- The parts of a normal path, where `done` holds those before in reverse: a step to the parent
takes the part before it away, and at the root it leads nowhere. -/
def normalParts (rooted : Bool) : List (List Char) → List (List Char) → List (List Char)
  | done, [] => done.reverse
  | done, part :: rest =>
      if isIdle part then normalParts rooted done rest
      else if part != parent then normalParts rooted (part :: done) rest
      else match done with
        | [] => normalParts rooted (if rooted then [] else [parent]) rest
        | last :: before =>
            if last == parent then normalParts rooted (parent :: done) rest
            else normalParts rooted before rest

def normal (path : String) : String :=
  let text := lead path ++ ofParts (normalParts (isAbsolute path) [] (parts path))
  if text.isEmpty then String.ofList current else text

example : normal "a/./b/../c//d" = "a/c/d" ∧ normal "/../x" = "/x" ∧ normal "" = "." ∧
    normal "../../x" = "../../x" := by decide +kernel

/-- A path inside a directory, unless it is absolute. -/
def join (directory path : String) : String :=
  if isAbsolute path then path
  else if directory.isEmpty || directory.toList.getLast? == some '/' then directory ++ path
  else directory ++ "/" ++ path

/-- The normal absolute form of a path, as it is seen from a directory. -/
def absolute (directory path : String) : String :=
  normal (join directory path)

example : absolute "/home/me" "logs/./x" = "/home/me/logs/x" := by decide +kernel

/-- The directory of a path: what stands before the last slash, without slashes at its end unless
there is nothing else. -/
def directory (path : String) : String :=
  let before := (path.toList.reverse.dropWhile (· != '/'))
  let trimmed := before.dropWhile (· == '/')
  String.ofList (if trimmed.isEmpty then before.reverse else trimmed.reverse)

example : directory "a/b//c" = "a/b" ∧ directory "c" = "" ∧ directory "//c" = "//" := by
  decide +kernel

/-- A path without the ending of its last part. The ending starts at the last dot of the part;
dots at the beginning of the part do not count. -/
def withoutEnding (path : String) : String :=
  let reversed := path.toList.reverse
  let name := reversed.takeWhile (· != '/')
  let ending := name.takeWhile (· != '.')
  let stem := (name.drop ending.length).drop 1
  if ending.length < name.length && stem.any (· != '.') then
    String.ofList (reversed.drop (ending.length + 1)).reverse
  else path

example : withoutEnding "a.b/c.d.log" = "a.b/c.d" ∧ withoutEnding "..x" = "..x" ∧
    withoutEnding "a.b/c" = "a.b/c" := by decide +kernel

/-- A path as it is shown: without idle steps, but with all steps to a parent. -/
def tidy (path : String) : String :=
  let text := lead path ++ ofParts ((parts path).filter fun part => !isIdle part)
  if text.isEmpty then String.ofList current else text

/-- Home directories by the names of their users. The user at work has the empty name. -/
abbrev Homes := List (String × String)

/-- A tidy path in which a tilde with the name of a user, as the first part, stands for the home
directory of that user. None if the user is not known. -/
def expanded? (homes : Homes) (path : String) : Option String :=
  match parts (tidy path) with
  | ('~' :: user) :: rest =>
      (homes.lookup (String.ofList user)).map fun home => tidy (ofParts (home.toList :: rest))
  | _ => some (tidy path)

example : expanded? [("", "/h")] "~/x//y" = some "/h/x/y" ∧ expanded? [] "~me/x" = none ∧
    expanded? [] "./a/../b" = some "a/../b" := by decide +kernel

end EngineBridge.Path
