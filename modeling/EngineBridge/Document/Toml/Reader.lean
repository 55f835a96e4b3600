import EngineBridge.Document.Toml.Statement
import EngineBridge.Text.Lines

/-!
The document that a TOML text describes.

Statements act one after the other. A table can be declared once, a value written once, and what
was written in brackets or braces is closed. A table that a dotted key made can no longer be
declared in a later section.
-/

namespace EngineBridge.Document.Toml

/-- What has been assembled so far. -/
structure Assembly where
  entries : List (String × Document)
  /-- Keys that a header declared, or that dotted keys of an earlier section made. -/
  declared : List Key
  closed : List Key
  /-- Tables that dotted keys of the current section made. -/
  made : List Key
  /-- The header of the current section. -/
  header : Key

namespace Assembly

def empty : Assembly :=
  ⟨[], [], [], [], []⟩

def isClosed (assembly : Assembly) (key : Key) : Bool :=
  assembly.closed.any fun done => done.isPrefixOf key

/-- A new section begins: what dotted keys made counts as declared. -/
def endSection (assembly : Assembly) : Assembly :=
  { assembly with declared := assembly.made ++ assembly.declared, made := [] }

def declareTable (assembly : Assembly) (key : Key) : Option Assembly := do
  let ended := assembly.endSection
  if ended.declared.contains key || ended.isClosed key then none
  else
    let entries ← changeAt true key some ended.entries
    return { ended with entries, declared := key :: ended.declared, header := key }

def appendItem (name : String) (entries : List (String × Document)) :
    Option (List (String × Document)) :=
  match Entries.get? entries name with
  | none => some (Entries.put name (.array [.table []]) entries)
  | some (.array items) => some (Entries.put name (.array (items ++ [.table []])) entries)
  | some _ => none

/-- A new item of an array of tables: whatever was declared below the earlier items may be
declared again. -/
def declareItem (assembly : Assembly) (key : Key) : Option Assembly := do
  let ended := assembly.endSection
  if ended.isClosed key then none
  else
    let name ← key.getLast?
    let entries ← changeAt true key.dropLast (appendItem name) ended.entries
    let keep := fun other : Key => !key.isPrefixOf other
    return { ended with
      entries
      declared := key :: ended.declared.filter keep
      closed := ended.closed.filter keep
      header := key }

/-- The tables that a dotted key goes through, from the outside in. -/
def passedTables (header key : Key) : List Key :=
  ((List.range key.length).drop 1).map fun count => header ++ key.take count

def addEntry (assembly : Assembly) (key : Key) (value : Document) : Option Assembly := do
  let passed := passedTables assembly.header key
  let parent := assembly.header ++ key.dropLast
  let name ← key.getLast?
  if passed.any assembly.declared.contains || assembly.isClosed parent then none
  else
    let entries ← insertAt true parent name value assembly.entries
    return { assembly with
      entries
      made := passed ++ assembly.made
      closed :=
        if Toml.isClosed value then (assembly.header ++ key) :: assembly.closed
        else assembly.closed }

def apply (assembly : Assembly) : Statement → Option Assembly
  | .table key => assembly.declareTable key
  | .item key => assembly.declareItem key
  | .entry key value => assembly.addEntry key value

end Assembly

/-- What the lines of a text assemble. Each statement takes effect as soon as it is read. -/
def readLines : Nat → Assembly → Rest → Except Failure Assembly
  | 0, assembly, _ => .ok assembly
  | steps + 1, assembly, characters =>
      match skipSpace characters with
      | [] => .ok assembly
      | '\n' :: rest => readLines steps assembly rest
      | '#' :: rest => do readLines steps assembly (← endLine ('#' :: rest))
      | line => do
          let (statement, behind) ← readStatement line
          match assembly.apply statement with
          | some assembly => readLines steps assembly (← endLine behind)
          | none => throw .malformedToml

/-- The document of a TOML text, in which a carriage return may stand only before a line feed. -/
def read (text : String) : Except Failure Document := do
  let characters := Text.joinLineFeeds text.toList
  return .table (← readLines characters.length.succ Assembly.empty characters).entries

end EngineBridge.Document.Toml
