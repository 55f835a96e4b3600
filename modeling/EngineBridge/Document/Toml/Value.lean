import EngineBridge.Document.Toml.Scalar

/-!
The values of TOML: scalars, quoted texts, arrays and inline tables.

Each entry of an inline table takes effect as soon as it is read. Values may be nested as long as
there is room for it: each reader is handed the steps that the length of the text allows, and the
room that is left.
-/

namespace EngineBridge.Document.Toml

/-- Change the table that a key leads to, making the tables that are missing on the way. Where
`throughArrays` is set, an array of tables on the way stands for its last item. There is no way
through any other value. -/
def changeAt (throughArrays : Bool) :
    Key → (List (String × Document) → Option (List (String × Document))) →
      List (String × Document) → Option (List (String × Document))
  | [], change, entries => change entries
  | name :: names, change, entries =>
      match Entries.get? entries name with
      | none => do
          let inner ← changeAt throughArrays names change []
          return Entries.put name (.table inner) entries
      | some (.table inner) => do
          let changed ← changeAt throughArrays names change inner
          return Entries.put name (.table changed) entries
      | some (.array items) =>
          match throughArrays, items.getLast? with
          | true, some (.table inner) => do
              let changed ← changeAt throughArrays names change inner
              return Entries.put name (.array (items.dropLast ++ [.table changed])) entries
          | _, _ => none
      | some _ => none

/-- Give a name in the table that a key leads to a value. The name must be new. -/
def insertAt (throughArrays : Bool) (parent : Key) (name : String) (value : Document) :
    List (String × Document) → Option (List (String × Document)) :=
  changeAt throughArrays parent fun entries =>
    if Entries.contains entries name then none else some (Entries.put name value entries)

/-- Whether a document is written with brackets or braces, so that nothing can be added to it. -/
def isClosed : Document → Bool
  | .array _ | .table _ => true
  | _ => false

/-- An inline table that is being read. -/
structure InlineTable where
  entries : List (String × Document)
  /-- Keys whose values are written in brackets or braces. -/
  closed : List Key

namespace InlineTable

def empty : InlineTable :=
  ⟨[], []⟩

/-- One more entry. A value in brackets or braces is closed to the dotted keys behind it. -/
def add (inline : InlineTable) (key : Key) (value : Document) : Except Failure InlineTable :=
  let entries? := do
    let name ← key.getLast?
    if inline.closed.any fun done => done.isPrefixOf key then none
    else insertAt false key.dropLast name value inline.entries
  match entries? with
  | some entries =>
      .ok ⟨entries, if isClosed value then key :: inline.closed else inline.closed⟩
  | none => .error .malformedToml

end InlineTable

/-- The room for nested values of a whole text. -/
def nestingRoom : Nat := 984

/-- The room that a value in brackets takes. -/
def arrayDepth : Nat := 2

/-- The room that a value in braces takes. -/
def tableDepth : Nat := 3

mutual

def readValue : Nat → Nat → Rest → Except Failure (Document × Rest)
  | 0, _, _ => .error .malformedToml
  | steps + 1, room, characters =>
      match characters with
      | '[' :: rest =>
          if room < arrayDepth then .error .tooDeep
          else do
            match ← skipLines rest.length.succ rest with
            | ']' :: remaining => return (.array [], remaining)
            | items => do
                let (values, remaining) ← readItems steps (room - arrayDepth) items
                return (.array values, remaining)
      | '\x7b' :: rest =>
          if room < tableDepth then .error .tooDeep
          else do
            match ← skipLines rest.length.succ rest with
            | '\x7d' :: remaining => return (.table [], remaining)
            | pairs => do
                let (entries, remaining) ←
                  readPairs steps (room - tableDepth) InlineTable.empty pairs
                return (.table entries, remaining)
      | first :: _ =>
          if first == '\x22' || first == '\x27' then do
            let (content, remaining) ← readQuoted characters
            return (.text (String.ofList content), remaining)
          else readScalar characters
      | [] => .error .malformedToml

/-- The items of an array, up to behind its closing bracket. -/
def readItems : Nat → Nat → Rest → Except Failure (List Document × Rest)
  | 0, _, _ => .error .malformedToml
  | steps + 1, room, characters => do
      let (value, behind) ← readValue steps room characters
      match ← skipLines behind.length.succ behind with
      | ']' :: rest => return ([value], rest)
      | ',' :: rest => do
          match ← skipLines rest.length.succ rest with
          | ']' :: remaining => return ([value], remaining)
          | items => do
              let (values, remaining) ← readItems steps room items
              return (value :: values, remaining)
      | _ => throw .malformedToml

/-- The entries of an inline table, up to behind its closing brace. -/
def readPairs : Nat → Nat → InlineTable → Rest →
    Except Failure (List (String × Document) × Rest)
  | 0, _, _, _ => .error .malformedToml
  | steps + 1, room, inline, characters => do
      let ((key, value), behind) ← readPair steps room characters
      let inline ← inline.add key value
      match ← skipLines behind.length.succ behind with
      | '\x7d' :: rest => return (inline.entries, rest)
      | ',' :: rest => do
          match ← skipLines rest.length.succ rest with
          | '\x7d' :: remaining => return (inline.entries, remaining)
          | pairs => readPairs steps room inline pairs
      | _ => throw .malformedToml

def readPair : Nat → Nat → Rest → Except Failure ((Key × Document) × Rest)
  | 0, _, _ => .error .malformedToml
  | steps + 1, room, characters => do
      let (key, behindKey) ← readKey characters
      match behindKey with
      | '=' :: rest => do
          let (value, remaining) ← readValue steps room (skipSpace rest)
          return ((key, value), remaining)
      | _ => throw .malformedToml

end

end EngineBridge.Document.Toml
