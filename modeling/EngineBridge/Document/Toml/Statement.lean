import EngineBridge.Document.Toml.Value

/-!
The statements of a TOML text: table headers, headers of array items, and keys with values.

What a statement does to the document is decided elsewhere; here a statement is only read.
-/

namespace EngineBridge.Document.Toml

inductive Statement where
  | table (key : Key)
  /-- The header of a new item in an array of tables. -/
  | item (key : Key)
  | entry (key : Key) (value : Document)

def readHeader (closing : List Char) (characters : Rest) : Except Failure (Key × Rest) := do
  let (key, behind) ← readKey (skipSpace characters)
  if closing.isPrefixOf behind then return (key, behind.drop closing.length)
  else throw .malformedToml

def readStatement (characters : Rest) : Except Failure (Statement × Rest) :=
  match characters with
  | '[' :: '[' :: rest => do
      let (key, remaining) ← readHeader [']', ']'] rest
      return (.item key, remaining)
  | '[' :: rest => do
      let (key, remaining) ← readHeader [']'] rest
      return (.table key, remaining)
  | _ => do
      let ((key, value), remaining) ← readPair (3 * characters.length + 3) nestingRoom characters
      return (.entry key value, remaining)

/-- A statement has its line to itself, a comment apart. -/
def endLine (characters : Rest) : Except Failure Rest := do
  match ← skipComment (skipSpace characters) with
  | [] => return []
  | '\n' :: rest => return rest
  | _ => throw .malformedToml

end EngineBridge.Document.Toml
