import EngineBridge.Document.Access
import EngineBridge.Document.Shown

/-!
Laying one document over another.

In a merged table the keys of the lower document come first, in its order, with the upper value
where there is one; then come the keys that only the upper document has. Tables under one key are
merged in turn, and a table never meets a value that is none.
-/

namespace EngineBridge.Document

def kindLabel (document : Document) : String :=
  "<class '" ++ document.kindName ++ "'>"

mutual

/-- The upper value over the lower one, under a key that both have. -/
def mergeValue (key : String) (upper : Document) : Document → Except Failure Document
  | .table lowers =>
      match upper with
      | .table uppers => do
          let merged ← mergeLower uppers lowers
          return .table (merged ++ uppers.filter fun entry => !Entries.contains lowers entry.1)
      | _ => .error (.badKind (.mixedTable key upper.kindLabel (kindLabel (.table lowers))))
  | lower =>
      if upper.isTable then
        .error (.badKind (.mixedTable key upper.kindLabel lower.kindLabel))
      else .ok upper

/-- The entries of the lower table, each with the upper value over it where there is one. -/
def mergeLower (uppers : List (String × Document)) :
    List (String × Document) → Except Failure (List (String × Document))
  | [] => .ok []
  | (key, lower) :: rest => do
      let merged ← match Entries.get? uppers key with
        | some upper => mergeValue key upper lower
        | none => .ok lower
      return (key, merged) :: (← mergeLower uppers rest)

end

def mergeTables (uppers lowers : List (String × Document)) :
    Except Failure (List (String × Document)) := do
  return (← mergeLower uppers lowers) ++
    uppers.filter fun entry => !Entries.contains lowers entry.1

/-- Whether a document that is no table holds a key: an array as an item, a text as a part. Other
documents cannot be asked. -/
def holdsKey (document : Document) (key : String) : Except Failure Bool :=
  match document with
  | .array items => .ok (items.any fun item => item.same (.text key))
  | .text value => .ok (key == "" || (value.splitOn key).length > 1)
  | _ => .error .wrongShape

/-- Why an upper document that is no table cannot be laid over a table: its first key is looked up
in vain, or the document turns out to have no entries. -/
def refuseUpper (upper : Document) : List (String × Document) → Failure
  | [] => .noSuchField
  | (key, _) :: rest =>
      match upper.holdsKey key with
      | .ok true => .wrongShape
      | .ok false => refuseUpper upper rest
      | .error failure => failure

/-- The upper document over the lower one. Only tables can be merged. -/
def merge (upper lower : Document) : Except Failure Document :=
  match upper, lower with
  | .table uppers, .table lowers => do return .table (← mergeTables uppers lowers)
  | upper, .table lowers => .error (refuseUpper upper lowers)
  | _, _ => .error .noSuchField

end EngineBridge.Document
