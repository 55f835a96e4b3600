import EngineBridge.Document.Key
import EngineBridge.Failure

/-!
What can be asked of a document, and how the asking fails.

Only tables have keys, only containers have members, and only what can be a key can be looked for in
a table.
-/

namespace EngineBridge.Document

/-- The value at a key of a table. Only tables have keys. -/
def field? (document : Document) (key : String) : Except Failure (Option Document) :=
  match document with
  | .table entries => .ok (Entries.get? entries key)
  | _ => .error .noSuchField

/-- The value at a key of a table, or a default if the key is missing. -/
def fieldOr (document : Document) (key : String) (default : Document) : Except Failure Document :=
  return (← document.field? key).getD default

def fieldAt (document : Document) (key : String) : Except Failure Document :=
  match document with
  | .table entries =>
      match Entries.get? entries key with
      | some value => .ok value
      | none => .error .noSuchKey
  | _ => .error .wrongShape

def asText (document : Document) : Except Failure String :=
  match document with
  | .text value => .ok value
  | _ => .error .wrongShape

def pairs (document : Document) : Except Failure (List (String × Document)) :=
  match document with
  | .table entries => .ok entries
  | _ => .error .noSuchField

/-- The members in order: the items of an array, the keys of a table, the characters of a text. -/
def members (document : Document) : Except Failure (List Document) :=
  match document with
  | .array items => .ok items
  | .table entries => .ok (entries.map fun entry => .text entry.1)
  | .text value => .ok (value.toList.map fun character => .text character.toString)
  | _ => .error .wrongShape

def keyOf (document : Document) : Except Failure Key :=
  match document.key? with
  | some key => .ok key
  | none => .error .wrongShape

@[simp] theorem keyOf_text (value : String) : keyOf (.text value) = .ok (.text value) := rfl

/-- The value of a table under a name, where only texts can name one. -/
def entry? (document name : Document) : Except Failure (Option Document) := do
  let entries ← document.pairs
  match ← name.keyOf with
  | .text key => return Entries.get? entries key
  | _ => return none

/-- The first items of a list, as many as a document says. Null asks for all of them, and a negative
number says how many to leave out at the end. -/
def firstItems {α : Type} (count : Document) (items : List α) : Except Failure (List α) :=
  match count with
  | .null => .ok items
  | .int number => .ok (items.take (if number < 0 then items.length + number else number).toNat)
  | .bool value => .ok (items.take (if value then 1 else 0))
  | _ => .error .wrongShape

example : firstItems (.int (-1)) ["a", "b"] = .ok ["a"] := by rfl

def occursIn (part : List Char) : List Char → Bool
  | [] => part.isEmpty
  | first :: rest => part.isPrefixOf (first :: rest) || occursIn part rest

/-- Whether a document holds another: as an item, as a key, or as a part of a text. -/
def holds (container member : Document) : Except Failure Bool :=
  match container, member with
  | .array items, member => .ok (items.any member.same)
  | .table entries, member => do
      match ← member.keyOf with
      | .text key => return Entries.contains entries key
      | _ => return false
  | .text whole, .text part => .ok (occursIn part.toList whole.toList)
  | _, _ => .error .wrongShape

example : holds (.text "abc") (.text "bc") = .ok true ∧ holds (.text "abc") (.int 1) =
    .error .wrongShape := by exact ⟨rfl, rfl⟩

end EngineBridge.Document
