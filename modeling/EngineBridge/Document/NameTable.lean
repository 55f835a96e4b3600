import EngineBridge.Document.Access

/-!
Things that stand under names, in the order in which the names first arrived.

A name can be any document that has a key, and two names are the same if their keys are. Main
statements: what is put under a name is what is found under it, and every name with another key
keeps what it had.
-/

namespace EngineBridge

abbrev NameTable (α : Type) := List (Document × α)

namespace NameTable

variable {α : Type}

def names (table : NameTable α) : List Document :=
  table.map Prod.fst

def values (table : NameTable α) : List α :=
  table.map Prod.snd

def find? (key : Document.Key) : NameTable α → Option α
  | [] => none
  | (name, value) :: rest => if name.key? = some key then some value else find? key rest

def get? (table : NameTable α) (name : Document) : Except Failure (Option α) := do
  return table.find? (← name.keyOf)

/-- Put a value under a key: in place of what is there, or at the end under a new name. -/
def replace (key : Document.Key) (name : Document) (value : α) : NameTable α → NameTable α
  | [] => [(name, value)]
  | (other, present) :: rest =>
      if other.key? = some key then (other, value) :: rest
      else (other, present) :: replace key name value rest

def put (name : Document) (value : α) (table : NameTable α) : Except Failure (NameTable α) := do
  return table.replace (← name.keyOf) name value

/-- The value put under a name is the one that is found. -/
theorem find?_replace_self {key : Document.Key} {name : Document} (named : name.key? = some key)
    (value : α) (table : NameTable α) : find? key (replace key name value table) = some value := by
  induction table with
  | nil => simp [replace, find?, named]
  | cons entry rest induction =>
      obtain ⟨other, present⟩ := entry
      by_cases same : other.key? = some key
      · simp [replace, find?, same]
      · simp [replace, find?, same, induction]

/-- Names with other keys keep their values. -/
theorem find?_replace_of_ne {key other : Document.Key} (different : other ≠ key)
    {name : Document} (named : name.key? = some key) (value : α) (table : NameTable α) :
    find? other (replace key name value table) = find? other table := by
  induction table with
  | nil => simp [replace, find?, named, Ne.symm different]
  | cons entry rest induction =>
      obtain ⟨first, present⟩ := entry
      by_cases same : first.key? = some key
      · simp [replace, find?, same, Ne.symm different]
      · by_cases found : first.key? = some other
        · simp [replace, find?, found, different]
        · simp [replace, find?, same, found, induction]

end NameTable

end EngineBridge
