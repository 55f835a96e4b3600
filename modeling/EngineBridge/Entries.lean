/-!
Tables that keep the order in which their keys first arrived.

Main statements: a key that is new goes to the end, a key that is present moves nothing, and in
both cases the value written is the one that is found.
-/

namespace EngineBridge

/-- What is found is there, with its key. -/
theorem mem_of_lookup {κ α : Type} [BEq κ] [LawfulBEq κ] {key : κ} {value : α}
    {pairs : List (κ × α)} (found : pairs.lookup key = some value) : (key, value) ∈ pairs := by
  obtain ⟨before, after, split, -⟩ := List.lookup_eq_some_iff.mp found
  rw [split]
  exact List.mem_append_right before List.mem_cons_self

/-- Keys with their values, in order of arrival. -/
abbrev Entries (α : Type) := List (String × α)

namespace Entries

variable {α β : Type}

def keys (entries : Entries α) : List String :=
  entries.map Prod.fst

def values (entries : Entries α) : List α :=
  entries.map Prod.snd

def get? (entries : Entries α) (key : String) : Option α :=
  entries.lookup key

def contains (entries : Entries α) (key : String) : Bool :=
  (entries.get? key).isSome

/-- Write a value: at the place of its key if the key is present, and at the end otherwise. -/
def put (key : String) (value : α) : Entries α → Entries α
  | [] => [(key, value)]
  | (other, present) :: rest =>
      if other = key then (key, value) :: rest else (other, present) :: put key value rest

/-- Write pairs one after the other: a key keeps its first place and its last value. -/
def ofPairs (pairs : List (String × α)) : Entries α :=
  pairs.foldl (fun entries pair => entries.put pair.1 pair.2) []

def mapValues (transform : α → β) (entries : Entries α) : Entries β :=
  entries.map fun entry => (entry.1, transform entry.2)

@[simp] theorem get?_nil (key : String) : get? ([] : Entries α) key = none := rfl

theorem get?_cons (key other : String) (value : α) (rest : Entries α) :
    get? ((other, value) :: rest) key = if key = other then some value else get? rest key := by
  by_cases same : key = other
  · simp [get?, same]
  · have differs : (key == other) = false := by simp [same]
    simp [get?, List.lookup_cons, same, differs]

/-- The value written is the one that is found. -/
@[simp] theorem get?_put_self (key : String) (value : α) (entries : Entries α) :
    get? (put key value entries) key = some value := by
  induction entries with
  | nil => simp [put, get?_cons]
  | cons entry rest induction =>
      obtain ⟨other, present⟩ := entry
      by_cases same : other = key
      · simp [put, same, get?_cons]
      · have different : key ≠ other := fun equal => same equal.symm
        simp [put, same, get?_cons, different, induction]

/-- Every other key keeps its value. -/
theorem get?_put_of_ne {key other : String} (different : other ≠ key) (value : α)
    (entries : Entries α) : get? (put key value entries) other = get? entries other := by
  induction entries with
  | nil => simp [put, get?_cons, different]
  | cons entry rest induction =>
      obtain ⟨first, present⟩ := entry
      by_cases same : first = key
      · subst same
        simp [put, get?_cons, different]
      · simp [put, same, get?_cons, induction]

/-- Writing to a present key moves nothing. -/
theorem keys_put_of_mem {key : String} (value : α) (entries : Entries α)
    (present : key ∈ entries.keys) : (put key value entries).keys = entries.keys := by
  induction entries with
  | nil => simp [keys] at present
  | cons entry rest induction =>
      obtain ⟨other, old⟩ := entry
      by_cases same : other = key
      · simp [put, same, keys]
      · have behind : key ∈ keys rest := by
          simp only [keys, List.map_cons, List.mem_cons] at present
          rcases present with equal | mem
          · exact absurd equal.symm same
          · exact mem
        have kept := induction behind
        simp only [keys] at kept
        simp [put, same, keys, kept]

/-- A new key goes to the end. -/
theorem keys_put_of_not_mem {key : String} (value : α) (entries : Entries α)
    (absent : key ∉ entries.keys) : (put key value entries).keys = entries.keys ++ [key] := by
  induction entries with
  | nil => simp [put, keys]
  | cons entry rest induction =>
      obtain ⟨other, old⟩ := entry
      simp only [keys, List.map_cons, List.mem_cons, not_or] at absent
      have same : other ≠ key := fun equal => absent.1 equal.symm
      have extended := induction absent.2
      simp only [keys] at extended
      simp [put, same, keys, extended]

end Entries

end EngineBridge
