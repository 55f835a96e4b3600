import EngineBridge.Document.Access

/-!
The names of the classes that are known: those of an API description, those that configuration
adds, and the root class.

The sources may list anything that can be a member of a set. Only texts can name a class, and a
list of class names exists only where nothing but texts was listed.
-/

namespace EngineBridge

abbrev ClassSet := List Document

namespace ClassSet

def insert (classes : ClassSet) (name : Document) : Except Failure ClassSet :=
  if !name.isHashable then .error .wrongShape
  else if classes.any name.same then .ok classes
  else .ok (classes ++ [name])

def insertAll (classes : ClassSet) (names : List Document) : Except Failure ClassSet :=
  names.foldlM insert classes

def texts (classes : ClassSet) : List String :=
  classes.filterMap fun
    | .text name => some name
    | _ => none

/-- The names under `name` of those entries that are tables and have one. -/
def entryNames (entries : List Document) : List Document :=
  entries.filterMap fun
    | .table fields => Entries.get? fields "name"
    | _ => none

/-- The classes of an API description, those that configuration adds, and the root class. -/
def known (api config : Document) : Except Failure ClassSet := do
  let entries ← (← api.fieldOr "classes" (.array [])).members
  let described ← insertAll [] (entryNames entries)
  let extended ←
    if config.isTruthy then do
      let types ← config.fieldOr "types" (.table [])
      insertAll described (← (← types.fieldOr "extra_classes" (.array [])).members)
    else pure described
  extended.insert (.text "Object")

end ClassSet

end EngineBridge
