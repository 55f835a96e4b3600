import EngineBridge.Descriptor.Reader

/-!
The description of an engine's programming interface: its classes with their methods, and its
utility functions.

The description is a document of which only these parts are read, and each only when it is asked
for. A class is looked up by name, and the first entry with the name answers.
-/

namespace EngineBridge

/-- A class with its methods in the order of the description. -/
structure ClassDescription where
  name : Document
  methods : List MethodDescriptor

/-- A description, which is a table. -/
structure ApiDescription where
  entries : List (String × Document)

namespace ApiDescription

def ofDocument : Document → Except Failure ApiDescription
  | .table entries => .ok ⟨entries⟩
  | _ => .error (.badKind .apiDescription)

/-- The members of the list under a key, none if the key is missing. -/
def listed (api : ApiDescription) (key : String) : Except Failure (List Document) :=
  ((Entries.get? api.entries key).getD (.array [])).members

def classNames (api : ApiDescription) : Except Failure (List Document) := do
  (← api.listed "classes").mapM fun entry => entry.fieldAt "name"

def describe (name entry : Document) : Except Failure ClassDescription := do
  let methods ← (← entry.fieldOr "methods" (.array [])).members
  return ⟨name, ← methods.mapM MethodDescriptor.ofDocument⟩

/-- The class of the first entry with a name, among the given entries. -/
def findClass (name : Document) : List Document → Except Failure (Option ClassDescription)
  | [] => .ok none
  | entry :: rest => do
      if (← entry.fieldOr "name" .null).same name then return some (← describe name entry)
      else findClass name rest

/-- The class with a name, if there is one. -/
def getClass (api : ApiDescription) (name : Document) :
    Except Failure (Option ClassDescription) := do
  findClass name (← api.listed "classes")

/-- One class for each class name, in the order of the description. -/
def classes (api : ApiDescription) : Except Failure (List ClassDescription) := do
  return (← (← api.classNames).mapM api.getClass).filterMap id

def utilityFunctions (api : ApiDescription) : Except Failure (List MethodDescriptor) := do
  (← api.listed "utility_functions").mapM MethodDescriptor.ofDocument

end ApiDescription

end EngineBridge
