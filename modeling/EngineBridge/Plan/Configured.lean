import EngineBridge.Document.Order
import EngineBridge.Plan.Compiler

/-!
Compilers from documents: from a configuration with its size table, its classes and its policies,
or from tables that are put together by hand.
-/

namespace EngineBridge

/-- The classifier of a size table and some class names, among which anything that has a key may
stand. -/
def TypeClassifier.ofNames (sizes : SizeTable) (classNames : List Document) :
    Except Failure TypeClassifier := do
  ofTables sizes (← ClassSet.insertAll [] classNames).texts

namespace SizeTable

def ofDocument : Document → Except Failure SizeTable
  | .table entries => .ok (Entries.mapValues Size.ofDocument entries)
  | .array [] => .ok []
  | _ => .error .wrongShape

end SizeTable

namespace PlanCompiler

/-- The compiler of a configuration for some known classes, to which the root class is added. -/
def ofConfig (config : Document) (knownClasses : List Document) : Except Failure PlanCompiler := do
  let classes ← (← ClassSet.insertAll [] knownClasses).insert (.text objectType)
  let sizes ← SizeTable.configured config
  let classifier ← TypeClassifier.ofNames sizes classes
  let policy ← BindingPolicy.ofConfig config (← Document.sorted classes)
  return ⟨classifier, policy⟩

/-- The keys whose presence says that a compiler is described by its tables. -/
def tableKeys : List String :=
  ["sizes", "used_by_property", "discardable_result", "naming"]

/-- The policy of a description: its tables, and two texts to put around public names. -/
def givenPolicy (description : Document) : BindingPolicy :=
  let table := fun key => PolicyTable.byHand (description.valueOr key (.table []))
  let naming := match (description.valueAt "naming").textItems with
    | [before, behind] => Naming.between before behind
    | _ => Naming.escaped
  ⟨table "used_by_property", table "discardable_result", naming⟩

/-- The compiler that a document describes: by its tables, or by a configuration. -/
def ofDocument (description : Document) (defaultClasses : List String) :
    Except Failure PlanCompiler := do
  let present := fun key => (Entries.get? description.entryList key).isSome
  let classes := description.valueOr "classes" (.array (defaultClasses.map .text))
  if tableKeys.any present then
    let sizes ← if present "sizes" then SizeTable.ofDocument (description.valueAt "sizes")
      else pure (Entries.ofPairs SizeTable.bundled)
    return ⟨← TypeClassifier.ofNames sizes (← classes.members), givenPolicy description⟩
  else ofConfig (description.valueOr "config" (.table [])) (← classes.members)

end PlanCompiler

end EngineBridge
