import EngineBridge.Document.NameTable

/-!
Binding policies: which methods are reached through properties only, which results may be ignored,
and how a method is named in public.

Both tables map the name of a class, or `@utility` for functions that belong to no class, to method
names. A policy read from a configuration answers for a class exactly what the configuration lists.
-/

namespace EngineBridge

/-- The words that cannot name a method or an argument: the keywords of the language in which
bindings are called, and those that are keywords in some places only (`_`, `case` and `match`). The
table is that of version 3.11; version 3.12 adds `type` to the latter. -/
def reservedWords : List String :=
  ["False", "None", "True", "and", "as", "assert", "async", "await", "break", "class", "continue",
    "def", "del", "elif", "else", "except", "finally", "for", "from", "global", "if", "import",
    "in", "is", "lambda", "nonlocal", "not", "or", "pass", "raise", "return", "try", "while",
    "with", "yield", "_", "case", "match"]

/-- A name under which a method or an argument can be used: a reserved word gets a low line. -/
def escapeIdentifier (name : String) : String :=
  if reservedWords.contains name then name ++ "_" else name

/-- How public names are made of the names of methods. -/
structure Naming where
  /-- The public name of a method whose name is a text. -/
  ofText : String → String
  /-- What becomes of a name that is no text. -/
  ofOther : Document → Except Failure Document

namespace Naming

/-- Reserved words are escaped. A name that is no text stays as it is, but has to have a key. -/
def escaped : Naming where
  ofText := escapeIdentifier
  ofOther name := do
    let _ ← name.keyOf
    return name

/-- Texts are put around a name, which has to be a text. -/
def between (before behind : String) : Naming where
  ofText name := before ++ name ++ behind
  ofOther _ := .error .wrongShape

def apply (naming : Naming) (name : Document) : Except Failure Document :=
  match name with
  | .text text => .ok (.text (naming.ofText text))
  | other => naming.ofOther other

end Naming

/-- What says which methods of a class are special. -/
inductive PolicyTable where
  /-- The methods of each class, without repetitions. -/
  | listed (classes : NameTable (List Document))
  /-- A table that is put together by hand, in which anything may hold the methods of a class. -/
  | byHand (table : Document)

def utilityKey : String := "@utility"

namespace PolicyTable

def empty : PolicyTable := .listed []

/-- The name of a class, or that of the functions that belong to no class. -/
def classKey (className : Document) : Document :=
  match className with
  | .null => .text utilityKey
  | name => name

/-- Whether a method is among the listed ones. The method has to have a key. -/
def isAmong (methods : List Document) (methodName : Document) : Except Failure Bool := do
  let _ ← methodName.keyOf
  return methods.any methodName.same

def lists (table : PolicyTable) (className methodName : Document) : Except Failure Bool :=
  match table with
  | .listed classes => do
      isAmong ((← classes.get? (classKey className)).getD []) methodName
  | .byHand given => do
      match ← given.entry? (classKey className) with
      | some container => container.holds methodName
      | none => isAmong [] methodName

end PolicyTable

structure BindingPolicy where
  usedByProperty : PolicyTable
  discardableResult : PolicyTable
  naming : Naming

namespace BindingPolicy

def none : BindingPolicy := ⟨PolicyTable.empty, PolicyTable.empty, Naming.escaped⟩

def isUsedByProperty (policy : BindingPolicy) (className methodName : Document) :
    Except Failure Bool :=
  policy.usedByProperty.lists className methodName

def isDiscardable (policy : BindingPolicy) (className methodName : Document) :
    Except Failure Bool :=
  policy.discardableResult.lists className methodName

/-- Documents without repetitions, in order of arrival. Each has to have a key. -/
def distinct (names : List Document) : Except Failure (List Document) :=
  names.foldlM (fun kept name => do
    let _ ← name.keyOf
    return if kept.any name.same then kept else kept ++ [name]) []

/-- The members that a configuration lists in a policy table for a class. -/
def listedNames (config tableName className : Document) : Except Failure (List Document) := do
  let table ←
    if config.isTruthy then do
      let tables ← config.fieldOr "policy" (.table [])
      pure ((← tables.entry? tableName).getD (.table []))
    else pure (.table [])
  let key := PolicyTable.classKey className
  match ← table.entry? key with
  | Option.none => return []
  | some (.array names) => distinct names
  | some _ => throw (Failure.raised (.badKind (.policyNames tableName key)))

def tableOf (config : Document) (tableName : String) (classNames : List Document) :
    Except Failure (NameTable (List Document)) :=
  classNames.mapM fun name => do return (name, ← listedNames config (.text tableName) name)

def tableKeys (tables : Document) (tableName : String) : Except Failure (List Document) := do
  distinct (← (← tables.fieldOr tableName (.table [])).members)

/-- The policy of a configuration, for its own class names and for further ones. -/
def ofConfig (config : Document) (classNames : List Document) : Except Failure BindingPolicy := do
  let tables ←
    if config.isTruthy then config.fieldOr "policy" (.table []) else pure (.table [])
  let propertyKeys ← tableKeys tables "used_by_property"
  let discardableKeys ← tableKeys tables "discardable_result"
  let keys ← distinct (propertyKeys ++ discardableKeys ++ classNames)
  return {
    usedByProperty := .listed (← tableOf config "used_by_property" keys)
    discardableResult := .listed (← tableOf config "discardable_result" keys)
    naming := Naming.escaped }

end BindingPolicy

end EngineBridge
