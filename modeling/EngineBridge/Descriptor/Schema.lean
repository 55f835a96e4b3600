import EngineBridge.Document.Shown

/-!
Schemas for documents, and the schema of a method entry.

A schema asks for a kind of document, for keys that must be there, for the form of the values under
known keys and of the items of an array, and for keys that must not be there together. Keys outside
the schema never matter. Violations are found in that order, object by object; the one reported is
the first of those whose path sorts lowest. All are worded before one is chosen, and each quotes the
part that is at fault, so that nothing can be reported if one of these parts cannot be written.
-/

namespace EngineBridge.Document

/-- The kinds that a schema can ask for. -/
inductive Kind where
  | object
  | array
  | string
  | boolean
  | integer
deriving DecidableEq, Repr

namespace Kind

def name : Kind → String
  | .object => "object"
  | .array => "array"
  | .string => "string"
  | .boolean => "boolean"
  | .integer => "integer"

/-- Whether a document is of the kind. A float is an integer if it is finite and whole; a truth
value never is. -/
def admits : Kind → Document → Bool
  | .object, .table _ => true
  | .array, .array _ => true
  | .string, .text _ => true
  | .boolean, .bool _ => true
  | .integer, .int _ => true
  | .integer, .float value => (Number.exactInt? value).isSome
  | _, _ => false

end Kind

/-- A step from a document to a part of it. -/
inductive Step where
  | key (name : String)
  | index (position : Nat)
deriving DecidableEq, Repr

namespace Step

/-- The order of steps: names by their characters, positions by number. -/
def lessThan : Step → Step → Bool
  | .key left, .key right => left < right
  | .index left, .index right => left < right
  | .index _, .key _ => true
  | .key _, .index _ => false

end Step

abbrev Path := List Step

/-- The order of paths: step by step, and a path before its continuations. -/
def Path.lessThan : Path → Path → Bool
  | [], [] => false
  | [], _ :: _ => true
  | _ :: _, [] => false
  | left :: lefts, right :: rights =>
      if left = right then Path.lessThan lefts rights else left.lessThan right

/-- What is wrong at a part of a document. -/
structure Violation where
  path : Path
  /-- What the complaint quotes: the part, or the key that it lacks. -/
  quoted : Document
  fault : String

namespace Violation

def complaint (violation : Violation) : String :=
  violation.quoted.spelling ++ " " ++ violation.fault

def below (step : Step) (violation : Violation) : Violation :=
  { violation with path := step :: violation.path }

/-- Whether a violation can be worded. -/
def isWritable (violation : Violation) : Bool :=
  violation.quoted.isWritable

end Violation

/-- What is asked of a document. Each list is empty where nothing is asked. -/
inductive Schema where
  | mk (kind : Kind) (nonEmpty : Bool) (required : List String)
      (properties : List (String × Schema)) (items : List Schema) (notTogether : List String)

namespace Schema

def anyText : Schema := .mk .string false [] [] [] []

def someText : Schema := .mk .string true [] [] [] []

def truthValue : Schema := .mk .boolean false [] [] [] []

def wholeNumber : Schema := .mk .integer false [] [] [] []

def arrayOf (items : Schema) : Schema := .mk .array false [] [] [items] []

def object (required : List String) (properties : List (String × Schema))
    (notTogether : List String) : Schema :=
  .mk .object false required properties [] notTogether

def checkKind (kind : Kind) (document : Document) : List Violation :=
  if kind.admits document then []
  else [⟨[], document, "is not of type '" ++ kind.name ++ "'"⟩]

def checkNonEmpty (nonEmpty : Bool) : Document → List Violation
  | .text "" => if nonEmpty then [⟨[], .text "", "should be non-empty"⟩] else []
  | _ => []

/-- The keys that must be there, in the order of the schema. -/
def checkRequired (required : List String) : Document → List Violation
  | .table entries =>
      (required.filter fun key => !Entries.contains entries key).map fun key =>
        ⟨[], .text key, "is a required property"⟩
  | _ => []

/-- Whether all of the keys are there. A document without keys lacks none. -/
def holdsAll (keys : List String) : Document → Bool
  | .table entries => keys.all fun key => Entries.contains entries key
  | _ => true

def checkTogether (keys : List String) (document : Document) : List Violation :=
  if !keys.isEmpty && holdsAll keys document then
    let listed := spelling (.table [("required", .array (keys.map .text))])
    [⟨[], document, "should not be valid under " ++ listed⟩]
  else []

mutual

/-- Everything in which a document differs from what is asked, in the order in which it is found. -/
def violations : Schema → Document → List Violation
  | .mk kind nonEmpty required properties items notTogether, document =>
      checkKind kind document ++ checkNonEmpty nonEmpty document ++
        checkRequired required document ++ propertyViolations properties document ++
        itemViolations items document ++ checkTogether notTogether document

/-- The violations under known keys, in the order of the schema. -/
def propertyViolations : List (String × Schema) → Document → List Violation
  | [], _ => []
  | (key, schema) :: rest, document =>
      (match document with
        | .table entries =>
            match Entries.get? entries key with
            | some value => (schema.violations value).map (Violation.below (.key key))
            | none => []
        | _ => []) ++ propertyViolations rest document

/-- The violations in the items of an array, item by item. -/
def itemViolations : List Schema → Document → List Violation
  | [], _ => []
  | schema :: _, .array values =>
      (values.mapIdx fun position value =>
        (schema.violations value).map (Violation.below (.index position))).flatten
  | _ :: _, _ => []

end

/-- The lower of two violations by path; of equal paths the first. -/
def lower (first second : Violation) : Violation :=
  if second.path.lessThan first.path then second else first

/-- The first violation by its path, if there is any. -/
def firstViolation? (schema : Schema) (document : Document) : Option Violation :=
  match schema.violations document with
  | [] => none
  | first :: rest => some (rest.foldl lower first)

/-- The violation to report, if there is any. It is chosen once all are worded. -/
def report? (schema : Schema) (document : Document) : Except Failure (Option Violation) :=
  if (schema.violations document).all Violation.isWritable then .ok (schema.firstViolation? document)
  else .error .unreadable

/-- An argument: name and type, and texts for the rest. -/
def argument : Schema :=
  object ["name", "type"]
    [("name", someText), ("type", someText), ("meta", anyText), ("default_value", anyText)] []

def returnValue : Schema :=
  object ["type"] [("type", someText), ("meta", anyText)] []

/-- A method entry. A result is given in one of two forms, never in both. -/
def method : Schema :=
  object ["name"]
    [("name", someText), ("arguments", arrayOf argument), ("return_value", returnValue),
      ("return_type", someText), ("is_static", truthValue), ("is_virtual", truthValue),
      ("is_vararg", truthValue), ("is_const", truthValue), ("hash", wholeNumber)]
    ["return_value", "return_type"]

end Schema

end EngineBridge.Document
