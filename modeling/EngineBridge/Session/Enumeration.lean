import EngineBridge.Document.Access
import EngineBridge.Number.Conversion
import EngineBridge.Session.Value
import EngineBridge.Text.Blank
import EngineBridge.Text.Split

/-!
Enumerations whose members have numbers.

A description lists names with numbers, or names alone, which are then counted from one. Names
between low lines are no members, and a few names are reserved. Of members with one number the
first stands for all.
-/

namespace EngineBridge

structure Enumeration where
  name : String
  /-- The members in the order of the description. -/
  members : List (String × Int)

namespace Enumeration

/-- What a name in a description is. -/
inductive NameKind where
  | member
  /-- Something that belongs to the enumeration but is no member. -/
  | attribute
  /-- A name that is kept for other uses. -/
  | reserved
  /-- A name under which a list of names is expected. -/
  | nameList
  /-- A name under which the order of the members is expected. -/
  | order
deriving DecidableEq, Repr

/-- Whether a name stands between runs of exactly so many low lines. -/
def isBetweenLines (count : Nat) (name : List Char) : Bool :=
  let lead := fun characters : List Char => (characters.takeWhile (· == '_')).length
  2 * count < name.length && lead name == count && lead name.reverse == count

/-- Whether a name is private to the enumeration: it starts with the name of the enumeration between
low lines, and does not end in two low lines. -/
def isPrivate (enumeration name : List Char) : Bool :=
  let lead := '_' :: enumeration ++ ['_', '_']
  lead.isPrefixOf name && lead.length < name.length && name.reverse.take 2 != ['_', '_']

def knownAttributes : List String :=
  ["_generate_next_value_", "_numeric_repr_", "_missing_", "_iter_member_",
    "_iter_member_by_value_", "_iter_member_by_def_"]

def nameKind (enumeration name : String) : NameKind :=
  if isPrivate enumeration.toList name.toList then .attribute
  else if name = "_ignore_" then .nameList
  else if name = "_order_" || name = "__order__" then .order
  else if knownAttributes.contains name then .attribute
  else if isBetweenLines 1 name.toList then .reserved
  else if isBetweenLines 2 name.toList then .attribute
  else .member

example : nameKind "E" "_x_" = .reserved ∧ nameKind "E" "__x__" = .attribute ∧
    nameKind "E" "_E__x" = .attribute ∧ nameKind "E" "x_" = .member := by decide +kernel

/-- The number of a member, which is what its value is converted to. -/
def numberOf : Document → Except Failure Int
  | .text value => Number.integerOfCharacters value.toList
  | .float value => Number.integerOfFloat value
  | other =>
      match other.number? with
      | some number => .ok number
      | none => .error .wrongShape

/-- The names in a text, between commas and blanks. -/
def namesIn (text : String) : List String :=
  let separated := text.toList.map fun character =>
    if character == ',' || Text.isBlank character then ',' else character
  ((Text.splitOn ',' separated).filter fun name => !name.isEmpty).map String.ofList

def counted (names : List String) : List (String × Document) :=
  names.mapIdx fun index name => (name, .int (index + 1))

/-- The text of a name, which has to be one. -/
def nameOf : Document → Except Failure String
  | .text name => .ok name
  | _ => .error .wrongShape

/-- The entries of a description: a table, a text or an array of names, or an array of pairs. -/
def entriesOf (description : Document) : Except Failure (List (String × Document)) :=
  match description with
  | .table entries => .ok entries
  | .text names => .ok (counted (namesIn names))
  | .array (.text first :: rest) => return counted (first :: (← rest.mapM nameOf))
  | .array pairs => pairs.mapM fun
      | .array [name, value] => return (← nameOf name, value)
      | _ => .error .wrongShape
  | _ => .error .wrongShape

def refusedNames : List String := ["mro", ""]

/-- The members among entries, in order. Reserved names are refused as they are met. -/
def membersOf (enumeration : String) :
    List (String × Document) → Except Failure (List (String × Document))
  | [] => .ok []
  | (name, value) :: rest =>
      match nameKind enumeration name with
      | .reserved => .error .unreadable
      | .nameList => .error .wrongShape
      | .attribute | .order => membersOf enumeration rest
      | .member => return (name, value) :: (← membersOf enumeration rest)

/-- The enumeration of a description. An order is never that of the members, since it is given as
a number. -/
def ofDocument (name : String) (description : Document) : Except Failure Enumeration := do
  let entries ← entriesOf description
  let described ← membersOf name entries
  let names := described.map Prod.fst
  if !decide names.Nodup then throw .wrongShape
  if names.any refusedNames.contains then throw .unreadable
  let members ← described.mapM fun member => do return (member.1, ← numberOf member.2)
  if entries.any fun entry => nameKind name entry.1 == .order then throw .wrongShape
  return ⟨name, members⟩

def member (enumeration : Enumeration) (number : Int) : Except Failure Value :=
  match enumeration.members.find? fun member => member.2 == number with
  | some member => .ok (.enumerator enumeration.name member.1 number)
  | none => .error .unreadable

end Enumeration

end EngineBridge
