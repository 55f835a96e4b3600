import EngineBridge.Document.Basic
import EngineBridge.Number.Numeral
import EngineBridge.Text.Quoted

/-!
How documents are spelled in messages: texts are quoted, and truth values and null are written as
words.

A spelling has a place for every document. Whether it can be written is another matter: an integer
of too many digits has no written form, and no message can quote a document that holds one.
-/

namespace EngineBridge.Document

def shownBool (value : Bool) : String :=
  if value then "True" else "False"

def joinParts (parts : List String) : String :=
  String.intercalate ", " parts

mutual

def spelling : Document → String
  | .null => "None"
  | .bool value => shownBool value
  | .int value => Number.writeInt value
  | .float value => Number.writeFloat value
  | .text value => Text.quoted value
  | .moment _ written => written
  | .array items => "[" ++ joinParts (itemSpellings items) ++ "]"
  | .table entries => "\x7b" ++ joinParts (entrySpellings entries) ++ "\x7d"

def itemSpellings : List Document → List String
  | [] => []
  | item :: rest => item.spelling :: itemSpellings rest

def entrySpellings : List (String × Document) → List String
  | [] => []
  | (key, value) :: rest => (Text.quoted key ++ ": " ++ value.spelling) :: entrySpellings rest

end

/-- A document as part of a text: a text stands for itself, and all else is as it is spelled. -/
def wording : Document → String
  | .text value => value
  | other => other.spelling

@[simp] theorem wording_text (value : String) : wording (.text value) = value := rfl

mutual

/-- Whether a document can be written: no integer in it is too long. -/
def isWritable : Document → Bool
  | .int value => Number.isWritable value
  | .array items => itemsAreWritable items
  | .table entries => entriesAreWritable entries
  | _ => true

def itemsAreWritable : List Document → Bool
  | [] => true
  | item :: rest => item.isWritable && itemsAreWritable rest

def entriesAreWritable : List (String × Document) → Bool
  | [] => true
  | (_, value) :: rest => value.isWritable && entriesAreWritable rest

end

@[simp] theorem isWritable_text (value : String) : isWritable (.text value) = true := rfl

@[simp] theorem isWritable_null : isWritable .null = true := rfl

def kindName : Document → String
  | .null => "NoneType"
  | .bool _ => "bool"
  | .int _ => "int"
  | .float _ => "float"
  | .text _ => "str"
  | .moment .dateTime _ => "datetime.datetime"
  | .moment .date _ => "datetime.date"
  | .moment .time _ => "datetime.time"
  | .array _ => "list"
  | .table _ => "dict"

end EngineBridge.Document
