import EngineBridge.Document.Basic

/-!
What documents are found by.

A document that can be a key stands for its value: numbers of all kinds have one key if they are
the same number. Arrays and tables have no keys. The key of a text is the text, so texts are found
exactly by themselves.
-/

namespace EngineBridge.Document

/-- The value by which a document is found. -/
inductive Key where
  | null
  | integer (value : Int)
  /-- A float that is no integer, by its bits. -/
  | real (bits : UInt64)
  | text (value : String)
  | moment (kind : MomentKind) (written : String)
deriving DecidableEq, Repr

/-- The key of a document, where it has one. -/
def key? : Document → Option Key
  | .null => some .null
  | .bool value => some (.integer (if value then 1 else 0))
  | .int value => some (.integer value)
  | .float value =>
      match Number.exactInt? value with
      | some number => some (.integer number)
      | none => some (.real value.toBits)
  | .text value => some (.text value)
  | .moment kind written => some (.moment kind written)
  | .array _ | .table _ => none

/-- Whether a document can be a member of a set: arrays and tables cannot. -/
def isHashable (document : Document) : Bool :=
  document.key?.isSome

@[simp] theorem key?_text (value : String) : key? (.text value) = some (.text value) := rfl

example : key? (.float 5.0) = key? (.int 5) ∧ key? (.bool true) = key? (.int 1) ∧
    (key? (.array [])).isNone := by decide +kernel

end EngineBridge.Document
