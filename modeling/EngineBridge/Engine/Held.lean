import EngineBridge.Engine.GType
import EngineBridge.Number.Conversion
import EngineBridge.Number.Word
import EngineBridge.Text.Hexadecimal
import EngineBridge.TypeClass.Sizes

/-!
What the engine keeps: the contents of value slots, and the three words by which a value is known
outside.
-/

namespace EngineBridge

/-- The content of a value slot. -/
inductive Held where
  | nothing
  | bool (value : Bool)
  /-- An integer, or the handle of an object. -/
  | int (value : Int)
  | float (value : Float)
  | text (value : String)
  | bytes (content : List UInt8)
deriving Inhabited

namespace Held

def display : Held → String
  | .nothing => "<null>"
  | .bool value => if value then "true" else "false"
  | .int value => Number.writeInt value
  | .float value => Number.writeFloat value
  | .text value => value
  | .bytes content => Text.hexOfBytes content

/-- The number of a content, where a truth value counts as one or zero. -/
def integer? : Held → Option Int
  | .bool value => some (if value then 1 else 0)
  | .int value => some value
  | _ => none

/-- Equality of contents: numbers by their exact values, all else by kind and content. -/
def same : Held → Held → Bool
  | .nothing, .nothing => true
  | .text left, .text right => left == right
  | .bytes left, .bytes right => left == right
  | .float left, .float right => left == right
  | .float left, right => right.integer?.any (Number.equalsInt left)
  | left, .float right => left.integer?.any (Number.equalsInt right)
  | left, right => match left.integer?, right.integer? with
      | some first, some second => first == second
      | _, _ => false

def toInt : Held → Except Failure Int
  | .nothing => .error .wrongShape
  | .bool value => .ok (if value then 1 else 0)
  | .int value => .ok value
  | .float value => Number.integerOfFloat value
  | .text value => Number.integerOfCharacters value.toList
  | .bytes content => Number.integerOfBytes content

end Held

/-- The words by which a value is known outside the engine: its type, its slot, and a zero. -/
structure Payload where
  typeNumber : Int
  slot : Int
  third : Int
deriving DecidableEq, Repr, Inhabited

namespace Payload

/-- The payload before anything is constructed in it, which the engine takes for nil. -/
def zeroed : Payload := ⟨0, 0, 0⟩

/-- The size of a payload in bytes. -/
def byteCount : Nat := 24

def bytes (payload : Payload) : List UInt8 :=
  Number.wordBytes payload.typeNumber ++ Number.wordBytes payload.slot ++
    Number.wordBytes payload.third

def ofBytes (bytes : List UInt8) : Payload :=
  ⟨Number.signedWordAt bytes 0, Number.signedWordAt bytes 8, Number.signedWordAt bytes 16⟩

end Payload

namespace GType

/-- The size of the values of a type that are held as bytes. -/
def byteCount (gtype : GType) : Nat :=
  match byTypeName.find? fun entry => entry.2 == gtype with
  | some (typeName, _) =>
      match SizeTable.bundled.lookup typeName with
      | some size => (size.count?.getD 0).toNat
      | none => 0
  | none => 0

example : byteCount .transform3d = 48 := by decide +kernel

end GType

end EngineBridge
