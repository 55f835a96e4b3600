import EngineBridge.Document.Access
import EngineBridge.Number.Reading
import EngineBridge.Text.Lines
import EngineBridge.TypeClass.Basic

/-!
Tables of the sizes of built-in types.

A table is written one entry a line, `name = size`, with comments behind `#` and blank lines in
between. A line of any other form is refused with its number. Configuration can override sizes.
-/

namespace EngineBridge

/-- Names with sizes, in the order of the table. -/
abbrev SizeTable := Entries Size

namespace SizeTable

/-- An entry of a size table. -/
inductive Line where
  | skipped
  | entry (name : String) (digits : List Char)
  | malformed
deriving DecidableEq, Repr

/-- What a line of a table says: a name that is not empty, and digits. -/
def readLine (line : List Char) : Line :=
  let stripped := Text.trim line
  if stripped.isEmpty || stripped.head? == some '#' then .skipped
  else if !stripped.contains '=' then .malformed
  else
    let name := Text.trim (stripped.takeWhile (· != '='))
    let digits := Text.trim ((stripped.dropWhile (· != '=')).drop 1)
    if name.isEmpty || !Text.isDigitRun digits then .malformed
    else .entry (String.ofList name) digits

/-- The entries of lines, the first of which has the given number. -/
def readLines : Nat → List (List Char) → Except Failure (List (String × Size))
  | _, [] => .ok []
  | number, line :: rest =>
      match readLine line with
      | .skipped => readLines (number + 1) rest
      | .malformed => .error (.badValue (.sizeTableLine number (String.ofList line)))
      | .entry name digits => do
          match Number.readInt? digits with
          | none => throw .unreadable
          | some size => return (name, .bytes size) :: (← readLines (number + 1) rest)

/-- The entries of a table in order, repeated names included. -/
def read (text : String) : Except Failure (List (String × Size)) :=
  readLines 1 (Text.splitLines text.toList)

def bundledLines : List String :=
  [
    "# Built-in value type sizes in bytes (single-precision build, 64-bit pointers).",
    "# Primitives (bool, int, float) are intentionally absent: they are passed in",
    "# their native width and never through an opaque content buffer.",
    "# `Object` is the class-handle sentinel and never classifies as a value type.",
    "String = 8",
    "Vector2 = 8",
    "Vector2i = 8",
    "Rect2 = 16",
    "Rect2i = 16",
    "Vector3 = 12",
    "Vector3i = 12",
    "Transform2D = 24",
    "Vector4 = 16",
    "Vector4i = 16",
    "Plane = 16",
    "Quaternion = 16",
    "AABB = 24",
    "Basis = 36",
    "Transform3D = 48",
    "Projection = 64",
    "Color = 16",
    "StringName = 8",
    "NodePath = 8",
    "RID = 8",
    "Object = 8",
    "Callable = 16",
    "Signal = 16",
    "Dictionary = 8",
    "Array = 8",
    "PackedByteArray = 16",
    "PackedInt32Array = 16",
    "PackedInt64Array = 16",
    "PackedFloat32Array = 16",
    "PackedFloat64Array = 16",
    "PackedStringArray = 16",
    "PackedVector2Array = 16",
    "PackedVector3Array = 16",
    "PackedColorArray = 16",
    "PackedVector4Array = 16",
    "Variant = 24"]

def bundledText : String :=
  String.join (bundledLines.map fun line => line ++ "\n")

/-- The sizes of the built-in types, entry by entry as in the bundled text. -/
def bundled : List (String × Size) :=
  [
    ("String", .bytes 8), ("Vector2", .bytes 8), ("Vector2i", .bytes 8), ("Rect2", .bytes 16),
    ("Rect2i", .bytes 16), ("Vector3", .bytes 12), ("Vector3i", .bytes 12),
    ("Transform2D", .bytes 24), ("Vector4", .bytes 16), ("Vector4i", .bytes 16),
    ("Plane", .bytes 16), ("Quaternion", .bytes 16), ("AABB", .bytes 24), ("Basis", .bytes 36),
    ("Transform3D", .bytes 48), ("Projection", .bytes 64), ("Color", .bytes 16),
    ("StringName", .bytes 8), ("NodePath", .bytes 8), ("RID", .bytes 8), ("Object", .bytes 8),
    ("Callable", .bytes 16), ("Signal", .bytes 16), ("Dictionary", .bytes 8), ("Array", .bytes 8),
    ("PackedByteArray", .bytes 16), ("PackedInt32Array", .bytes 16),
    ("PackedInt64Array", .bytes 16), ("PackedFloat32Array", .bytes 16),
    ("PackedFloat64Array", .bytes 16), ("PackedStringArray", .bytes 16),
    ("PackedVector2Array", .bytes 16), ("PackedVector3Array", .bytes 16),
    ("PackedColorArray", .bytes 16), ("PackedVector4Array", .bytes 16), ("Variant", .bytes 24)]

example : readLine " a = 8 ".toList = .entry "a" ['8'] ∧ readLine "# x".toList = .skipped ∧
    readLine "a = b".toList = .malformed := by decide +kernel

/-- Overrides from configuration, one after the other. Each has to be a positive integer. -/
def overrideWith : List (String × Document) → SizeTable → Except Failure SizeTable
  | [], sizes => .ok sizes
  | (name, .int count) :: rest, sizes =>
      if 0 < count then overrideWith rest (Entries.put name (.bytes count) sizes)
      else .error (.badValue (.sizeOverride name))
  | (name, .bool true) :: rest, sizes => overrideWith rest (Entries.put name (.flag true) sizes)
  | (name, _) :: _, _ => .error (.badValue (.sizeOverride name))

/-- The bundled sizes with the overrides of a configuration, where there is one. -/
def configured (config : Document) : Except Failure SizeTable := do
  let sizes := Entries.ofPairs bundled
  if config.isTruthy then
    let types ← config.fieldOr "types" (.table [])
    let overrides ← types.fieldOr "size_overrides" (.table [])
    overrideWith (← overrides.pairs) sizes
  else return sizes

end SizeTable

end EngineBridge
