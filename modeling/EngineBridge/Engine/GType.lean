import EngineBridge.Document.Access

/-!
The types that a Variant can hold, by number.

The numbers are those of the engine; `max` is one beyond the last type. Each type except nil has a
type name in signatures.
-/

namespace EngineBridge

inductive GType where
  | nil
  | bool
  | int
  | float
  | string
  | vector2
  | vector2i
  | rect2
  | rect2i
  | vector3
  | vector3i
  | transform2d
  | vector4
  | vector4i
  | plane
  | quaternion
  | aabb
  | basis
  | transform3d
  | projection
  | color
  | stringName
  | nodePath
  | rid
  | object
  | callable
  | signal
  | dictionary
  | array
  | packedByteArray
  | packedInt32Array
  | packedInt64Array
  | packedFloat32Array
  | packedFloat64Array
  | packedStringArray
  | packedVector2Array
  | packedVector3Array
  | packedColorArray
  | packedVector4Array
  | max
deriving DecidableEq, Repr

namespace GType

def all : List GType :=
  [
    .nil, .bool, .int, .float, .string, .vector2, .vector2i, .rect2, .rect2i, .vector3, .vector3i,
    .transform2d, .vector4, .vector4i, .plane, .quaternion, .aabb, .basis, .transform3d,
    .projection, .color, .stringName, .nodePath, .rid, .object, .callable, .signal, .dictionary,
    .array, .packedByteArray, .packedInt32Array, .packedInt64Array, .packedFloat32Array,
    .packedFloat64Array, .packedStringArray, .packedVector2Array, .packedVector3Array,
    .packedColorArray, .packedVector4Array, .max]

/-- The number of a type is its place in the order. -/
def number (gtype : GType) : Nat :=
  gtype.ctorIdx

/-- The type of a number, if there is one. -/
def ofNumber? (number : Int) : Option GType :=
  if 0 ≤ number then all[number.toNat]? else none

def name : GType → String
  | .nil => "NIL"
  | .bool => "BOOL"
  | .int => "INT"
  | .float => "FLOAT"
  | .string => "STRING"
  | .vector2 => "VECTOR2"
  | .vector2i => "VECTOR2I"
  | .rect2 => "RECT2"
  | .rect2i => "RECT2I"
  | .vector3 => "VECTOR3"
  | .vector3i => "VECTOR3I"
  | .transform2d => "TRANSFORM2D"
  | .vector4 => "VECTOR4"
  | .vector4i => "VECTOR4I"
  | .plane => "PLANE"
  | .quaternion => "QUATERNION"
  | .aabb => "AABB"
  | .basis => "BASIS"
  | .transform3d => "TRANSFORM3D"
  | .projection => "PROJECTION"
  | .color => "COLOR"
  | .stringName => "STRING_NAME"
  | .nodePath => "NODE_PATH"
  | .rid => "RID"
  | .object => "OBJECT"
  | .callable => "CALLABLE"
  | .signal => "SIGNAL"
  | .dictionary => "DICTIONARY"
  | .array => "ARRAY"
  | .packedByteArray => "PACKED_BYTE_ARRAY"
  | .packedInt32Array => "PACKED_INT32_ARRAY"
  | .packedInt64Array => "PACKED_INT64_ARRAY"
  | .packedFloat32Array => "PACKED_FLOAT32_ARRAY"
  | .packedFloat64Array => "PACKED_FLOAT64_ARRAY"
  | .packedStringArray => "PACKED_STRING_ARRAY"
  | .packedVector2Array => "PACKED_VECTOR2_ARRAY"
  | .packedVector3Array => "PACKED_VECTOR3_ARRAY"
  | .packedColorArray => "PACKED_COLOR_ARRAY"
  | .packedVector4Array => "PACKED_VECTOR4_ARRAY"
  | .max => "MAX"

def byTypeName : List (String × GType) :=
  [
    ("bool", .bool), ("int", .int), ("float", .float), ("String", .string), ("Vector2", .vector2),
    ("Vector2i", .vector2i), ("Rect2", .rect2), ("Rect2i", .rect2i), ("Vector3", .vector3),
    ("Vector3i", .vector3i), ("Transform2D", .transform2d), ("Vector4", .vector4),
    ("Vector4i", .vector4i), ("Plane", .plane), ("Quaternion", .quaternion), ("AABB", .aabb),
    ("Basis", .basis), ("Transform3D", .transform3d), ("Projection", .projection),
    ("Color", .color), ("StringName", .stringName), ("NodePath", .nodePath), ("RID", .rid),
    ("Object", .object), ("Callable", .callable), ("Signal", .signal),
    ("Dictionary", .dictionary), ("Array", .array), ("PackedByteArray", .packedByteArray),
    ("PackedInt32Array", .packedInt32Array), ("PackedInt64Array", .packedInt64Array),
    ("PackedFloat32Array", .packedFloat32Array), ("PackedFloat64Array", .packedFloat64Array),
    ("PackedStringArray", .packedStringArray), ("PackedVector2Array", .packedVector2Array),
    ("PackedVector3Array", .packedVector3Array), ("PackedColorArray", .packedColorArray),
    ("PackedVector4Array", .packedVector4Array)]

def ofTypeName (typeName : Document) : Except Failure GType := do
  let found? := match ← typeName.keyOf with
    | .text name => byTypeName.lookup name
    | _ => none
  match found? with
  | some gtype => return gtype
  | none => throw (Failure.raised (.badValue (.noVariantType typeName)))

/-- The types whose constructors the engine is asked for: all but nil. -/
def constructible : List GType :=
  all.filter fun gtype => gtype != nil && gtype != max

example : constructible.length = 38 := by decide

end GType

end EngineBridge
