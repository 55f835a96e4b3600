import EngineBridge.Engine.Notation
import EngineBridge.Session.Basic

/-!
Values of a session in documents.

The owner of a boxed value is written with what its slot holds at the moment, for which the engine
is not asked anything.
-/

namespace EngineBridge

namespace Session

/-- The owner of a boxed value. A slot that the engine does not know counts as nil. -/
def variantDocument (session : Session) (cell : VariantCell) : Document :=
  if cell.isAlive then
    let found? := session.engine?.bind fun engine => engine.slot? cell.payload.slot
    let (typeNumber, content) := found?.getD (GType.nil.number, .nothing)
    .table [("variant", .int cell.payload.slot), ("gtype", .int typeNumber),
      ("value", content.document)]
  else .table [("variant", .text "dead")]

def stringDocument (cell : StringCell) : Document :=
  .table [("gstring", .int cell.string), ("alive", .bool cell.isAlive)]

mutual

def document (session : Session) : Value → Document
  | .nothing => .null
  | .bool value => .bool value
  | .int value => .int value
  | .float value | .keptFloat _ value => .float value
  | .text value => .text value
  | .variant reference =>
      ((session.variants[reference]?).map session.variantDocument).getD .null
  | .nativeString reference => ((session.strings[reference]?).map stringDocument).getD .null
  | .opaqueValue typeName content =>
      .table [("opaque", typeName), ("hex", hexDocument content)]
  | .typedArray element content =>
      .table [("typed_array", element), ("hex", hexDocument content)]
  | .object className handle =>
      .table [("object", className), ("handle", session.document handle)]
  | .member value => .table [("member", session.document value)]
  | .list items => .array (session.itemDocuments items)
  | .bytes content => .table [("bytes", hexDocument content)]
  | .plain _ _ => .table [("plain", .int 1)]
  | .enumerator _ name number => .table [("member", .text name), ("value", .int number)]

def itemDocuments (session : Session) : List Value → List Document
  | [] => []
  | item :: rest => session.document item :: session.itemDocuments rest

end

end Session

end EngineBridge
