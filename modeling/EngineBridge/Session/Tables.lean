import EngineBridge.Session.Basic

/-!
The function tables of the installed engine.

The tables are resolved when they are first needed and kept until another engine is installed. A
type without a routine is refused when the routine is needed, not before.
-/

namespace EngineBridge

namespace FunctionTables

/-- Tables in which an engine's answers stand behind the empty place of nil. -/
def ofAnswers (engine : String) (answers : List (Option GType)) : FunctionTables :=
  let routines := none :: answers.map fun gtype? => gtype?.map fun gtype => ⟨engine, gtype⟩
  ⟨routines, routines⟩

/-- The routine at a type number, or the failure that a missing one is. -/
def routineAt (routines : List (Option Routine)) (missing : String → BrokenInvariant)
    (typeNumber : Int) : Except Failure Routine :=
  let found? := if 0 ≤ typeNumber then (routines[typeNumber.toNat]?).join else none
  match found?, GType.ofNumber? typeNumber with
  | some routine, _ => .ok routine
  | none, some gtype => .error (.invariant (missing gtype.name))
  | none, none => .error .unreadable

/-- The number of a type that the tables are asked for. A fraction, and a whole number that is
written as one, has no place in the tables; beyond their ends it may still name a type. -/
def typeNumber : Document → Except Failure Int
  | .int number => .ok number
  | .bool value => .ok (if value then 1 else 0)
  | .float value =>
      if 0 ≤ value && value < Float.ofInt GType.max.number then .error .wrongShape
      else match Number.exactInt? value with
        | some number => .ok number
        | none => .error .unreadable
  | _ => .error .wrongShape

def fromRoutine (tables : FunctionTables) (typeNumber : Int) : Except Failure Routine :=
  routineAt tables.fromType .noFromType typeNumber

def toRoutine (tables : FunctionTables) (typeNumber : Int) : Except Failure Routine :=
  routineAt tables.toType .noToType typeNumber

end FunctionTables

namespace Bridge

def tablesRecord (tables : FunctionTables) : Log.Record :=
  Log.Record.plain Log.Level.debug "gdmarshal.variant.tables" "tables"
    ("Resolved " ++ Number.writeInt (tables.fromType.length - 1) ++ " Variant constructor pairs")

/-- The tables of the installed engine, resolved if they are not known. -/
def functionTables : Bridge FunctionTables := do
  match (← get).tables with
  | some tables => return tables
  | none => do
      let engine ← installedEngine
      let tables := FunctionTables.ofAnswers engine (← native Native.lookUpConstructors)
      emit (tablesRecord tables)
      modify fun session => { session with tables := some tables }
      return tables

/-- The number of a type that is asked for, once there are tables to ask. -/
def askedType (given : Document) : Bridge Int := do
  let _ ← functionTables
  FunctionTables.typeNumber given

end Bridge

end EngineBridge
