import EngineBridge.Engine.Slots
import EngineBridge.Session.Tables

/-!
The numbers of types, and the places of types in the function tables.
-/

namespace EngineBridge

namespace GType

@[simp] theorem ofNumber?_number (gtype : GType) : ofNumber? gtype.number = some gtype := by
  cases gtype <;> rfl

private theorem map_number_all : all.map number = List.range 40 := by
  decide

theorem number_of_ofNumber? {number : Int} {gtype : GType}
    (found : ofNumber? number = some gtype) : number = gtype.number := by
  unfold ofNumber? at found
  split at found
  case isFalse => cases found
  case isTrue nonnegative =>
    have placed : (all.map GType.number)[number.toNat]? = some gtype.number := by
      rw [List.getElem?_map, found]
      rfl
    rw [map_number_all, List.getElem?_range] at placed
    · have same := Option.some.inj placed
      omega
    · exact (List.getElem?_eq_some_iff.mp found).1

end GType

namespace FunctionTables

section

variable {routines : List (Option Routine)} {complaint : String → BrokenInvariant}
  {routine : Routine}

/-- The routine that stands at a place of a table. -/
theorem routineAt_eq_ok_iff {typeNumber : Int} :
    routineAt routines complaint typeNumber = .ok routine ↔
      0 ≤ typeNumber ∧ routines[typeNumber.toNat]? = some (some routine) := by
  unfold routineAt
  by_cases nonnegative : 0 ≤ typeNumber
  · rw [if_pos nonnegative]
    rcases routines[typeNumber.toNat]? with _ | _ | present
    · cases GType.ofNumber? typeNumber <;> simp
    · cases GType.ofNumber? typeNumber <;> simp
    · simp [nonnegative]
  · rw [if_neg nonnegative]
    cases GType.ofNumber? typeNumber <;> simp [nonnegative]

end

/-- Every routine of the tables of an engine belongs to this engine. -/
theorem engine_of_fromRoutine {engine : String} {answers : List (Option GType)} {typeNumber : Int}
    {routine : Routine} (found : (ofAnswers engine answers).fromRoutine typeNumber = .ok routine) :
    routine.engine = engine := by
  have member := List.mem_of_getElem? (routineAt_eq_ok_iff.mp found).2
  simp only [ofAnswers, List.mem_cons, List.mem_map, reduceCtorEq, false_or] at member
  rcases member with ⟨gtype?, -, made⟩
  cases gtype? with
  | none => cases made
  | some gtype =>
      cases made
      rfl

private theorem getElem?_constructible {gtype : GType} (notNil : gtype ≠ .nil)
    (notMax : gtype ≠ .max) :
    ∃ place, gtype.number = place + 1 ∧ GType.constructible[place]? = some gtype := by
  cases gtype with
  | nil => exact absurd rfl notNil
  | max => exact absurd rfl notMax
  | _ => exact ⟨_, rfl, rfl⟩

/-- At the number of a type the tables have what the engine answered for this type. -/
theorem getElem?_ofAnswers {engine : String} {gtype : GType} (notNil : gtype ≠ .nil)
    (notMax : gtype ≠ .max) (answer : GType → Option GType) :
    (ofAnswers engine (GType.constructible.map answer)).fromType[gtype.number]? =
      some ((answer gtype).map fun found => ⟨engine, found⟩) := by
  rcases getElem?_constructible notNil notMax with ⟨place, number, placed⟩
  rw [number]
  simp only [ofAnswers, List.getElem?_cons_succ, List.getElem?_map, placed, Option.map_some]

/-- The routine of a type is the one that the engine gave out, if it has one. -/
theorem routineAt_number {engine : String} {gtype : GType} (notNil : gtype ≠ .nil)
    (notMax : gtype ≠ .max) (answer : GType → Option GType)
    (complaint : String → BrokenInvariant) :
    routineAt (ofAnswers engine (GType.constructible.map answer)).fromType complaint
        gtype.number =
      match answer gtype with
      | some found => .ok ⟨engine, found⟩
      | none => .error (.invariant (complaint gtype.name)) := by
  have placed := @getElem?_ofAnswers engine gtype notNil notMax answer
  unfold routineAt
  rw [if_pos (by omega), Int.toNat_natCast, placed, GType.ofNumber?_number]
  cases answer gtype <;> rfl

end FunctionTables

namespace Engine

/-- The function tables that an engine of a name gives out. -/
def functionTables (engine : Engine) (name : String) : FunctionTables :=
  .ofAnswers name (GType.constructible.map fun gtype =>
    if engine.missing.contains (gtype.number : Int) then none else some gtype)

variable {engine : Engine} {name : String} {gtype : GType}

theorem fromRoutine_number (notNil : gtype ≠ .nil) (notMax : gtype ≠ .max) :
    (engine.functionTables name).fromRoutine gtype.number =
      if engine.missing.contains (gtype.number : Int)
        then .error (.invariant (.noFromType gtype.name)) else .ok ⟨name, gtype⟩ := by
  refine (FunctionTables.routineAt_number notNil notMax _ _).trans ?_
  cases engine.missing.contains (gtype.number : Int) <;> rfl

theorem toRoutine_number (notNil : gtype ≠ .nil) (notMax : gtype ≠ .max) :
    (engine.functionTables name).toRoutine gtype.number =
      if engine.missing.contains (gtype.number : Int)
        then .error (.invariant (.noToType gtype.name)) else .ok ⟨name, gtype⟩ := by
  refine (FunctionTables.routineAt_number notNil notMax _ _).trans ?_
  cases engine.missing.contains (gtype.number : Int) <;> rfl

end Engine

end EngineBridge
