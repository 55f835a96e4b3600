import EngineBridge.Proofs.Session.Strings
import EngineBridge.Session.Variants

/-!
What boxing a value comes to.

`Attached.boxed` says what a value is boxed as, without any of the steps in which that is done. A
value that is boxed takes one slot, and one that cannot be boxed takes nothing.
-/

namespace EngineBridge

open Bridge

variable {α : Type} {name : String}

namespace Session

/-- The payload of an owner that has not released it. -/
def livePayload (session : Session) (reference : Nat) : Except Failure Payload :=
  match session.variants[reference]? with
  | some cell =>
      if cell.isAlive then .ok cell.payload else .error (.lifetime .variantUsedAfterDestroy)
  | none => .error .noSuchKey

theorem livePayload_of_isAlive {session : Session} {reference : Nat} {cell : VariantCell}
    (found : session.variants[reference]? = some cell) (alive : cell.isAlive = true) :
    session.livePayload reference = .ok cell.payload := by
  rw [livePayload, found]
  exact if_pos alive

/-- The native string of an owner that has not released it. -/
def liveString (session : Session) (reference : Nat) : Except Failure Int :=
  match session.strings[reference]? with
  | some cell =>
      if cell.isAlive then .ok cell.string else .error (.lifetime .stringUsedAfterDestroy)
  | none => .error .noSuchKey

/-- The type and the native form of a value. Only an owner of a native string needs the session. -/
def typedSource (session : Session) : Value → Except Failure (GType × List UInt8)
  | .nativeString reference => do
      return (.string, Number.wordBytes (← session.liveString reference))
  | other => (runFrom (Bridge.typedSource other) Session.empty).1

namespace Keeps

variable {before after : Session}

theorem livePayload (keeps : before.Keeps after name) (reference : Nat) :
    after.livePayload reference = before.livePayload reference := by
  rw [Session.livePayload, keeps.variants, Session.livePayload]

theorem liveString (keeps : before.Keeps after name) (reference : Nat) :
    after.liveString reference = before.liveString reference := by
  rw [Session.liveString, keeps.strings, Session.liveString]

theorem typedSource (keeps : before.Keeps after name) (value : Value) :
    after.typedSource value = before.typedSource value := by
  cases value with
  | nativeString reference => simp only [Session.typedSource, keeps.liveString reference]
  | _ => rfl

end Keeps

end Session

namespace Attached

/-- The function tables of the installed engine. -/
def functionTables (place : Attached name) : FunctionTables :=
  place.engine.functionTables name

/-- What a value is boxed as that is given in native form. -/
def boxedTyped (place : Attached name) (value : Value) : Except Failure (Int × Held) := do
  let (gtype, source) ← place.session.typedSource value
  let routine ← place.functionTables.fromRoutine gtype.number
  return (routine.gtype.number, Native.readTyped place.engine routine.gtype source)

/-- What a copy of a payload holds. -/
def copied (place : Attached name) (payload : Payload) : Except Failure (Int × Held) :=
  match place.engine.content? payload.slot with
  | some content => .ok content
  | none => .error (Native.deadSlot payload.slot)

/-- The type and the content with which a value is boxed, or the failure in which that ends. -/
def boxed (place : Attached name) (value : Value) : Except Failure (Int × Held) :=
  match value with
  | .nothing => .ok (GType.nil.number, .nothing)
  | .variant reference => do place.copied (← place.session.livePayload reference)
  | .text text => do
      let routine ← place.functionTables.fromRoutine GType.string.number
      return (routine.gtype.number, Native.readTyped
        (place.engine.withString text) routine.gtype (Number.wordBytes place.engine.next))
  | other => place.boxedTyped other

end Attached

namespace Bridge

/-! Looking an owner up changes nothing. -/

theorem variantCell_run (reference : Nat) (session : Session) :
    runFrom (variantCell reference) session =
      ((session.variants[reference]?).elim (.error .noSuchKey) .ok, session) := by
  unfold variantCell
  rw [runFrom_bind_of_ok (runFrom_get session)]
  cases session.variants[reference]? <;> rfl

theorem stringCell_run (reference : Nat) (session : Session) :
    runFrom (stringCell reference) session =
      ((session.strings[reference]?).elim (.error .noSuchKey) .ok, session) := by
  unfold stringCell
  rw [runFrom_bind_of_ok (runFrom_get session)]
  cases session.strings[reference]? <;> rfl

theorem livePayload_run (reference : Nat) (session : Session) :
    runFrom (livePayload reference) session = (session.livePayload reference, session) := by
  unfold livePayload Session.livePayload
  rw [runFrom_bind, variantCell_run]
  cases session.variants[reference]? with
  | none => rfl
  | some cell =>
      simp only [Option.elim_some]
      cases cell.isAlive <;> rfl

theorem liveString_run (reference : Nat) (session : Session) :
    runFrom (liveString reference) session = (session.liveString reference, session) := by
  unfold liveString Session.liveString
  rw [runFrom_bind, stringCell_run]
  cases session.strings[reference]? with
  | none => rfl
  | some cell =>
      simp only [Option.elim_some]
      cases cell.isAlive <;> rfl

theorem typedSource_run (value : Value) (session : Session) :
    runFrom (typedSource value) session = (session.typedSource value, session) := by
  unfold Session.typedSource typedSource
  cases value with
  | nativeString reference =>
      simp only
      rw [runFrom_bind, liveString_run]
      cases session.liveString reference <;> rfl
  | opaqueValue typeName content =>
      simp only
      rw [runFrom_bind, runFrom_lift, runFrom_bind, runFrom_lift]
      cases GType.ofTypeName typeName <;> rfl
  | object className handle =>
      simp only
      cases handle.integer? <;> rfl
  | _ => rfl

/-! A value is boxed as it should be, or nothing is left. -/

/-- Boxing a value that is given in native form. -/
def boxTyped (value : Value) : Bridge Payload := do
  let tables ← functionTables
  let (gtype, source) ← typedSource value
  construct tables gtype source

theorem construct_yields {place : Attached name} {tables : FunctionTables} {gtype : GType}
    {routine : Routine} (own : tables = place.functionTables)
    (found : tables.fromRoutine gtype.number = .ok routine) (source : List UInt8) :
    ∃ after : Attached name, (construct tables gtype source).Yields place
      (.ok ⟨routine.gtype.number, place.engine.next, 0⟩) after
      [.slot place.engine.next routine.gtype.number
        (Native.readTyped place.engine routine.gtype source)] 1 := by
  have named : routine.engine = name := by
    rw [own] at found
    exact FunctionTables.engine_of_fromRoutine found
  rcases nativeOn_yields (Native.fromType_yields place.engine routine.gtype source)
      with ⟨after, -, made⟩
  refine ⟨after, { made with ran := ?_ }⟩
  have looked : runFrom (liftM (tables.fromRoutine gtype.number) : Bridge Routine) place.session =
      (.ok routine, place.session) := by rw [runFrom_lift, found]
  unfold construct
  rw [runFrom_bind_of_ok looked, named, made.ran]

theorem construct_of_error {place : Attached name} {tables : FunctionTables} {gtype : GType}
    {failure : Failure} (refused : tables.fromRoutine gtype.number = .error failure)
    (source : List UInt8) :
    (construct tables gtype source).Yields place (.error failure) place [] 0 := by
  apply Yields.of_unchanged
  unfold construct
  rw [refused]
  rfl

/-- A native form is read the same wherever the native strings are the same. -/
theorem readTyped_congr {before after : Engine} (same : after.strings = before.strings)
    (gtype : GType) (source : List UInt8) :
    Native.readTyped after gtype source = Native.readTyped before gtype source := by
  cases gtype <;> simp only [Native.readTyped, Engine.stringAt, same]

/-- An operation that boxes as it should: a success leaves one slot with the content, and a
failure leaves nothing. -/
inductive Boxes (operation : Bridge Payload) (place : Attached name) :
    Except Failure (Int × Held) → Prop
  | ok {typeNumber number : Int} {content : Held} {after : Attached name}
      (yields : operation.Yields place (.ok ⟨typeNumber, number, 0⟩) after
        [.slot number typeNumber content] 2) : Boxes operation place (.ok (typeNumber, content))
  | error {failure : Failure} {after : Attached name}
      (yields : operation.Yields place (.error failure) after [] 2) :
      Boxes operation place (.error failure)

private theorem functionTables_of_leaves {before after : Attached name} {left : List Resource}
    {numbers : Nat} (leaves : before.engine.Leaves after.engine left numbers) :
    after.functionTables = before.functionTables := by
  rw [Attached.functionTables, Engine.functionTables, leaves.register.missing]
  rfl

private theorem boxTyped_boxes (place : Attached name) (value : Value) :
    Boxes (boxTyped value) place (place.boxedTyped value) := by
  rcases functionTables_yields place with ⟨middle, known⟩
  have sourced : (typedSource value).Yields middle (place.session.typedSource value) middle []
      0 := by
    apply Yields.of_unchanged
    rw [typedSource_run, known.keeps.typedSource]
  cases given : place.session.typedSource value with
  | error failure =>
      rw [given] at sourced
      rw [Attached.boxedTyped, given]
      exact .error (known.nothing_bind (sourced.bind_error.weaken (Nat.zero_le 2)))
  | ok typed =>
      rcases typed with ⟨gtype, source⟩
      rw [given] at sourced
      rw [Attached.boxedTyped, given]
      simp only [bind, Except.bind]
      cases found : place.functionTables.fromRoutine gtype.number with
      | error failure =>
          have refused : (construct place.functionTables gtype source).Yields middle
            (.error failure) middle [] 2 := (construct_of_error found source).weaken (by omega)
          apply Boxes.error
          apply known.nothing_bind
          exact sourced.nothing_bind refused
      | ok routine =>
          rcases construct_yields (functionTables_of_leaves known.leaves).symm found source
              with ⟨after, made⟩
          rw [readTyped_congr known.leaves.strings] at made
          apply Boxes.ok
          apply known.nothing_bind
          exact sourced.nothing_bind (made.weaken (Nat.le_succ 1))

private theorem boxText_boxes (place : Attached name) (text : String) :
    Boxes (do
      let tables ← functionTables
      withString text fun string => construct tables .string (Number.wordBytes string)) place
      (place.boxed (.text text)) := by
  rcases functionTables_yields place with ⟨first, known⟩
  rcases stringNew_yields first text with ⟨second, made⟩
  unfold Attached.boxed
  cases found : place.functionTables.fromRoutine GType.string.number with
  | error failure =>
      have refused : (construct place.functionTables .string
          (Number.wordBytes first.engine.next)).Yields second (.error failure) second [] 0 :=
        construct_of_error found _
      have yields : ∃ after : Attached name, (withString text fun string =>
          construct place.functionTables .string (Number.wordBytes string)).Yields first
            (.error failure) after [] 2 := withString_yields made refused (by omega)
      rcases yields with ⟨after, yields⟩
      exact .error (known.nothing_bind yields)
  | ok routine =>
      have own : place.functionTables = second.functionTables := by
        rw [functionTables_of_leaves made.leaves, functionTables_of_leaves known.leaves]
      rcases construct_yields own found (Number.wordBytes first.engine.next) with ⟨third, boxed⟩
      have yields : ∃ after : Attached name, (withString text fun string =>
          construct place.functionTables .string (Number.wordBytes string)).Yields first
            (.ok ⟨routine.gtype.number, second.engine.next, 0⟩) after _ 2 :=
        withString_yields made boxed (by omega)
      rcases yields with ⟨after, yields⟩
      have same : Native.readTyped second.engine routine.gtype
          (Number.wordBytes first.engine.next) = Native.readTyped (place.engine.withString text)
            routine.gtype (Number.wordBytes place.engine.next) := by
        rw [known.leaves.next_eq]
        apply readTyped_congr
        rw [made.leaves.strings, known.leaves.strings, known.leaves.next_eq]
        rfl
      rw [same] at yields
      exact .ok (known.nothing_bind yields)

private theorem boxCopy_boxes (place : Attached name) (reference : Nat) :
    Boxes (do native (Native.newCopy (← livePayload reference))) place
      (place.boxed (.variant reference)) := by
  have looked : (livePayload reference).Yields place (place.session.livePayload reference) place
      [] 0 := .of_unchanged (livePayload_run reference place.session)
  have spec : place.boxed (.variant reference) =
      (place.session.livePayload reference).bind place.copied := rfl
  rw [spec]
  cases live : place.session.livePayload reference with
  | error failure =>
      rw [live] at looked
      exact .error (looked.bind_error.weaken (Nat.zero_le 2))
  | ok payload =>
      rw [live] at looked
      rw [Except.bind, Attached.copied]
      cases found : place.engine.content? payload.slot with
      | none =>
          rcases native_yields (Native.newCopy_of_none found) with ⟨after, -, copied⟩
          exact .error (looked.nothing_bind (copied.weaken (Nat.zero_le 2)))
      | some content =>
          rcases native_yields (Native.newCopy_yields found) with ⟨after, -, copied⟩
          exact .ok (looked.nothing_bind (copied.weaken (Nat.le_succ 1)))

private theorem Boxes.after_installedEngine {operation : Bridge Payload} {place : Attached name}
    {content : Except Failure (Int × Held)} (boxes : Boxes operation place content) :
    Boxes (installedEngine >>= fun _ => operation) place content := by
  cases boxes with
  | ok yields => exact .ok ((installedEngine_yields place).nothing_bind yields)
  | error yields => exact .error ((installedEngine_yields place).nothing_bind yields)

/-- Any value is boxed as it should be. -/
theorem box_boxes (place : Attached name) (value : Value) :
    Boxes (box value) place (place.boxed value) := by
  cases value with
  | nothing =>
      rcases native_yields (Native.newNil_yields place.engine) with ⟨after, -, made⟩
      exact Boxes.after_installedEngine (.ok (made.weaken (Nat.le_succ 1)))
  | variant reference => exact (boxCopy_boxes place reference).after_installedEngine
  | text text => exact (boxText_boxes place text).after_installedEngine
  | _ => exact (boxTyped_boxes place _).after_installedEngine

end Bridge

end EngineBridge
