import EngineBridge.Proofs.Call.Scratch
import EngineBridge.Session.Arguments

/-!
What arguments are stored as.

`Attached.stored` says how a value is stored for a step of a plan, without the steps in which that
is done. Storing an argument makes at most one scratch value; declared and extra arguments are
stored one after the other in the same way.
-/

namespace EngineBridge

open Bridge

variable {α β : Type} {name : String}

/-- How one argument is stored for a call. -/
inductive Stored where
  /-- In a boxed value that is made for the call. -/
  | boxed (typeNumber : Int) (content : Held)
  /-- In a native string that is made for the call. -/
  | string (text : String)
  /-- In bytes at hand. -/
  | bytes (content : List UInt8)
  | handle (value : Value)

namespace Stored

/-- What is passed for an argument, given the number of what was made for it. -/
def operand : Stored → Int → Operand
  | .boxed typeNumber _, number => .address (Payload.mk typeNumber number 0).bytes
  | .string _, number => .address (Number.wordBytes number)
  | .bytes content, _ => .address content
  | .handle value, _ => .handle value

/-- What is made for an argument. -/
def scratch : Stored → Int → List Resource
  | .boxed typeNumber content, number => [.slot number typeNumber content]
  | .string text, number => [.string number text]
  | .bytes _, _ | .handle _, _ => []

end Stored

namespace Attached

/-- The text that is passed for a value. -/
def crossingText (place : Attached name) : Value → Except Failure String
  | .text text => .ok text
  | .nativeString reference => do
      return place.engine.stringAt (← place.session.liveString reference)
  | _ => .error .noSuchField

/-- The bytes of a value that is passed by its address. -/
def contentBytes (place : Attached name) : Value → Except Failure (List UInt8)
  | .variant reference =>
      match place.session.variants[reference]? with
      | some cell => .ok cell.payload.bytes
      | none => .error .noSuchKey
  | .nativeString reference =>
      match place.session.strings[reference]? with
      | some cell => .ok (Number.wordBytes cell.string)
      | none => .error .noSuchKey
  | other =>
      match other.content? with
      | some content => .ok content
      | none => .error .noSuchField

/-- How a value is stored in a box of its own. -/
def inBox (place : Attached name) (value : Value) : Except Failure Stored := do
  let (typeNumber, content) ← place.boxed value
  return .boxed typeNumber content

/-- How a value is stored that is passed by its address. -/
def addressed (place : Attached name) (typeClass : TypeClass) (value : Value) :
    Except Failure Stored :=
  match typeClass, value with
  | .primitive typeName _, value => do
      return .bytes (← nativeBytes (TypeClass.primitiveForm typeName) value)
  | .builtin typeName _, .variant reference => do
      if typeName = variantType then return .bytes (← place.session.livePayload reference).bytes
      else return .bytes (← place.contentBytes (.variant reference))
  | .builtin typeName _, other => do
      if typeName = variantType then place.inBox other
      else return .bytes (← place.contentBytes other)
  | _, other => do return .bytes (← place.contentBytes other)

/-- How a value is stored for a step of a plan. -/
def stored (place : Attached name) (step : ArgumentStep) (value : Value) : Except Failure Stored :=
  match step.storage with
  | .variantBox => place.inBox (step.crossing value)
  | .nativeString => do return .string (← place.crossingText value)
  | .scratchCopy => do return .bytes (Number.wordBytes (← (step.crossing value).toInt))
  | .handle =>
      match value with
      | .nothing => .ok (.handle .nothing)
      | other => do return .handle (← other.handle)
  | .address => place.addressed step.typeClass value

end Attached

namespace Bridge

/-- A stage that stores an argument as it should be stored. -/
inductive Stores (stage : Stage Operand) (place : Attached name) :
    Except Failure Stored → Prop
  | ok {stored : Stored} {number : Int} {after : Attached name}
      (prepares : Prepares stage place (stored.operand number) after (stored.scratch number) 2) :
      Stores stage place (.ok stored)
  | error {failure : Failure} {after : Attached name}
      (declines : Declines stage place failure after 2) : Stores stage place (.error failure)

/-- The stage that boxes a value. -/
def boxStage (value : Value) : Stage Operand :=
  fun _ use => withBoxed value fun payload => use (.address payload.bytes)

theorem boxStage_stores (place : Attached name) (value : Value) :
    Stores (boxStage value) place (place.inBox value) := by
  have boxes := box_boxes place value
  unfold Attached.inBox
  generalize place.boxed value = content at boxes
  cases boxes with
  | error yields =>
      exact .error ⟨fun _ _ => runFrom_bind_of_error yields.ran _, yields.leaves, yields.quiet,
        yields.keeps⟩
  | @ok typeNumber number content after yields =>
      have prepares : Prepares (boxStage value) place
          (Stored.operand (.boxed typeNumber content) number) after
          (Stored.scratch (.boxed typeNumber content) number) 2 :=
        ⟨fun _ _ => runFrom_bind_of_ok yields.ran _, yields.leaves, yields.quiet, yields.keeps⟩
      exact .ok prepares

/-- The stage that makes a native string of a text. -/
def stringStage (text : Bridge String) : Stage Operand :=
  fun _ use => do withString (← text) fun string => use (.address (Number.wordBytes string))

theorem stringStage_stores {place middle : Attached name} {text : Bridge String}
    {outcome : Except Failure String} (found : text.Yields place outcome middle [] 0) :
    Stores (stringStage text) place (do return .string (← outcome)) := by
  cases outcome with
  | error failure =>
      exact .error ⟨fun _ _ => runFrom_bind_of_error found.ran _, found.leaves.weaken (by omega),
        found.quiet, found.keeps⟩
  | ok content =>
      rcases stringNew_yields middle content with ⟨after, made⟩
      have leaves := found.leaves.trans made.leaves
      have prepares : Prepares (stringStage text) place
          (Stored.operand (.string content) middle.engine.next) after
          (Stored.scratch (.string content) middle.engine.next) 2 :=
        ⟨fun _ _ => (runFrom_bind_of_ok found.ran _).trans (runFrom_bind_of_ok made.ran _),
          leaves.weaken (by omega), found.quiet.trans made.quiet, found.keeps.trans made.keeps⟩
      exact .ok prepares

/-- Something that is found without leaving anything, and passed in a form of its own. -/
theorem found_stores {place middle : Attached name} {operation : Bridge β}
    {outcome : Except Failure β} (found : operation.Yields place outcome middle [] 0)
    (form : β → Stored) (pass : β → Operand)
    (passed : ∀ value, (form value).operand 0 = pass value ∧ (form value).scratch 0 = []) :
    Stores ((Stage.ofOperation operation).map pass) place (do return form (← outcome)) := by
  cases outcome with
  | error failure =>
      have declines := (Declines.of_yields found).map pass
      exact .error { declines with leaves := declines.leaves.weaken (Nat.zero_le 2) }
  | ok value =>
      have prepares := (Prepares.of_yields found).map pass
      rw [← (passed value).1, ← (passed value).2] at prepares
      exact .ok { prepares with leaves := prepares.leaves.weaken (Nat.zero_le 2) }

/-- Bytes that are found without leaving anything. -/
theorem address_stores {place middle : Attached name} {operation : Bridge β}
    {outcome : Except Failure β} (found : operation.Yields place outcome middle [] 0)
    (bytes : β → List UInt8) :
    Stores ((Stage.ofOperation operation).map fun value => .address (bytes value)) place
      (do return .bytes (bytes (← outcome))) :=
  found_stores found (fun value => .bytes (bytes value)) _ fun _ => ⟨rfl, rfl⟩

theorem crossingText_yields (place : Attached name) (value : Value) :
    ∃ after : Attached name, (crossingText value).Yields place (place.crossingText value) after
      [] 0 := by
  cases value with
  | text text => exact ⟨place, .of_unchanged rfl⟩
  | nativeString reference =>
      have looked : (liveString reference).Yields place (place.session.liveString reference) place
          [] 0 := .of_unchanged (liveString_run reference place.session)
      have spec : place.crossingText (.nativeString reference) =
          (place.session.liveString reference).map place.engine.stringAt := by
        rw [Attached.crossingText]
        cases place.session.liveString reference <;> rfl
      rw [spec]
      cases live : place.session.liveString reference with
      | error failure =>
          rw [live] at looked
          exact ⟨place, looked.bind_error⟩
      | ok string =>
          rw [live] at looked
          rcases readString_yields place string with ⟨after, read⟩
          exact ⟨after, looked.nothing_bind read⟩
  | _ => exact ⟨place, .of_unchanged rfl⟩

theorem contentBytes_yields (place : Attached name) (value : Value) :
    (contentBytes value).Yields place (place.contentBytes value) place [] 0 := by
  apply Yields.of_unchanged
  cases value with
  | variant reference =>
      simp only [contentBytes, Attached.contentBytes]
      rw [runFrom_bind, variantCell_run]
      cases place.session.variants[reference]? <;> rfl
  | nativeString reference =>
      simp only [contentBytes, Attached.contentBytes]
      rw [runFrom_bind, stringCell_run]
      cases place.session.strings[reference]? <;> rfl
  | _ => rfl

theorem lift_yields (place : Attached name) (outcome : Except Failure β) :
    (liftM outcome : Bridge β).Yields place outcome place [] 0 :=
  .of_unchanged (runFrom_lift outcome place.session)

theorem livePayload_yields (place : Attached name) (reference : Nat) :
    (livePayload reference).Yields place (place.session.livePayload reference) place [] 0 :=
  .of_unchanged (livePayload_run reference place.session)

private theorem withAddress_stores (place : Attached name) (typeClass : TypeClass)
    (value : Value) :
    Stores (fun _ use => withAddress typeClass value use) place
      (place.addressed typeClass value) := by
  cases typeClass with
  | primitive typeName metadata =>
      cases value <;> exact address_stores (lift_yields place _) fun bytes => bytes
  | builtin typeName size =>
      by_cases boxed : typeName = variantType
      · cases value with
        | variant reference =>
            simp only [withAddress, Attached.addressed, if_pos boxed]
            exact address_stores (livePayload_yields place reference) Payload.bytes
        | _ =>
            simp only [withAddress, Attached.addressed, if_pos boxed]
            exact boxStage_stores place _
      · cases value <;> simp only [withAddress, Attached.addressed, if_neg boxed] <;>
          exact address_stores (contentBytes_yields place _) fun bytes => bytes
  | _ => exact address_stores (contentBytes_yields place value) fun bytes => bytes

/-- The stage that stores an argument. -/
def argumentStage (step : ArgumentStep) (value : Value) : Stage Operand :=
  fun _ use => withArgument step value use

/-- An argument is stored as it should be. -/
theorem argumentStage_stores (place : Attached name) (step : ArgumentStep) (value : Value) :
    Stores (argumentStage step value) place (place.stored step value) := by
  unfold argumentStage withArgument Attached.stored
  cases step.storage with
  | variantBox => exact boxStage_stores place _
  | nativeString =>
      rcases crossingText_yields place value with ⟨after, found⟩
      exact stringStage_stores found
  | scratchCopy => exact address_stores (lift_yields place _) Number.wordBytes
  | handle =>
      cases value with
      | nothing =>
          exact found_stores (lift_yields place (.ok ())) (fun _ => .handle .nothing) _
            fun _ => ⟨rfl, rfl⟩
      | _ =>
          exact found_stores (lift_yields place _) Stored.handle Operand.handle
            fun _ => ⟨rfl, rfl⟩
  | address => exact withAddress_stores place step.typeClass value

end Bridge

/-! All arguments of a call, the declared and the extra ones, cross in the same way. -/

/-- An argument on its way into the engine, with what it should be stored as. -/
structure Crossing (name : String) where
  stage : Stage Operand
  stored : Attached name → Except Failure Stored
  stores : ∀ place, Stores stage place (stored place)

namespace Crossing

def argument (name : String) (step : ArgumentStep) (value : Value) : Crossing name :=
  ⟨argumentStage step value, fun place => place.stored step value,
    fun place => argumentStage_stores place step value⟩

def extra (name : String) (value : Value) : Crossing name :=
  ⟨boxStage value, fun place => place.inBox value, fun place => boxStage_stores place value⟩

/-- Cross one after the other. -/
def all : List (Crossing name) → Stage (List Operand)
  | [] => fun _ use => use []
  | first :: rest => first.stage.andThen fun operand => (all rest).map (operand :: ·)

/-- The crossings of a call. -/
def ofCall (name : String) (steps : List ArgumentStep) (declared extras : List Value) :
    List (Crossing name) :=
  List.zipWith (argument name) steps declared ++ extras.map (extra name)

private theorem all_extras (extras : List Value) (use : List Operand → Bridge α) :
    all (extras.map (extra name)) α use = withExtras extras use := by
  induction extras generalizing use with
  | nil => rfl
  | cons value rest induction =>
      simp only [List.map_cons, all, withExtras, Stage.andThen, Stage.map, induction]
      rfl

/-- The arguments of a call are stored one after the other. -/
theorem all_ofCall (steps : List ArgumentStep) (declared extras : List Value)
    (use : List Operand → Bridge α) :
    all (ofCall name steps declared extras) α use =
      withArguments steps declared fun operands => withExtras extras fun more =>
        use (operands ++ more) := by
  induction steps generalizing declared use with
  | nil => exact (all_extras extras use)
  | cons step steps induction =>
      cases declared with
      | nil => exact all_extras extras use
      | cons value values =>
          simp only [ofCall] at induction
          simp only [ofCall, List.zipWith_cons_cons, List.cons_append, all, withArguments,
            Stage.andThen, Stage.map, induction]
          rfl

/-- How all that crosses is stored, one after the other: each as it should be where the call has come
to by then. The scratch values stand in the order of their releases, the last first. -/
inductive Marshals :
    List (Crossing name) → Attached name → List Operand → List Resource → Attached name → Prop
  | nil (place : Attached name) : Marshals [] place [] [] place
  | cons {crossing : Crossing name} {rest : List (Crossing name)} {start middle after : Attached name}
      {stored : Stored} {number : Int} {operands : List Operand} {scratch : List Resource}
      (found : crossing.stored start = .ok stored)
      (prepares : Prepares crossing.stage start (stored.operand number) middle
        (stored.scratch number) 2)
      (others : Marshals rest middle operands scratch after) :
      Marshals (crossing :: rest) start (stored.operand number :: operands)
        (scratch ++ stored.scratch number) after

/-- How the storing of all that crosses ends at the first that cannot be stored. -/
inductive Stops : List (Crossing name) → Attached name → Failure → Prop
  | here {crossing : Crossing name} {start : Attached name} {failure : Failure}
      (refused : crossing.stored start = .error failure) (rest : List (Crossing name)) :
      Stops (crossing :: rest) start failure
  | later {crossing : Crossing name} {rest : List (Crossing name)} {start middle : Attached name}
      {stored : Stored} {number : Int} {failure : Failure}
      (found : crossing.stored start = .ok stored)
      (prepares : Prepares crossing.stage start (stored.operand number) middle
        (stored.scratch number) 2)
      (stops : Stops rest middle failure) : Stops (crossing :: rest) start failure

theorem marshals_or_stops (crossings : List (Crossing name)) (start : Attached name) :
    (∃ operands scratch after, Marshals crossings start operands scratch after) ∨
      ∃ failure, Stops crossings start failure := by
  induction crossings generalizing start with
  | nil => exact .inl ⟨[], [], start, .nil start⟩
  | cons first rest induction =>
      have stores := first.stores start
      cases found : first.stored start with
      | error failure => exact .inr ⟨failure, .here found rest⟩
      | ok stored =>
          rw [found] at stores
          cases stores with
          | @ok _ number middle prepares =>
              rcases induction middle with ⟨operands, scratch, after, others⟩ | ⟨failure, stops⟩
              · exact .inl ⟨_, _, after, .cons found prepares others⟩
              · exact .inr ⟨failure, .later found prepares stops⟩

theorem Marshals.prepares {crossings : List (Crossing name)} {start after : Attached name}
    {operands : List Operand} {scratch : List Resource}
    (marshals : Marshals crossings start operands scratch after) :
    Prepares (all crossings) start operands after scratch (2 * crossings.length) := by
  induction marshals with
  | nil place => exact ⟨fun _ _ => rfl, .refl _, .refl _, .refl _ _⟩
  | @cons crossing rest _ _ _ stored number _ _ found prepares others induction =>
      have fits : 2 + 2 * rest.length ≤ 2 * (rest.length + 1) := by omega
      exact prepares.andThen (induction.map (stored.operand number :: ·)) fits

/-- What has crossed is stored as it should be where the call had come to by then. -/
theorem Marshals.of_getElem? {crossings : List (Crossing name)} {start after : Attached name}
    {operands : List Operand} {scratch : List Resource}
    (marshals : Marshals crossings start operands scratch after) {index : Nat}
    {crossing : Crossing name} (stands : crossings[index]? = some crossing) :
    ∃ place stored number, crossing.stored place = .ok stored ∧
      operands[index]? = some (stored.operand number) ∧
      ∀ resource ∈ stored.scratch number, resource ∈ scratch := by
  induction marshals generalizing index with
  | nil place => cases stands
  | @cons first rest start middle after stored number operands scratch found prepares others
      induction =>
      cases index with
      | zero =>
          cases stands
          exact ⟨start, stored, number, found, rfl, fun _ => List.mem_append_right _⟩
      | succ index =>
          obtain ⟨place, other, given, later, placed, listed⟩ := induction stands
          exact ⟨place, other, given, later, placed, fun resource mem =>
            List.mem_append_left _ (listed resource mem)⟩

/-- Where something cannot be stored, nothing is left of what was stored before it. -/
theorem Stops.declines {crossings : List (Crossing name)} {start : Attached name}
    {failure : Failure} (stops : Stops crossings start failure) :
    ∃ after, Declines (all crossings) start failure after (2 * crossings.length) := by
  induction stops with
  | @here crossing start failure refused rest =>
      have stores := crossing.stores start
      rw [refused] at stores
      cases stores with
      | error declines =>
          have fewer : 2 ≤ 2 * (rest.length + 1) := by omega
          exact ⟨_, declines.andThen _ fewer⟩
  | @later crossing rest _ _ stored number _ found prepares stops induction =>
      have fits : 2 + 2 * rest.length ≤ 2 * (rest.length + 1) := by omega
      obtain ⟨after, declines⟩ := induction
      exact prepares.andThen_declines (declines.map (stored.operand number :: ·)) fits

/-- How operands and scratch values belong to what arguments are stored as. The scratch values stand
in the order of their releases, the last first. -/
inductive Carries : List Stored → List Operand → List Resource → Prop
  | nil : Carries [] [] []
  | cons {stored : Stored} {others : List Stored} {operands : List Operand}
      {scratch : List Resource} (number : Int) (rest : Carries others operands scratch) :
      Carries (stored :: others) (stored.operand number :: operands)
        (scratch ++ stored.scratch number)

/-- Arguments that are known to be stored in certain ways, wherever the call has come to, are all
stored in these ways. -/
theorem all_carries {crossings : List (Crossing name)} {start : Attached name}
    {expected : List Stored}
    (agree : ∀ later, start.Reaches later (2 * crossings.length) →
      crossings.map (fun crossing => crossing.stored later) = expected.map .ok) :
    ∃ operands after scratch, Prepares (all crossings) start operands after scratch
      (2 * crossings.length) ∧ Carries expected operands scratch := by
  induction crossings generalizing start expected with
  | nil =>
      have nothing : expected = [] := by
        have none := agree start (.refl start _)
        cases expected with
        | nil => rfl
        | cons => cases none
      exact ⟨[], start, [], ⟨fun _ _ => rfl, .refl _, .refl _, .refl _ _⟩, nothing ▸ .nil⟩
  | cons first rest induction =>
      have here := agree start (.refl start _)
      cases expected with
      | nil => cases here
      | cons wanted others =>
          rw [List.map_cons, List.map_cons, List.cons.injEq] at here
          have stores := first.stores start
          rw [here.1] at stores
          cases stores with
          | @ok _ number middle prepares =>
              have fits : 2 + 2 * rest.length ≤ 2 * (rest.length + 1) := by omega
              have reached : start.Reaches middle 2 := ⟨⟨_, prepares.leaves⟩, prepares.keeps⟩
              obtain ⟨operands, after, scratch, next, carried⟩ := induction fun later more => by
                have there := agree later (reached.trans more fits)
                rw [List.map_cons, List.map_cons, List.cons.injEq] at there
                exact there.2
              exact ⟨_, after, _, prepares.andThen (next.map (wanted.operand number :: ·)) fits,
                .cons number carried⟩

end Crossing

end EngineBridge
