import EngineBridge.Proofs.Engine.Actions
import EngineBridge.Proofs.Engine.Types

/-!
Sessions with the engine that is installed in them.

Everything that an operation does in the engine it does in the one that is installed.
`Bridge.Yields` says of an operation on such a session what `Native.Yields` says of an action on an
engine, and that the owners of the session stay as they are.
-/

namespace EngineBridge

namespace Engine

/-- Whether the next numbers are still words. Slots and strings are known by one word. -/
def HasRoom (engine : Engine) (count : Nat) : Prop :=
  engine.next + count ≤ Number.wordLimit

instance (engine : Engine) (count : Nat) : Decidable (engine.HasRoom count) :=
  inferInstanceAs (Decidable (_ ≤ _))

variable {before after : Engine} {left : List Resource} {numbers count more : Nat}

theorem HasRoom.weaken (room : before.HasRoom count) (fewer : more ≤ count) :
    before.HasRoom more := by
  unfold HasRoom at room ⊢
  omega

theorem HasRoom.isSignedWord (formed : before.Numbered) (room : before.HasRoom (count + 1)) :
    Number.IsSignedWord before.next := by
  have positive := formed.positive
  unfold HasRoom Number.wordLimit at room
  unfold Number.IsSignedWord Number.wordLimit
  omega

theorem Leaves.hasRoom (leaves : before.Leaves after left numbers)
    (room : before.HasRoom (numbers + more)) : after.HasRoom more := by
  have bounded := leaves.bounded
  unfold HasRoom at room ⊢
  omega

end Engine

/-- A session in which an engine is installed under a name. Tables that are known are those of this
engine. -/
structure Attached (name : String) where
  session : Session
  engine : Engine
  installed : session.installed = some name
  found : session.engines.get? name = some engine
  numbered : engine.Numbered
  tables : ∀ tables, session.tables = some tables → tables = engine.functionTables name

namespace Session

/-- The owners of a session and its other engines are the same before and after. -/
structure Keeps (before after : Session) (name : String) : Prop where
  variants : after.variants = before.variants
  strings : after.strings = before.strings
  others : ∀ other, other ≠ name → after.engines.get? other = before.engines.get? other

variable {first second third : Session} {name : String}

theorem Keeps.refl (session : Session) (name : String) : session.Keeps session name :=
  ⟨rfl, rfl, fun _ _ => rfl⟩

theorem Keeps.trans (left : first.Keeps second name) (right : second.Keeps third name) :
    first.Keeps third name where
  variants := right.variants.trans left.variants
  strings := right.strings.trans left.strings
  others other differs := (right.others other differs).trans (left.others other differs)

end Session

namespace Attached

variable {name : String}

/-- The session in which one engine was installed, and nothing else was done. -/
def ofEngine (name : String) (engine : Engine) (numbered : engine.Numbered) : Attached name where
  session := { Session.empty with engines := [(name, engine)], installed := some name }
  engine
  installed := rfl
  found := by rw [Entries.get?_cons, if_pos rfl]
  numbered
  tables := nofun

/-- The session in which an engine with one method was installed, and nothing else was done. -/
def ofMethod (name : String) (key : MethodKey) (script : NativeScript) : Attached name :=
  .ofEngine name ((Engine.fresh "Engine" [] none).addMethod key script).1
    ((Engine.numbered_fresh "Engine" [] none).addMethod key script)

/-- The session after some work in the engine. -/
def advance (place : Attached name) (engine : Engine) (numbered : engine.Numbered)
    (same : engine.missing = place.engine.missing) : Attached name where
  session := { place.session with engines := place.session.engines.put name engine }
  engine
  installed := place.installed
  found := Entries.get?_put_self name engine place.session.engines
  numbered
  tables tables known := by
    rw [place.tables tables known, Engine.functionTables, Engine.functionTables, same]

theorem keeps_advance (place : Attached name) (engine : Engine) (numbered : engine.Numbered)
    (same : engine.missing = place.engine.missing) :
    place.session.Keeps (place.advance engine numbered same).session name :=
  ⟨rfl, rfl, fun _ differs => Entries.get?_put_of_ne differs engine place.session.engines⟩

/-- The session once its tables are known. -/
def withTables (place : Attached name) (records : List Log.Record) {tables : FunctionTables}
    (own : tables = place.engine.functionTables name) : Attached name where
  session := { place.session with records, tables := some tables }
  engine := place.engine
  installed := place.installed
  found := place.found
  numbered := place.numbered
  tables other known := by
    cases known
    exact own

/-- The session with other owners. -/
def withOwners (place : Attached name) (variants : List VariantCell) (strings : List StringCell) :
    Attached name where
  session := { place.session with variants, strings }
  engine := place.engine
  installed := place.installed
  found := place.found
  numbered := place.numbered
  tables := place.tables

/-- The session with one more owner of a boxed value. -/
def withOwner (place : Attached name) (cell : VariantCell) : Attached name :=
  place.withOwners (place.session.variants ++ [cell]) place.session.strings

/-- Whether a session can come from another by work that gives out so many numbers at most. -/
structure Reaches (before after : Attached name) (numbers : Nat) : Prop where
  leaves : ∃ left, before.engine.Leaves after.engine left numbers
  keeps : before.session.Keeps after.session name

theorem Reaches.refl (place : Attached name) (numbers : Nat) : place.Reaches place numbers :=
  ⟨⟨[], (Engine.Leaves.refl place.engine).weaken (Nat.zero_le numbers)⟩, .refl place.session name⟩

theorem Reaches.trans {first second third : Attached name} {numbers more total : Nat}
    (left : first.Reaches second numbers) (right : second.Reaches third more)
    (fits : numbers + more ≤ total) : first.Reaches third total := by
  rcases left.leaves with ⟨early, earlyLeaves⟩
  rcases right.leaves with ⟨late, lateLeaves⟩
  exact ⟨⟨_, (earlyLeaves.trans lateLeaves).weaken fits⟩, left.keeps.trans right.keeps⟩

end Attached

namespace Bridge

variable {α β : Type} {name : String}

/-- An operation with its outcome and with the resources that it leaves in the engine. -/
structure Yields (operation : Bridge α) (before : Attached name) (outcome : Except Failure α)
    (after : Attached name) (left : List Resource) (numbers : Nat) : Prop where
  ran : runFrom operation before.session = (outcome, after.session)
  leaves : before.engine.Leaves after.engine left numbers
  quiet : before.engine.Quiet after.engine
  keeps : before.session.Keeps after.session name

namespace Yields

variable {operation : Bridge α} {next : α → Bridge β} {before middle after : Attached name}
  {value : α} {failure : Failure} {outcome : Except Failure β} {left more : List Resource}
  {numbers moreNumbers : Nat}

theorem bind (first : operation.Yields before (.ok value) middle left numbers)
    (second : (next value).Yields middle outcome after more moreNumbers) :
    (operation >>= next).Yields before outcome after (more ++ left) (numbers + moreNumbers) where
  ran := by rw [runFrom_bind_of_ok first.ran, second.ran]
  leaves := first.leaves.trans second.leaves
  quiet := first.quiet.trans second.quiet
  keeps := first.keeps.trans second.keeps

theorem bind_error (first : operation.Yields before (.error failure) after left numbers) :
    (operation >>= next).Yields before (.error failure) after left numbers where
  ran := runFrom_bind_of_error first.ran next
  leaves := first.leaves
  quiet := first.quiet
  keeps := first.keeps

theorem of_unchanged {outcome : Except Failure α}
    (ran : runFrom operation before.session = (outcome, before.session)) :
    operation.Yields before outcome before [] 0 :=
  ⟨ran, .refl before.engine, .refl before.engine, .refl before.session name⟩

theorem weaken {outcome : Except Failure α}
    (yields : operation.Yields before outcome after left numbers) (more : numbers ≤ moreNumbers) :
    operation.Yields before outcome after left moreNumbers :=
  { yields with leaves := yields.leaves.weaken more }

/-- A first step that leaves nothing. -/
theorem nothing_bind (first : operation.Yields before (.ok value) middle [] 0)
    (second : (next value).Yields middle outcome after left numbers) :
    (operation >>= next).Yields before outcome after left numbers := by
  have both := first.bind second
  rw [List.append_nil, Nat.zero_add] at both
  exact both

/-- A second step that leaves nothing. -/
theorem bind_nothing (first : operation.Yields before (.ok value) middle left numbers)
    (second : (next value).Yields middle outcome after [] 0) :
    (operation >>= next).Yields before outcome after left numbers :=
  first.bind second

theorem map {outcome : Except Failure α}
    (yields : operation.Yields before outcome after left numbers) (change : α → β) :
    (operation >>= fun value => pure (change value)).Yields before (outcome.map change) after left
      numbers where
  ran := by
    rw [runFrom_bind, yields.ran]
    cases outcome <;> rfl
  leaves := yields.leaves
  quiet := yields.quiet
  keeps := yields.keeps

end Yields

theorem installedEngine_run (place : Attached name) :
    runFrom installedEngine place.session = (.ok name, place.session) := by
  unfold installedEngine
  rw [runFrom_bind_of_ok (runFrom_get _), place.installed]
  rfl

theorem installedEngine_yields (place : Attached name) :
    installedEngine.Yields place (.ok name) place [] 0 :=
  .of_unchanged (installedEngine_run place)

theorem runOn_run (place : Attached name) (work : StateM Engine α) {value : α} {engine : Engine}
    (ran : work.run place.engine = (value, engine)) :
    runFrom (runOn name work) place.session =
      (.ok value, { place.session with engines := place.session.engines.put name engine }) := by
  unfold runOn
  rw [runFrom_bind_of_ok (runFrom_get _), place.found]
  simp only [ran]
  rfl

/-- An action on the installed engine yields in the session what it yields in the engine. -/
theorem nativeOn_yields {place : Attached name} {action : Native α} {outcome : Except Failure α}
    {engine : Engine} {left : List Resource} {numbers : Nat}
    (yields : action.Yields place.engine outcome engine left numbers) :
    ∃ after : Attached name, after.engine = engine ∧
      (nativeOn name action).Yields place outcome after left numbers := by
  have numbered := yields.leaves.numbered place.numbered
  have same := yields.leaves.register.missing
  refine ⟨place.advance engine numbered same, rfl, ?_, yields.leaves, yields.quiet,
    place.keeps_advance engine numbered same⟩
  unfold nativeOn
  rw [runFrom_bind_of_ok (runOn_run place action.run yields.ran)]
  cases outcome <;> rfl

theorem native_yields {place : Attached name} {action : Native α} {outcome : Except Failure α}
    {engine : Engine} {left : List Resource} {numbers : Nat}
    (yields : action.Yields place.engine outcome engine left numbers) :
    ∃ after : Attached name, after.engine = engine ∧
      (native action).Yields place outcome after left numbers := by
  rcases nativeOn_yields yields with ⟨after, reached, ran⟩
  refine ⟨after, reached, { ran with ran := ?_ }⟩
  unfold native
  rw [runFrom_bind_of_ok (installedEngine_run place), ran.ran]

/-- Tables that are not known are looked up in the installed engine. -/
theorem functionTables_of_unknown {place : Attached name} (unknown : place.session.tables = none) :
    ∃ after : Attached name,
      after.engine = (runFrom Native.lookUpConstructors place.engine).2 ∧
      functionTables.Yields place (.ok (place.engine.functionTables name)) after [] 0 := by
  rcases Native.lookUpConstructors_yields place.engine with ⟨engine, lookedUp⟩
  rcases native_yields lookedUp with ⟨middle, reached, yields⟩
  have own : place.engine.functionTables name = middle.engine.functionTables name := by
    rw [Engine.functionTables, Engine.functionTables, yields.leaves.register.missing]
  refine ⟨middle.withTables (middle.session.records ++
    [tablesRecord (place.engine.functionTables name)]) own, ?_, ?_, yields.leaves, yields.quiet,
    ⟨yields.keeps.variants, yields.keeps.strings, yields.keeps.others⟩⟩
  · rw [lookedUp.ran]
    exact reached
  · unfold functionTables
    rw [runFrom_bind_of_ok (runFrom_get _), unknown]
    rw [runFrom_bind_of_ok (installedEngine_run place), runFrom_bind_of_ok yields.ran,
      runFrom_bind_of_ok (runFrom_emit _ _)]
    rfl

theorem functionTables_of_known {place : Attached name} {tables : FunctionTables}
    (known : place.session.tables = some tables) :
    functionTables.Yields place (.ok (place.engine.functionTables name)) place [] 0 := by
  apply Yields.of_unchanged
  unfold functionTables
  rw [runFrom_bind_of_ok (runFrom_get _), known, place.tables tables known]
  rfl

/-- The tables are those of the installed engine, whether they were known or not. -/
theorem functionTables_yields (place : Attached name) :
    ∃ after : Attached name,
      functionTables.Yields place (.ok (place.engine.functionTables name)) after [] 0 := by
  cases known : place.session.tables with
  | some tables => exact ⟨place, functionTables_of_known known⟩
  | none =>
      rcases functionTables_of_unknown known with ⟨after, -, yields⟩
      exact ⟨after, yields⟩

end Bridge

end EngineBridge
