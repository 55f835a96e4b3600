import EngineBridge.Proofs.Call.Arguments
import EngineBridge.Proofs.Engine.Calls
import EngineBridge.Session.Dispatcher

/-!
Finding a callable and entering it.

`Attached.resolved` is the callable that a call is made with, or the failure in which the search
ends. Entering it leaves what has landed.
-/

namespace EngineBridge

open Bridge

variable {α : Type} {name : String}

namespace Callable

/-- What a callable does in an engine. -/
def script? (engine : Engine) : Callable → Option NativeScript
  | .bind number => engine.scripts.lookup number
  | .function _ _ script => some script

/-- What a callable does stays the same while others come and go. -/
theorem script?_of_leaves {before after : Engine} {left : List Resource} {numbers : Nat}
    (leaves : before.Leaves after left numbers) (callable : Callable) :
    callable.script? after = callable.script? before := by
  cases callable with
  | bind number => exact congrArg (List.lookup number) leaves.register.scripts
  | function engine function script => rfl

/-- Whether a callable is entered in the engine of a name, if that one is installed. -/
def IsOf (name : String) : Callable → Prop
  | .bind _ => True
  | .function engine _ _ => engine = name

end Callable

namespace CallTarget

/-- What an engine answers when it is asked for a target of a key. -/
def answer (target : CallTarget) (key : TargetKey) (name : String) (engine : Engine) :
    Except Failure Callable :=
  match target, key with
  | .method .., .method first second third =>
      let bind := (engine.methods.lookup (first, second, third)).getD 0
      if bind == 0 then .error (Failure.raised (.invariant target.absence))
      else .ok (.bind bind)
  | .utility function _, .utility first second =>
      match engine.utilities.lookup (first, second) with
      | some script => .ok (.function name function script)
      | none => .error (Failure.raised (.invariant target.absence))
  | _, _ => .error .noSuchKey

end CallTarget

namespace Attached

/-- The callable of a target: the one in the cache, or else the one that the engine answers. -/
def resolved (place : Attached name) (reference : CacheReference) (target : CallTarget) :
    Except Failure Callable := do
  let key ← target.key
  match (place.session.cache reference).find? key with
  | some callable => return callable
  | none => target.answer key name place.engine

/-- A callable that no cache remembers is registered in the engine. -/
theorem registered_of_resolved {place : Attached name} {reference : CacheReference}
    {target : CallTarget} {callable : Callable} (empty : place.session.cache reference = [])
    (found : place.resolved reference target = .ok callable) :
    callable.IsOf name ∧ ∀ script, callable.script? place.engine = some script →
      script ∈ place.engine.scripts.map Prod.snd ++ place.engine.utilities.map Prod.snd := by
  rcases exists_of_bind_eq_ok found with ⟨key, keyed, found⟩
  rw [empty] at found
  change target.answer key name place.engine = .ok callable at found
  cases target with
  | method className methodName hash =>
      cases key with
      | utility => cases found
      | method first second third =>
          simp only [CallTarget.answer] at found
          split at found
          · cases found
          · cases found
            exact ⟨trivial, fun script registered =>
              List.mem_append_left _ (List.mem_map_of_mem (mem_of_lookup registered))⟩
  | utility function hash =>
      cases key with
      | method => cases found
      | utility first second =>
          simp only [CallTarget.answer] at found
          cases registered : place.engine.utilities.lookup (first, second) with
          | none =>
              rw [registered] at found
              cases found
          | some script =>
              rw [registered] at found
              cases found
              refine ⟨rfl, ?_⟩
              rintro _ ⟨⟩
              exact List.mem_append_right _ (List.mem_map_of_mem (mem_of_lookup registered))

/-- The session with other caches and records. -/
def remembering (place : Attached name) (reference : CacheReference) (cache : BindingCache)
    (records : List Log.Record) : Attached name where
  session := { place.session.withCache reference cache with records }
  engine := place.engine
  installed := by cases reference <;> exact place.installed
  found := by cases reference <;> exact place.found
  numbered := place.numbered
  tables := by cases reference <;> exact place.tables

theorem keeps_remembering (place : Attached name) (reference : CacheReference)
    (cache : BindingCache) (records : List Log.Record) :
    place.session.Keeps (place.remembering reference cache records).session name := by
  cases reference <;> exact ⟨rfl, rfl, fun _ _ => rfl⟩

end Attached

namespace Bridge

theorem keys_of_method {className methodName abiHash : Document} {key : TargetKey}
    (known : (CallTarget.method className methodName abiHash).key = .ok key) :
    ∃ first second third, key = .method first second third ∧ className.keyOf = .ok first ∧
      methodName.keyOf = .ok second ∧ abiHash.keyOf = .ok third := by
  rcases exists_of_bind_eq_ok known with ⟨first, firstKey, known⟩
  rcases exists_of_bind_eq_ok known with ⟨second, secondKey, known⟩
  rcases exists_of_bind_eq_ok known with ⟨third, thirdKey, known⟩
  cases known
  exact ⟨first, second, third, rfl, firstKey, secondKey, thirdKey⟩

theorem keys_of_utility {function abiHash : Document} {key : TargetKey}
    (known : (CallTarget.utility function abiHash).key = .ok key) :
    ∃ first second, key = .utility first second ∧ function.keyOf = .ok first ∧
      abiHash.keyOf = .ok second := by
  rcases exists_of_bind_eq_ok known with ⟨first, firstKey, known⟩
  rcases exists_of_bind_eq_ok known with ⟨second, secondKey, known⟩
  cases known
  exact ⟨first, second, rfl, firstKey, secondKey⟩

/-- The engine is asked for a target, and answers. -/
theorem resolve_target_yields (place : Attached name) {target : CallTarget} {key : TargetKey}
    (known : target.key = .ok key) :
    ∃ after : Attached name, target.resolve.Yields place (target.answer key name place.engine)
      after [] 0 := by
  cases target with
  | method className methodName abiHash =>
      rcases keys_of_method known with ⟨first, second, third, rfl, keys⟩
      have found := Native.lookUpMethod_yields place.engine (first, second, third) keys
      rcases native_yields found with ⟨after, -, asked⟩
      refine ⟨after, asked.nothing_bind (.of_unchanged ?_)⟩
      rw [CallTarget.answer]
      cases ((place.engine.methods.lookup (first, second, third)).getD 0 == 0) <;> rfl
  | utility function abiHash =>
      rcases keys_of_utility known with ⟨first, second, rfl, keys⟩
      have found := Native.lookUpUtility_yields place.engine (first, second) keys
      rcases native_yields found with ⟨after, -, asked⟩
      refine ⟨after, (installedEngine_yields place).nothing_bind (asked.nothing_bind ?_)⟩
      apply Yields.of_unchanged
      rw [CallTarget.answer]
      cases place.engine.utilities.lookup (first, second) <;> rfl

theorem get_yields (place : Attached name) :
    (get : Bridge Session).Yields place (.ok place.session) place [] 0 :=
  .of_unchanged (runFrom_get place.session)

/-- A callable is found in the cache or asked for, and nothing is left either way. -/
theorem resolve_yields (place : Attached name) (reference : CacheReference)
    (target : CallTarget) :
    ∃ after : Attached name, (resolve reference target).Yields place
      (place.resolved reference target) after [] 0 := by
  cases known : target.key with
  | error failure =>
      have looked : (liftM target.key : Bridge TargetKey).Yields place (.error failure) place []
          0 :=
        .of_unchanged (by rw [runFrom_lift, known])
      rw [Attached.resolved, known]
      exact ⟨place, looked.bind_error⟩
  | ok key =>
      have looked : (liftM target.key : Bridge TargetKey).Yields place (.ok key) place [] 0 :=
        .of_unchanged (by rw [runFrom_lift, known])
      have spec : place.resolved reference target =
          ((place.session.cache reference).find? key).elim
            (target.answer key name place.engine) .ok := by
        rw [Attached.resolved, known]
        cases found : (place.session.cache reference).find? key <;>
          simp only [bind, Except.bind, found] <;> rfl
      rw [spec]
      cases found : (place.session.cache reference).find? key with
      | some callable =>
          refine ⟨place, looked.nothing_bind ((get_yields place).nothing_bind ?_)⟩
          rw [found]
          exact .of_unchanged rfl
      | none =>
          rcases resolve_target_yields place known with ⟨middle, asked⟩
          rw [Option.elim_none]
          cases answered : target.answer key name place.engine with
          | error failure =>
              rw [answered] at asked
              refine ⟨middle, looked.nothing_bind ((get_yields place).nothing_bind ?_)⟩
              rw [found]
              exact asked.bind_error
          | ok callable =>
              rw [answered] at asked
              let cache := (middle.session.cache reference).remember key callable
              let last := middle.remembering reference cache
                ((middle.session.withCache reference cache).records ++ [resolvedRecord target])
              have kept : middle.session.Keeps last.session name :=
                middle.keeps_remembering reference _ _
              refine ⟨last, looked.nothing_bind ((get_yields place).nothing_bind ?_)⟩
              rw [found]
              exact asked.nothing_bind ⟨rfl, .refl _, .refl _, kept⟩

/-- An invocation: it comes to an outcome and a landing, and what is left has landed. -/
structure Invokes (operation : Bridge (Except Failure CallError × Landing))
    (storage : ReturnStorage) (before : Attached name) (outcome : Except Failure CallError)
    (landed : Landing) (after : Attached name) (left : List Resource) : Prop where
  ran : runFrom operation before.session = (.ok (outcome, landed), after.session)
  leaves : before.engine.Leaves after.engine left 1
  nils : after.engine.releases 0 = before.engine.releases 0
  keeps : before.session.Keeps after.session name
  landed : storage.Lands landed left

section

variable {place : Attached name} {storage : ReturnStorage} {landing : Landing}

theorem runOn_invokes {work : StateM Engine (Except Failure CallError × Landing)}
    {outcome : Except Failure CallError} {landed : Landing} {engine : Engine}
    {left : List Resource}
    (settles : Native.Settles work storage place.engine outcome landed engine left) :
    ∃ after : Attached name, after.engine = engine ∧
      Invokes (runOn name work) storage place outcome landed after left := by
  have numbered := settles.leaves.numbered place.numbered
  have same := settles.leaves.register.missing
  exact ⟨place.advance engine numbered same, rfl, runOn_run place work settles.ran,
    settles.leaves, settles.nils, place.keeps_advance engine numbered same, settles.landed⟩

private theorem settles_of_unknown {work : StateM Engine (Except Failure CallError × Landing)}
    (opened : storage.Open landing)
    (ran : work.run place.engine = ((.error .noSuchKey, landing), place.engine)) :
    Native.Settles work storage place.engine (.error .noSuchKey) landing place.engine [] :=
  ⟨ran, (Engine.Leaves.refl place.engine).weaken (by omega), rfl, opened.lands⟩

/-- What is done in the engine to invoke a callable. -/
def invocation (callable : Callable) (strategy : CallStrategy) (receiver : Document)
    (pointers : List Pointer) (landing : Landing) :
    StateM Engine (Except Failure CallError × Landing) :=
  match callable, strategy with
  | .bind number, .directPointerCall => Native.pointerCall number receiver pointers landing
  | .bind number, .variantArrayCall => Native.variantCall number receiver pointers landing
  | .function _ function script, _ => Native.utilityCall function script pointers landing

theorem invoke_run {callable : Callable} (own : callable.IsOf name) (strategy : CallStrategy)
    (receiver : Document) (pointers : List Pointer) (landing : Landing) :
    runFrom (invoke callable strategy receiver pointers landing) place.session =
      runFrom (runOn name (invocation callable strategy receiver pointers landing))
        place.session := by
  cases callable with
  | bind number =>
      cases strategy <;> exact runFrom_bind_of_ok (installedEngine_run place) _
  | function engine function script =>
      rw [show engine = name from own]
      rfl

theorem invoke_invokes {callable : Callable} (own : callable.IsOf name)
    (fits : ∀ script, callable.script? place.engine = some script → script.Fits storage)
    (opened : storage.Open landing) (room : place.engine.HasRoom 1) (strategy : CallStrategy)
    (receiver : Document) (pointers : List Pointer) :
    ∃ outcome landed after left,
      Invokes (invoke callable strategy receiver pointers landing) storage place outcome landed
        after left := by
  have word := room.isSignedWord place.numbered
  have settles : ∃ outcome landed engine left,
      Native.Settles (invocation callable strategy receiver pointers landing) storage
        place.engine outcome landed engine left := by
    cases callable with
    | function engine function script =>
        rcases Native.enter_settles (fits script rfl) opened pointers word script.isVararg
            (.utilityCall function pointers.length) fun _ => rfl
            with ⟨outcome, landed, after, left, entered⟩
        exact ⟨_, landed, after, left, entered.reported
          (Native.utilityCall_run function script pointers landing place.engine)⟩
    | bind number =>
        cases found : place.engine.scripts.lookup number with
        | none =>
            cases strategy with
            | directPointerCall =>
                exact ⟨_, _, _, [], settles_of_unknown opened
                  (Native.pointerCall_of_none found receiver pointers landing)⟩
            | variantArrayCall =>
                exact ⟨_, _, _, [], settles_of_unknown opened
                  (Native.variantCall_of_none found receiver pointers landing)⟩
        | some script =>
            have suits := fits script found
            cases strategy with
            | directPointerCall =>
                rcases Native.enter_settles suits opened pointers word false
                    (.pointerCall number receiver) fun _ => rfl
                    with ⟨outcome, landed, after, left, entered⟩
                exact ⟨_, landed, after, left, entered.reported
                  (Native.pointerCall_run found receiver pointers landing)⟩
            | variantArrayCall =>
                rcases Native.enter_settles suits opened pointers word true
                    (.variantCall number receiver pointers.length) fun _ => rfl
                    with ⟨outcome, landed, after, left, entered⟩
                exact ⟨_, landed, after, left, entered.reported
                  (Native.variantCall_run found receiver pointers landing)⟩
  rcases settles with ⟨outcome, landed, engine, left, settled⟩
  rcases runOn_invokes settled with ⟨after, -, invoked⟩
  exact ⟨outcome, landed, after, left, { invoked with
    ran := (invoke_run own strategy receiver pointers landing).trans invoked.ran }⟩

end

end Bridge

end EngineBridge
