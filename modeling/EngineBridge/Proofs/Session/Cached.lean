import EngineBridge.Proofs.Plan.Outcome
import EngineBridge.Proofs.Session.Keeping

/-!
One look-up through a cache.

`CallTarget.plain` is what an engine has for a target if no cache is in between. Through a cache, a
target without a key fails at once, a callable that is known is not asked for, and any other is
asked for once: if the engine has it, it is remembered. `LooksUp` has one constructor for each.
-/

namespace EngineBridge

open Bridge

theorem Document.eq_text_of_keyOf {document : Document} {value : String}
    (keyed : document.keyOf = .ok (.text value)) : document = .text value := by
  unfold keyOf key? at keyed
  cases document with
  | text other =>
      cases keyed
      rfl
  | float number => cases exact : Number.exactInt? number <;> simp [exact] at keyed
  | _ => cases keyed

namespace CallTarget

/-- What an engine has for a target, without a cache. -/
def plain (target : CallTarget) (name : String) (engine : Engine) : Except Failure Callable := do
  target.answer (← target.key) name engine

/-- Whether the name of a target is a text, if it is a utility function: its callable carries the
name, while that of a method is a number. -/
def IsNamed : CallTarget → Prop
  | .method .. => True
  | .utility called _ => ∃ text, called = .text text

/-- Whether the names of a target are texts and its hash is an integer. -/
def IsWritten : CallTarget → Prop
  | .method className methodName abiHash =>
      ∃ owner named number, className = .text owner ∧ methodName = .text named ∧
        abiHash = .int number
  | .utility called abiHash => ∃ named number, called = .text named ∧ abiHash = .int number

/-- Targets that differ in their kind, in a name or in their hash have different keys. -/
theorem key_injective {target other : CallTarget} (written : target.IsWritten)
    (otherWritten : other.IsWritten) (same : target.key = other.key) : target = other := by
  cases target with
  | method className methodName abiHash =>
      obtain ⟨owner, named, number, rfl, rfl, rfl⟩ := written
      cases other with
      | method otherClass otherName otherHash =>
          obtain ⟨_, _, _, rfl, rfl, rfl⟩ := otherWritten
          cases same
          rfl
      | utility otherCalled otherHash =>
          obtain ⟨_, _, rfl, rfl⟩ := otherWritten
          cases same
  | utility called abiHash =>
      obtain ⟨named, number, rfl, rfl⟩ := written
      cases other with
      | method otherClass otherName otherHash =>
          obtain ⟨_, _, _, rfl, rfl, rfl⟩ := otherWritten
          cases same
      | utility otherCalled otherHash =>
          obtain ⟨_, _, rfl, rfl⟩ := otherWritten
          cases same
          rfl

variable {target other : CallTarget} {key : TargetKey} {name : String} {engine : Engine}

theorem plain_of_key (keyed : target.key = .ok key) :
    target.plain name engine = target.answer key name engine := by
  rw [plain, keyed]
  rfl

/-- What an engine has for a key it has for every target of the key. -/
theorem answer_of_key (named : target.IsNamed) (keyed : target.key = .ok key)
    (otherKeyed : other.key = .ok key) {callable : Callable}
    (answered : other.answer key name engine = .ok callable) :
    target.answer key name engine = .ok callable := by
  cases target with
  | method className methodName abiHash =>
      obtain ⟨first, second, third, rfl, -⟩ := keys_of_method keyed
      cases other with
      | method otherClass otherName otherHash =>
          simp only [answer] at answered ⊢
          split at answered
          · cases answered
          · rename_i present
            rw [if_neg present, answered]
      | utility otherCalled otherHash => cases answered
  | utility called abiHash =>
      obtain ⟨first, second, rfl, calledKey, -⟩ := keys_of_utility keyed
      cases other with
      | method otherClass otherName otherHash => cases answered
      | utility otherCalled otherHash =>
          obtain ⟨_, _, same, otherKey, -⟩ := keys_of_utility otherKeyed
          cases same
          obtain ⟨text, rfl⟩ := named
          cases calledKey
          cases Document.eq_text_of_keyOf otherKey
          simp only [answer] at answered ⊢
          cases registered : engine.utilities.lookup (.text text, second) with
          | none =>
              rw [registered] at answered
              cases answered
          | some script =>
              rw [registered] at answered
              exact answered

/-- The hash by which an engine is asked for a target. -/
def hash : CallTarget → Document
  | .method _ _ hash | .utility _ hash => hash

/-- What is said of a target that an engine does not have quotes its hash. -/
theorem raised_absence (written : target.IsWritten) :
    Failure.raised (.invariant target.absence) =
      if target.hash.isWritable then .invariant target.absence else .unreadable := by
  cases target with
  | method className methodName abiHash =>
      obtain ⟨owner, named, number, rfl, rfl, rfl⟩ := written
      cases writable : (Document.int number).isWritable <;>
        simp [Failure.raised, Failure.quoted, BrokenInvariant.quoted, absence, hash, writable]
  | utility called abiHash =>
      obtain ⟨named, number, rfl, rfl⟩ := written
      cases writable : (Document.int number).isWritable <;>
        simp [Failure.raised, Failure.quoted, BrokenInvariant.quoted, absence, hash, writable]

/-- An engine that has no callable for a key breaks its contract. -/
theorem answer_of_error (keyed : target.key = .ok key) {failure : Failure}
    (answered : target.answer key name engine = .error failure) :
    failure = Failure.raised (.invariant target.absence) := by
  cases target with
  | method className methodName abiHash =>
      obtain ⟨first, second, third, rfl, -⟩ := keys_of_method keyed
      simp only [answer] at answered
      split at answered
      · cases answered
        rfl
      · cases answered
  | utility called abiHash =>
      obtain ⟨first, second, rfl, -⟩ := keys_of_utility keyed
      simp only [answer] at answered
      split at answered
      · cases answered
      · cases answered
        rfl

theorem plain_cases (keyed : target.key = .ok key) (name : String) (engine : Engine) :
    (∃ callable, target.plain name engine = .ok callable) ∨
      target.plain name engine = .error (Failure.raised (.invariant target.absence)) := by
  rw [plain_of_key keyed]
  cases answered : target.answer key name engine with
  | ok callable => exact .inl ⟨callable, rfl⟩
  | error failure => exact .inr (congrArg _ (answer_of_error keyed answered))

theorem exists_key_of_isWritten (written : target.IsWritten) : ∃ key, target.key = .ok key := by
  cases target with
  | method className methodName abiHash =>
      obtain ⟨owner, named, number, rfl, rfl, rfl⟩ := written
      exact ⟨_, rfl⟩
  | utility called abiHash =>
      obtain ⟨named, number, rfl, rfl⟩ := written
      exact ⟨_, rfl⟩

/-- What a plan is called through is asked for by the names and the hash of the plan. -/
theorem raised_absence_of_ofPlan {plan : MarshalingPlan} (quotable : plan.IsQuotable)
    (targeted : ofPlan plan = .ok target) :
    Failure.raised (.invariant target.absence) = .invariant target.absence := by
  apply Failure.raised_of_writable
  unfold ofPlan at targeted
  split at targeted
  · cases targeted
  · cases targeted
    exact List.forall_mem_cons.mpr
      ⟨quotable.methodName, List.forall_mem_singleton.mpr quotable.abiHash⟩
  · cases targeted
  · cases targeted
    exact List.forall_mem_cons.mpr ⟨quotable.className, List.forall_mem_cons.mpr
      ⟨quotable.methodName, List.forall_mem_singleton.mpr quotable.abiHash⟩⟩

/-- An engine answers as it did before while its register stays as it is. -/
theorem answer_of_register {after : Engine} (same : engine.SameRegister after)
    (target : CallTarget) (key : TargetKey) :
    target.answer key name after = target.answer key name engine := by
  unfold answer
  rw [same.methods, same.utilities]

theorem plain_of_register {after : Engine} (same : engine.SameRegister after)
    (target : CallTarget) : target.plain name after = target.plain name engine := by
  unfold plain
  cases target.key with
  | error failure => rfl
  | ok key => exact answer_of_register same target key

end CallTarget

/-! How often an engine was asked for a key. -/

/-- The key of the target that was looked up. -/
def Event.targetKey? : Event → Option TargetKey
  | .methodLookup className methodName abiHash _ =>
      (CallTarget.method className methodName abiHash).key.toOption
  | .utilityLookup called abiHash _ => (CallTarget.utility called abiHash).key.toOption
  | _ => none

theorem CallTarget.targetKey?_event (target : CallTarget) (outcome : Except Failure Callable) :
    (target.event outcome).targetKey? = target.key.toOption := by
  unfold event
  split <;> rfl

theorem CallTarget.isLookup_event (target : CallTarget) (outcome : Except Failure Callable) :
    (target.event outcome).isLookup = true := by
  unfold event
  split <;> rfl

theorem CallTarget.isCall_event (target : CallTarget) (outcome : Except Failure Callable) :
    (target.event outcome).isCall = false := by
  unfold event
  split <;> rfl

/-- How often an engine was asked for a key. -/
def Engine.asked (engine : Engine) (key : TargetKey) : Nat :=
  (engine.lookups.filterMap Event.targetKey?).count key

theorem Engine.asked_noted (engine : Engine) {target : CallTarget} {key : TargetKey}
    (keyed : target.key = .ok key) (outcome : Except Failure Callable) (other : TargetKey) :
    (engine.noted (target.event outcome)).asked other =
      engine.asked other + if key = other then 1 else 0 := by
  have noted : (target.event outcome).targetKey? = some key := by
    rw [target.targetKey?_event, keyed]
    rfl
  have isLookup := target.isLookup_event outcome
  simp only [asked, lookups_noted, List.filter_cons, isLookup, if_true, List.filter_nil,
    List.filterMap_append, List.filterMap_cons, noted, List.filterMap_nil, List.count_append,
    List.count_singleton, beq_iff_eq]

namespace BindingCache

theorem find?_remember (cache : BindingCache) (key : TargetKey) (callable : Callable)
    (other : TargetKey) : (cache.remember key callable).find? other =
      (cache.find? other).or (if other = key then some callable else none) := by
  unfold find? remember
  rw [List.lookup_append]
  by_cases same : other = key
  · simp [same]
  · simp [same, List.lookup_cons, beq_eq_false_iff_ne.mpr same]

/-- Whether an engine has, for each key, the callable that a cache remembers. -/
def IsFaithful (cache : BindingCache) (name : String) (engine : Engine) : Prop :=
  ∀ key callable, cache.find? key = some callable →
    ∃ target : CallTarget, target.key = .ok key ∧ target.answer key name engine = .ok callable

theorem isFaithful_iff {engine after : Engine} (same : engine.SameRegister after)
    (cache : BindingCache) (name : String) :
    cache.IsFaithful name after ↔ cache.IsFaithful name engine := by
  simp only [IsFaithful, CallTarget.answer_of_register same]

end BindingCache

/-- A look-up with what came of it. -/
structure Lookup where
  target : CallTarget
  outcome : Except Failure Callable

namespace Lookup

def isFor (lookup : Lookup) (key : TargetKey) : Bool :=
  lookup.target.key.toOption == some key

def fails (lookup : Lookup) (key : TargetKey) : Bool :=
  lookup.isFor key && !lookup.outcome.isOk

def succeeds (lookup : Lookup) (key : TargetKey) : Bool :=
  lookup.isFor key && lookup.outcome.isOk

variable {target : CallTarget} {key : TargetKey}

theorem isFor_of_key (keyed : target.key = .ok key) (outcome : Except Failure Callable)
    (other : TargetKey) : (mk target outcome).isFor other = (key == other) := by
  simp [isFor, keyed, Except.toOption]

theorem isFor_of_error {failure : Failure} (unkeyed : target.key = .error failure)
    (outcome : Except Failure Callable) (other : TargetKey) :
    (mk target outcome).isFor other = false := by
  simp [isFor, unkeyed, Except.toOption]

theorem isFor_of_ne {other : CallTarget} (written : target.IsWritten)
    (otherWritten : other.IsWritten) (differs : target ≠ other) (keyed : target.key = .ok key)
    (outcome : Except Failure Callable) : (mk other outcome).isFor key = false := by
  cases otherKeyed : other.key with
  | error failure => exact isFor_of_error otherKeyed outcome key
  | ok own =>
      rw [isFor_of_key otherKeyed]
      refine beq_eq_false_iff_ne.mpr ?_
      rintro rfl
      exact differs (CallTarget.key_injective written otherWritten (keyed.trans otherKeyed.symm))

end Lookup

namespace Session

/-- How often the engine of a name was asked for a key. -/
def asked (session : Session) (name : String) (key : TargetKey) : Nat :=
  match session.engines.get? name with
  | some engine => engine.asked key
  | none => 0

/-- Whether a session has a cache. -/
def HasCache (session : Session) : CacheReference → Prop
  | .shared => True
  | .own index => index < session.ownCaches.length

/-- Whether an engine is installed under a name and there is a cache. -/
structure Serves (session : Session) (reference : CacheReference) (name : String)
    (engine : Engine) : Prop where
  installed : session.installed = some name
  found : session.engines.get? name = some engine
  hasCache : session.HasCache reference

variable {session after : Session} {reference : CacheReference} {name : String}
  {engine : Engine}

theorem Serves.asked (serves : session.Serves reference name engine) (key : TargetKey) :
    session.asked name key = engine.asked key := by
  rw [Session.asked, serves.found]

theorem cache_withCache (hasCache : session.HasCache reference) (content : BindingCache) :
    (session.withCache reference content).cache reference = content := by
  cases reference with
  | shared => rfl
  | own index =>
      have bounded : index < session.ownCaches.length := hasCache
      simp [withCache, cache, bounded]

theorem Serves.withCache (serves : session.Serves reference name engine) (content : BindingCache) :
    (session.withCache reference content).Serves reference name engine := by
  cases reference with
  | shared => exact ⟨serves.installed, serves.found, trivial⟩
  | own index =>
      have bounded : index < session.ownCaches.length := serves.hasCache
      exact ⟨serves.installed, serves.found, by simpa [HasCache, Session.withCache] using bounded⟩

/-- The session once its engine has noted a look-up. -/
def noting (session : Session) (name : String) (engine : Engine) (target : CallTarget)
    (outcome : Except Failure Callable) : Session :=
  { session with engines := session.engines.put name (engine.noted (target.event outcome)) }

theorem cache_noting (session : Session) (reference : CacheReference) (name : String)
    (engine : Engine) (target : CallTarget) (outcome : Except Failure Callable) :
    (session.noting name engine target outcome).cache reference = session.cache reference := by
  cases reference <;> rfl

theorem Serves.noting (serves : session.Serves reference name engine) (target : CallTarget)
    (outcome : Except Failure Callable) :
    (session.noting name engine target outcome).Serves reference name
      (engine.noted (target.event outcome)) where
  installed := serves.installed
  found := Entries.get?_put_self _ _ _
  hasCache := serves.hasCache

/-- The session once a callable is remembered. -/
def learning (session : Session) (reference : CacheReference) (target : CallTarget)
    (key : TargetKey) (callable : Callable) : Session :=
  let after := session.withCache reference ((session.cache reference).remember key callable)
  { after with records := after.records ++ [resolvedRecord target] }

theorem Serves.learning (serves : session.Serves reference name engine) (target : CallTarget)
    (key : TargetKey) (callable : Callable) :
    (session.learning reference target key callable).Serves reference name engine :=
  have kept := serves.withCache ((session.cache reference).remember key callable)
  ⟨kept.installed, kept.found, kept.hasCache⟩

theorem cache_learning (hasCache : session.HasCache reference) (target : CallTarget)
    (key : TargetKey) (callable : Callable) :
    (session.learning reference target key callable).cache reference =
      (session.cache reference).remember key callable :=
  (by cases reference <;> rfl : _ = (session.withCache reference _).cache reference).trans
    (cache_withCache hasCache _)

/-- Where an operation looks up no callable, the cache stays and the engine is still there. -/
theorem Serves.continues (serves : session.Serves reference name engine)
    (continues : session.Continues after) :
    after.cache reference = session.cache reference ∧
      ∃ later, after.Serves reference name later ∧ engine.Continues later := by
  obtain ⟨later, found, continued⟩ := continues.engines name engine serves.found
  have installed := (continues.stays 0).installed.trans serves.installed
  cases reference with
  | shared => exact ⟨continues.sharedCache, later, ⟨installed, found, trivial⟩, continued⟩
  | own index =>
      have bounded : index < session.ownCaches.length := serves.hasCache
      have same := continues.ownCaches
      refine ⟨by simp [cache, same], later, ⟨installed, found, ?_⟩, continued⟩
      simpa [HasCache, same] using bounded

end Session

/-- What a look-up through a cache comes to, with the session that it leaves. -/
inductive LooksUp (session : Session) (reference : CacheReference) (name : String)
    (engine : Engine) (target : CallTarget) : Except Failure Callable → Session → Prop
  | unkeyed {failure : Failure} (unkeyed : target.key = .error failure) :
      LooksUp session reference name engine target (.error failure) session
  | known {key : TargetKey} {callable : Callable} (keyed : target.key = .ok key)
      (found : (session.cache reference).find? key = some callable) :
      LooksUp session reference name engine target (.ok callable) session
  | refused {key : TargetKey} {failure : Failure} (keyed : target.key = .ok key)
      (unknown : (session.cache reference).find? key = none)
      (answered : target.answer key name engine = .error failure) :
      LooksUp session reference name engine target (.error failure)
        (session.noting name engine target (.error failure))
  | learnt {key : TargetKey} {callable : Callable} (keyed : target.key = .ok key)
      (unknown : (session.cache reference).find? key = none)
      (answered : target.answer key name engine = .ok callable) :
      LooksUp session reference name engine target (.ok callable)
        ((session.noting name engine target (.ok callable)).learning reference target key callable)

namespace Native

theorem lookUpMethod_of_unkeyed {className methodName abiHash : Document} {failure : Failure}
    (unkeyed : (CallTarget.method className methodName abiHash).key = .error failure)
    (engine : Engine) :
    runFrom (lookUpMethod className methodName abiHash) engine = (.error failure, engine) := by
  unfold lookUpMethod
  simp only [CallTarget.key] at unkeyed
  cases owner : className.keyOf with
  | error _ => rw [owner] at unkeyed; cases unkeyed; rfl
  | ok first =>
      cases named : methodName.keyOf with
      | error _ => rw [owner, named] at unkeyed; cases unkeyed; rfl
      | ok second =>
          cases hashed : abiHash.keyOf with
          | error _ => rw [owner, named, hashed] at unkeyed; cases unkeyed; rfl
          | ok third => rw [owner, named, hashed] at unkeyed; cases unkeyed

theorem lookUpUtility_of_unkeyed {called abiHash : Document} {failure : Failure}
    (unkeyed : (CallTarget.utility called abiHash).key = .error failure) (engine : Engine) :
    runFrom (lookUpUtility called abiHash) engine = (.error failure, engine) := by
  unfold lookUpUtility
  simp only [CallTarget.key] at unkeyed
  cases named : called.keyOf with
  | error _ => rw [named] at unkeyed; cases unkeyed; rfl
  | ok first =>
      cases hashed : abiHash.keyOf with
      | error _ => rw [named, hashed] at unkeyed; cases unkeyed; rfl
      | ok second => rw [named, hashed] at unkeyed; cases unkeyed

end Native

namespace Session.Serves

variable {session : Session} {reference : CacheReference} {name : String} {engine : Engine}

theorem engine?_eq (serves : session.Serves reference name engine) :
    session.engine? = some engine := by
  rw [Session.engine?, serves.installed]
  exact serves.found

theorem runFrom_resolve (serves : session.Serves reference name engine) {target : CallTarget}
    {key : TargetKey} (keyed : target.key = .ok key) :
    runFrom target.resolve session = (target.answer key name engine,
      session.noting name engine target (target.answer key name engine)) := by
  rcases resolve_target_cases keyed session with ⟨_, _, installed, found, ran⟩ | ⟨absent, -⟩
  · cases serves.installed.symm.trans installed
    cases serves.found.symm.trans found
    exact ran
  · cases serves.engine?_eq.symm.trans absent

theorem runFrom_native (serves : session.Serves reference name engine) {α : Type}
    (action : Native α) : (runFrom (native action) session).1 = (runFrom action engine).1 := by
  rcases runFrom_native_cases session action with ⟨_, _, installed, found, ran⟩ | ⟨absent, -⟩
  · cases serves.installed.symm.trans installed
    cases serves.found.symm.trans found
    rw [ran]
  · cases serves.engine?_eq.symm.trans absent

/-- Without a cache, a target comes to what the engine has for it. -/
theorem runFrom_resolve_eq_plain (serves : session.Serves reference name engine)
    (target : CallTarget) : (runFrom target.resolve session).1 = target.plain name engine := by
  cases keyed : target.key with
  | ok key => rw [serves.runFrom_resolve keyed, CallTarget.plain_of_key keyed]
  | error failure =>
      rw [CallTarget.plain, keyed]
      cases target with
      | method className methodName abiHash =>
          have failed := serves.runFrom_native (Native.lookUpMethod className methodName abiHash)
          rw [Native.lookUpMethod_of_unkeyed keyed] at failed
          unfold CallTarget.resolve
          rw [runFrom_bind_of_error (Prod.ext failed rfl)]
          rfl
      | utility called abiHash =>
          have failed := serves.runFrom_native (Native.lookUpUtility called abiHash)
          rw [Native.lookUpUtility_of_unkeyed keyed] at failed
          unfold CallTarget.resolve
          rw [runFrom_bind_of_ok (runFrom_installedEngine serves.installed),
            runFrom_bind_of_error (Prod.ext failed rfl)]
          rfl

end Session.Serves

namespace Bridge

variable {session : Session} {name : String} {engine : Engine}

theorem resolve_looksUp (installed : session.installed = some name)
    (present : session.engines.get? name = some engine) (reference : CacheReference)
    (target : CallTarget) :
    LooksUp session reference name engine target (runFrom (resolve reference target) session).1
      (runFrom (resolve reference target) session).2 := by
  have serves : session.Serves .shared name engine := ⟨installed, present, trivial⟩
  unfold resolve
  cases keyed : target.key with
  | error failure => exact .unkeyed keyed
  | ok key =>
      rw [runFrom_bind_of_ok (runFrom_lift _ _), runFrom_bind_of_ok (runFrom_get _)]
      cases found : (session.cache reference).find? key with
      | some callable => exact .known keyed found
      | none =>
          have asked := serves.runFrom_resolve keyed
          dsimp only
          cases answered : target.answer key name engine with
          | error failure =>
              rw [answered] at asked
              rw [runFrom_bind_of_error asked]
              exact .refused keyed found answered
          | ok callable =>
              rw [answered] at asked
              rw [runFrom_bind_of_ok asked]
              exact .learnt keyed found answered

/-- Without an engine, only what is known can be looked up. -/
theorem resolve_of_no_engine (absent : session.engine? = none) (reference : CacheReference)
    (target : CallTarget) : (runFrom (resolve reference target) session).2 = session ∧
      ∀ callable, (runFrom (resolve reference target) session).1 = .ok callable →
        ∃ key, target.key = .ok key ∧ (session.cache reference).find? key = some callable := by
  unfold resolve
  cases keyed : target.key with
  | error failure => exact ⟨rfl, fun _ found => by cases found⟩
  | ok key =>
      rw [runFrom_bind_of_ok (runFrom_lift _ _), runFrom_bind_of_ok (runFrom_get _)]
      cases found : (session.cache reference).find? key with
      | some callable =>
          refine ⟨rfl, fun _ same => ?_⟩
          cases same
          exact ⟨key, rfl, found⟩
      | none =>
          dsimp only
          rcases resolve_target_cases keyed session with
            ⟨name, engine, installed, present, -⟩ | ⟨-, ran⟩
          · rw [Session.engine?, installed] at absent
            cases present.symm.trans absent
          · rw [runFrom_bind_of_error ran]
            exact ⟨rfl, fun _ found => by cases found⟩

/-- A look-up goes through a cache to the installed engine, or there is no engine. -/
theorem resolve_cases (reference : CacheReference) (target : CallTarget) (session : Session) :
    (∃ name engine, session.installed = some name ∧ session.engines.get? name = some engine ∧
      LooksUp session reference name engine target (runFrom (resolve reference target) session).1
        (runFrom (resolve reference target) session).2) ∨
    (runFrom (resolve reference target) session).2 = session ∧
      ∀ callable, (runFrom (resolve reference target) session).1 = .ok callable →
        ∃ key, target.key = .ok key ∧ (session.cache reference).find? key = some callable := by
  rcases Option.eq_none_or_eq_some session.engine? with absent | ⟨engine, backed⟩
  · exact .inr (resolve_of_no_engine absent reference target)
  · obtain ⟨name, installed, present⟩ := Option.bind_eq_some_iff.mp backed
    exact .inl ⟨name, engine, installed, present,
      resolve_looksUp installed present reference target⟩

end Bridge

theorem Session.Serves.looksUp {session : Session} {reference : CacheReference} {name : String}
    {engine : Engine} (serves : session.Serves reference name engine) (target : CallTarget) :
    LooksUp session reference name engine target (runFrom (resolve reference target) session).1
      (runFrom (resolve reference target) session).2 :=
  resolve_looksUp serves.installed serves.found reference target

namespace LooksUp

variable {session after : Session} {reference : CacheReference} {name : String}
  {engine current : Engine} {target : CallTarget} {outcome : Except Failure Callable}

theorem serves (serves : session.Serves reference name current)
    (looks : LooksUp session reference name current target outcome after) :
    ∃ later, after.Serves reference name later ∧ current.SameRegister later := by
  cases looks with
  | unkeyed unkeyed => exact ⟨current, serves, .refl current⟩
  | known keyed found => exact ⟨current, serves, .refl current⟩
  | refused keyed unknown answered =>
      exact ⟨_, serves.noting target _, (current.grows_noted _).register⟩
  | learnt keyed unknown answered =>
      exact ⟨_, (serves.noting target _).learning target _ _, (current.grows_noted _).register⟩

/-- What a look-up leaves in the cache. -/
theorem find? (serves : session.Serves reference name current)
    (looks : LooksUp session reference name current target outcome after) (key : TargetKey) :
    (after.cache reference).find? key = ((session.cache reference).find? key).or
      (if (Lookup.mk target outcome).succeeds key then outcome.toOption else none) := by
  cases looks with
  | unkeyed unkeyed => simp [Lookup.succeeds, Lookup.isFor_of_error unkeyed]
  | known keyed found =>
      rename_i own callable
      by_cases same : own = key
      · subst same
        simp [found]
      · simp [Lookup.succeeds, Lookup.isFor_of_key keyed, same]
  | refused keyed unknown answered =>
      simp [Session.cache_noting, Lookup.succeeds, Except.isOk, Except.toBool]
  | learnt keyed unknown answered =>
      rename_i own callable
      rw [Session.cache_learning (serves.noting target _).hasCache, Session.cache_noting,
        BindingCache.find?_remember]
      by_cases same : own = key
      · subst same
        simp [Lookup.succeeds, Lookup.isFor_of_key keyed, Except.isOk, Except.toBool,
          Except.toOption]
      · simp [Lookup.succeeds, Lookup.isFor_of_key keyed, same, Ne.symm same]

theorem contains (serves : session.Serves reference name current)
    (looks : LooksUp session reference name current target outcome after) (key : TargetKey) :
    (after.cache reference).contains key = ((session.cache reference).contains key ||
      (Lookup.mk target outcome).succeeds key) := by
  unfold BindingCache.contains
  rw [looks.find? serves, Option.isSome_or]
  cases succeeded : (Lookup.mk target outcome).succeeds key with
  | false => rfl
  | true =>
      cases outcome with
      | ok callable => rfl
      | error failure => simp [Lookup.succeeds, Except.isOk, Except.toBool] at succeeded

/-- The engine is asked for a key where the look-up fails, and where it succeeds although the cache
did not have the key. -/
theorem asked (serves : session.Serves reference name current)
    (looks : LooksUp session reference name current target outcome after) (key : TargetKey) :
    after.asked name key = session.asked name key +
      (if (Lookup.mk target outcome).fails key then 1 else 0) +
      if (Lookup.mk target outcome).succeeds key && !(session.cache reference).contains key
      then 1 else 0 := by
  cases looks with
  | unkeyed unkeyed => simp [Lookup.fails, Lookup.succeeds, Lookup.isFor_of_error unkeyed]
  | known keyed found =>
      rename_i own callable
      by_cases same : own = key
      · subst same
        simp [Lookup.fails, Except.isOk, Except.toBool, BindingCache.contains, found]
      · simp [Lookup.fails, Lookup.succeeds, Lookup.isFor_of_key keyed, same]
  | refused keyed unknown answered =>
      rw [(serves.noting target _).asked, serves.asked, Engine.asked_noted _ keyed]
      simp [Lookup.fails, Lookup.succeeds, Lookup.isFor_of_key keyed, Except.isOk, Except.toBool]
  | learnt keyed unknown answered =>
      rw [((serves.noting target _).learning target _ _).asked, serves.asked,
        Engine.asked_noted _ keyed]
      rename_i own callable
      by_cases same : own = key
      · subst same
        simp [Lookup.fails, Lookup.succeeds, Lookup.isFor_of_key keyed, Except.isOk,
          Except.toBool, BindingCache.contains, unknown]
      · simp [Lookup.fails, Lookup.succeeds, Lookup.isFor_of_key keyed, same]

/-- A look-up that fails leaves the cache alone, and the engine was asked for its key. -/
theorem of_error {failure : Failure} (serves : session.Serves reference name current)
    (looks : LooksUp session reference name current target (.error failure) after) :
    after.cache reference = session.cache reference ∧
      ∀ key, target.key = .ok key → after.asked name key = session.asked name key + 1 := by
  have nothing : ∀ key, (Lookup.mk target (.error failure)).succeeds key = false := fun key => by
    simp [Lookup.succeeds, Except.isOk, Except.toBool]
  constructor
  · cases looks with
    | unkeyed unkeyed => rfl
    | refused keyed unknown answered => exact session.cache_noting ..
  · intro key keyed
    rw [looks.asked serves key, nothing]
    simp [Lookup.fails, Lookup.isFor_of_key keyed, Except.isOk, Except.toBool]

/-- What is in the cache is found there. -/
theorem not_fails (looks : LooksUp session reference name current target outcome after)
    {key : TargetKey} (present : (session.cache reference).contains key = true) :
    (Lookup.mk target outcome).fails key = false := by
  cases looks with
  | unkeyed unkeyed => simp [Lookup.fails, Lookup.isFor_of_error unkeyed]
  | known keyed found => simp [Lookup.fails, Except.isOk, Except.toBool]
  | refused keyed unknown answered =>
      rename_i own failure
      have other : own ≠ key := by
        rintro rfl
        simp [BindingCache.contains, unknown] at present
      simp [Lookup.fails, Lookup.isFor_of_key keyed, other]
  | learnt keyed unknown answered => simp [Lookup.fails, Except.isOk, Except.toBool]

/-- Through a faithful cache a look-up gives what the engine has. -/
theorem outcome_eq (looks : LooksUp session reference name current target outcome after)
    (faithful : (session.cache reference).IsFaithful name current) (named : target.IsNamed) :
    outcome = target.plain name current := by
  cases looks with
  | unkeyed unkeyed =>
      rw [CallTarget.plain, unkeyed]
      rfl
  | known keyed found =>
      obtain ⟨other, otherKeyed, answered⟩ := faithful _ _ found
      rw [CallTarget.plain_of_key keyed,
        CallTarget.answer_of_key named keyed otherKeyed answered]
  | refused keyed unknown answered => rw [CallTarget.plain_of_key keyed, answered]
  | learnt keyed unknown answered => rw [CallTarget.plain_of_key keyed, answered]

/-- A cache stays faithful: what it learns, it learns from the engine. -/
theorem isFaithful (serves : session.Serves reference name current)
    (looks : LooksUp session reference name current target outcome after)
    (faithful : (session.cache reference).IsFaithful name current) :
    (after.cache reference).IsFaithful name current := by
  cases looks with
  | unkeyed unkeyed => exact faithful
  | known keyed found => exact faithful
  | refused keyed unknown answered =>
      rw [Session.cache_noting]
      exact faithful
  | learnt keyed unknown answered =>
      rw [Session.cache_learning (serves.noting target _).hasCache, Session.cache_noting]
      intro key callable found
      rw [BindingCache.find?_remember, Option.or_eq_some_iff] at found
      rcases found with found | ⟨-, found⟩
      · exact faithful key callable found
      · split at found
        · rename_i same
          cases found
          exact ⟨target, same ▸ keyed, same ▸ answered⟩
        · cases found

end LooksUp

end EngineBridge
