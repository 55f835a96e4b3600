import EngineBridge.Proofs.Session.Cached

/-!
Many look-ups through one cache.

A cache is used by looking up targets, on their own or in calls, while owners come and go. `History`
keeps the look-ups that were made, each with what came of it. Each gave what the engine has for its
target, and the engine was asked for a key once for each look-up that failed, and once for the first
that did not.
-/

namespace EngineBridge

open Bridge

/-- The target of a call, unless the call is refused before it is looked up. -/
def MarshalingPlan.callTarget (plan : MarshalingPlan) (arguments : CallArguments) :
    Except Failure CallTarget := do
  plan.checkArguments arguments
  CallTarget.ofPlan plan

namespace Bridge

theorem state_forget {α : Type} (operation : Bridge α) (session : Session) :
    (runFrom (forget operation) session).2 = (runFrom operation session).2 :=
  congrArg Prod.snd (runFrom_forget (rfl : runFrom operation session = (_, _)))

/-- A call looks up its target, and then it goes on with the callable. -/
theorem runFrom_call_of_bound {session : Session} {name : String}
    (installed : session.installed = some name) {plan : MarshalingPlan}
    (bound : plan.isVirtual = false) (dispatcher : Dispatcher) (arguments : CallArguments) :
    runFrom (call dispatcher plan arguments) session =
      runFrom (liftM (plan.callTarget arguments) >>= fun target =>
        resolve dispatcher.cache target >>= callResolved dispatcher.types plan arguments target)
        session := by
  rw [call_of_resolved bound, MarshalingPlan.callTarget]
  cases plan.checkArguments arguments with
  | error failure => rfl
  | ok _ =>
      rw [runFrom_bind_of_ok (runFrom_lift _ _),
        runFrom_bind_of_ok (runFrom_installedEngine installed)]
      rfl

end Bridge

/-- A use of a cache, or what is done between two of them. -/
inductive CacheUse where
  | resolve (target : CallTarget)
  | call (types : ResultTypes) (plan : MarshalingPlan) (arguments : CallArguments)
  | between (operation : Operation)

namespace CacheUse

def perform (reference : CacheReference) : CacheUse → Bridge Unit
  | .resolve target => forget (Bridge.resolve reference target)
  | .call types plan arguments => forget (Bridge.call ⟨types, reference⟩ plan arguments)
  | .between operation => operation.perform

/-- The target that is looked up. The call of a virtual method looks up none. -/
def target? : CacheUse → Option CallTarget
  | .resolve target => some target
  | .call _ plan arguments =>
      if plan.isVirtual then none else (plan.callTarget arguments).toOption
  | .between _ => none

variable {session : Session} {reference : CacheReference} {name : String} {types : ResultTypes}
  {plan : MarshalingPlan} {arguments : CallArguments} {target : CallTarget}

theorem runFrom_call_of_target (installed : session.installed = some name)
    (aims : (call types plan arguments).target? = some target) :
    runFrom (Bridge.call ⟨types, reference⟩ plan arguments) session =
      runFrom (Bridge.resolve reference target >>= callResolved types plan arguments target)
        session := by
  simp only [target?] at aims
  split at aims
  · cases aims
  · rename_i bound
    rw [runFrom_call_of_bound installed (eq_false_of_ne_true bound)]
    cases targeted : plan.callTarget arguments with
    | error failure =>
        rw [targeted] at aims
        cases aims
    | ok other =>
        rw [targeted] at aims
        cases aims
        rfl

/-- A use that looks up no target changes no cache and asks for no callable. -/
theorem continues_of_no_target (installed : session.installed = some name) {use : CacheUse}
    (aimless : use.target? = none) :
    session.Continues (runFrom (use.perform reference) session).2 := by
  cases use with
  | resolve target => cases aimless
  | call types plan arguments =>
      have unchanged : (runFrom (Bridge.call ⟨types, reference⟩ plan arguments) session).2 =
          session := by
        simp only [target?] at aimless
        split at aimless
        · rename_i isVirtual
          rw [call_of_virtual isVirtual]
          rfl
        · rename_i bound
          rw [runFrom_call_of_bound installed (eq_false_of_ne_true bound)]
          cases targeted : plan.callTarget arguments with
          | error failure => rfl
          | ok target =>
              rw [targeted] at aimless
              cases aimless
      rw [perform, state_forget, unchanged]
      exact refl_of Session.Continues session
  | between operation => exact (operation.perform_silent session).toContinues

/-- A use leaves what its look-up leaves, or it goes on from there with the callable and looks up no
other. -/
theorem continues_of_target (installed : session.installed = some name) {use : CacheUse}
    (aims : use.target? = some target) :
    (runFrom (Bridge.resolve reference target) session).2.Continues
      (runFrom (use.perform reference) session).2 := by
  rcases looked : runFrom (Bridge.resolve reference target) session with ⟨outcome, middle⟩
  cases use with
  | resolve other =>
      cases aims
      rw [perform, state_forget, looked]
      exact refl_of Session.Continues middle
  | call types plan arguments =>
      rw [perform, state_forget, runFrom_call_of_target installed aims]
      cases outcome with
      | error failure =>
          rw [runFrom_bind_of_error looked]
          exact refl_of Session.Continues middle
      | ok callable =>
          rw [runFrom_bind_of_ok looked]
          exact callResolved_continuing types plan arguments target callable middle
  | between operation => cases aims

end CacheUse

/-- A session with the look-ups that were made through one of its caches. -/
structure History where
  session : Session
  lookups : List Lookup

namespace History

/-- A session in which no look-up was made yet. -/
def start (session : Session) : History := ⟨session, []⟩

/-- How many look-ups of a key have failed. -/
def failures (history : History) (key : TargetKey) : Nat :=
  history.lookups.countP (·.fails key)

/-- Whether a look-up of a key has succeeded. -/
def succeeds (history : History) (key : TargetKey) : Bool :=
  history.lookups.any (·.succeeds key)

def lookUp (reference : CacheReference) (history : History) (target : CallTarget) : History where
  session := (runFrom (resolve reference target) history.session).2
  lookups := history.lookups ++ [⟨target, (runFrom (resolve reference target) history.session).1⟩]

def perform (reference : CacheReference) (history : History) (use : CacheUse) : History :=
  let made := match use.target? with
    | some target => history.lookUp reference target
    | none => history
  { made with session := (runFrom (use.perform reference) history.session).2 }

def performAll (reference : CacheReference) (history : History) (uses : List CacheUse) : History :=
  uses.foldl (perform reference) history

/-- Whether a cache and the engine are as the look-ups have left them that were made since the
engine was as given. -/
structure Follows (history : History) (reference : CacheReference) (name : String)
    (engine : Engine) : Prop where
  serves : ∃ current, history.session.Serves reference name current ∧ engine.SameRegister current
  faithful : (history.session.cache reference).IsFaithful name engine
  plain : ∀ lookup ∈ history.lookups, lookup.target.IsNamed →
    lookup.outcome = lookup.target.plain name engine
  contains : ∀ key, (history.session.cache reference).contains key = history.succeeds key
  asked : ∀ key, history.session.asked name key =
    engine.asked key + history.failures key + if history.succeeds key then 1 else 0

variable {history : History} {reference : CacheReference} {name : String} {engine : Engine}

theorem follows_start {session : Session} (serves : session.Serves reference name engine)
    (empty : session.cache reference = []) : (start session).Follows reference name engine where
  serves := ⟨engine, serves, .refl engine⟩
  faithful key callable found := by
    change (session.cache reference).find? key = some callable at found
    rw [empty] at found
    cases found
  plain lookup made := nomatch made
  contains key := by
    change (session.cache reference).contains key = false
    rw [empty]
    rfl
  asked key := serves.asked key

/-- What looks up no callable changes nothing of that. -/
theorem Follows.continues {after : Session} (follows : history.Follows reference name engine)
    (continues : history.session.Continues after) :
    ({ history with session := after } : History).Follows reference name engine := by
  obtain ⟨current, serves, same⟩ := follows.serves
  obtain ⟨kept, later, laterServes, continued⟩ := serves.continues continues
  exact {
    serves := ⟨later, laterServes, same.trans continued.register⟩
    faithful := by
      rw [kept]
      exact follows.faithful
    plain := follows.plain
    contains := fun key => by
      rw [kept]
      exact follows.contains key
    asked := fun key => by
      have before := follows.asked key
      rw [serves.asked] at before
      rw [laterServes.asked, Engine.asked, continued.lookups]
      exact before }

theorem failures_lookUp (reference : CacheReference) (history : History) (target : CallTarget)
    (key : TargetKey) :
    (history.lookUp reference target).failures key = history.failures key +
      if (Lookup.mk target (runFrom (resolve reference target) history.session).1).fails key
      then 1 else 0 := by
  simp [failures, lookUp, List.countP_append, List.countP_singleton]

theorem succeeds_lookUp (reference : CacheReference) (history : History) (target : CallTarget)
    (key : TargetKey) :
    (history.lookUp reference target).succeeds key = (history.succeeds key ||
      (Lookup.mk target (runFrom (resolve reference target) history.session).1).succeeds key) := by
  simp [succeeds, lookUp, List.any_append]

theorem Follows.lookUp (follows : history.Follows reference name engine) (target : CallTarget) :
    (history.lookUp reference target).Follows reference name engine := by
  obtain ⟨current, serves, same⟩ := follows.serves
  have looks := serves.looksUp target
  have faithful := (BindingCache.isFaithful_iff same _ name).mpr follows.faithful
  obtain ⟨later, laterServes, kept⟩ := looks.serves serves
  exact {
    serves := ⟨later, laterServes, same.trans kept⟩
    faithful := (BindingCache.isFaithful_iff same _ name).mp (looks.isFaithful serves faithful)
    plain := fun lookup made named => by
      rcases List.mem_append.mp made with made | made
      · exact follows.plain lookup made named
      · cases List.mem_singleton.mp made
        rw [← CallTarget.plain_of_register same]
        exact looks.outcome_eq faithful named
    contains := fun key => by
      rw [succeeds_lookUp, ← follows.contains]
      exact looks.contains serves key
    asked := fun key => by
      refine (looks.asked serves key).trans ?_
      rw [failures_lookUp, succeeds_lookUp, follows.asked, follows.contains]
      cases history.succeeds key with
      | true => simp [Nat.add_right_comm, Nat.add_assoc]
      | false => simp [Nat.add_assoc] }

theorem Follows.perform (follows : history.Follows reference name engine) (use : CacheUse) :
    (history.perform reference use).Follows reference name engine := by
  obtain ⟨current, serves, -⟩ := follows.serves
  unfold History.perform
  cases aims : use.target? with
  | none => exact follows.continues (use.continues_of_no_target serves.installed aims)
  | some target =>
      exact (follows.lookUp target).continues (use.continues_of_target serves.installed aims)

theorem Follows.performAll (follows : history.Follows reference name engine)
    (uses : List CacheUse) : (history.performAll reference uses).Follows reference name engine := by
  induction uses generalizing history with
  | nil => exact follows
  | cons use rest induction => exact induction (follows.perform use)

/-- A key that was found once is found again. -/
theorem Follows.settled (follows : history.Follows reference name engine) {key : TargetKey}
    (succeeded : history.succeeds key = true) (use : CacheUse) :
    (history.perform reference use).succeeds key = true ∧
      (history.perform reference use).failures key = history.failures key := by
  unfold History.perform
  cases aims : use.target? with
  | none => exact ⟨succeeded, rfl⟩
  | some target =>
      obtain ⟨current, serves, -⟩ := follows.serves
      have found := (serves.looksUp target).not_fails ((follows.contains key).trans succeeded)
      have still := history.succeeds_lookUp reference target key
      have never := history.failures_lookUp reference target key
      rw [succeeded, Bool.true_or] at still
      rw [found] at never
      exact ⟨still, never⟩

theorem Follows.settled_performAll (follows : history.Follows reference name engine)
    {key : TargetKey} (succeeded : history.succeeds key = true) (uses : List CacheUse) :
    (history.performAll reference uses).succeeds key = true ∧
      (history.performAll reference uses).failures key = history.failures key := by
  induction uses generalizing history with
  | nil => exact ⟨succeeded, rfl⟩
  | cons use rest induction =>
      have ⟨still, never⟩ := follows.settled succeeded use
      have ⟨last, same⟩ := induction (follows.perform use) still
      exact ⟨last, same.trans never⟩

/-- An engine is asked for a key no more once it gave out a callable for it. -/
theorem Follows.asked_performAll (follows : history.Follows reference name engine)
    {key : TargetKey} (succeeded : history.succeeds key = true) (uses : List CacheUse) :
    (history.performAll reference uses).session.asked name key =
      history.session.asked name key := by
  have ⟨still, never⟩ := follows.settled_performAll succeeded uses
  rw [(follows.performAll uses).asked, follows.asked, still, never, succeeded]

/-- Whether the look-ups that were made through a cache, and those that may come, give what an
engine has, and ask it no more than they have to. -/
structure Matches (history : History) (begun : Session) (reference : CacheReference)
    (name : String) (engine : Engine) : Prop where
  /-- Each look-up, on its own or in a call, gave what the engine has. -/
  outcomes : ∀ lookup ∈ history.lookups, lookup.target.IsNamed →
    lookup.outcome = lookup.target.plain name engine
  /-- That is what comes of the target without a cache. -/
  direct : ∀ target : CallTarget,
    (runFrom target.resolve history.session).1 = target.plain name engine
  /-- It is a callable, or the engine has none. That breaks an invariant, which is said in a message
  that quotes the hash; a hash that cannot be written fails there. -/
  found : ∀ target : CallTarget, target.IsWritten →
    (∃ callable, target.plain name engine = .ok callable) ∨
      target.plain name engine = .error
        (if target.hash.isWritable then .invariant target.absence else .unreadable)
  /-- No plan of a method that JSON describes has such a hash. -/
  planned : ∀ (plan : MarshalingPlan) (target : CallTarget) (key : TargetKey), plan.IsFromJson →
    CallTarget.ofPlan plan = .ok target → target.key = .ok key →
    (∃ callable, target.plain name engine = .ok callable) ∨
      ∃ cause, target.plain name engine = .error (.invariant cause)
  /-- A call goes on with what the engine has, or it fails with the look-up. -/
  calls : ∀ types plan arguments target,
    (CacheUse.call types plan arguments).target? = some target → target.IsNamed →
    runFrom (call ⟨types, reference⟩ plan arguments) history.session =
      match target.plain name engine with
      | .ok callable => runFrom (callResolved types plan arguments target callable)
          (history.lookUp reference target).session
      | .error failure => (.error failure, (history.lookUp reference target).session)
  /-- The engine is asked for a key as often as look-ups fail, and once for all that succeed. -/
  asked : ∀ key, history.session.asked name key =
    begun.asked name key + history.failures key + if history.succeeds key then 1 else 0
  /-- After the first success the engine is not asked again. -/
  settled : ∀ key, history.succeeds key = true → ∀ uses,
    (history.performAll reference uses).session.asked name key = history.session.asked name key
  /-- A look-up that fails leaves the cache as it is, and the engine was asked for it. -/
  retried : ∀ target failure,
    (runFrom (resolve reference target) history.session).1 = .error failure →
    (history.lookUp reference target).session.cache reference = history.session.cache reference ∧
      ∀ key, target.key = .ok key → (history.lookUp reference target).session.asked name key =
        history.session.asked name key + 1
  /-- What is remembered for a target stays as it is where another target is looked up. -/
  apart : ∀ target other key, target.IsWritten → other.IsWritten → target ≠ other →
    target.key = .ok key →
    ((history.lookUp reference other).session.cache reference).find? key =
      (history.session.cache reference).find? key

/-- Through a cache that starts out empty, and while nothing clears it, looking up callables is the
same as asking the engine for each of them, but for how often the engine is asked. -/
theorem lookups_match_engine {session : Session}
    (serves : session.Serves reference name engine) (empty : session.cache reference = [])
    (uses : List CacheUse) :
    ((start session).performAll reference uses).Matches session reference name engine := by
  have follows := (follows_start serves empty).performAll uses
  generalize (start session).performAll reference uses = history at follows
  obtain ⟨current, still, same⟩ := follows.serves
  have faithful := (BindingCache.isFaithful_iff same _ name).mpr follows.faithful
  have outcome : ∀ target : CallTarget, target.IsNamed →
      (runFrom (resolve reference target) history.session).1 = target.plain name engine :=
    fun target named => ((still.looksUp target).outcome_eq faithful named).trans
      (CallTarget.plain_of_register same target)
  exact {
    outcomes := follows.plain
    direct := fun target => (still.runFrom_resolve_eq_plain target).trans
      (CallTarget.plain_of_register same target)
    found := fun target written => by
      obtain ⟨key, keyed⟩ := CallTarget.exists_key_of_isWritten written
      rw [← CallTarget.raised_absence written]
      exact CallTarget.plain_cases keyed name engine
    planned := fun plan target key fromJson targeted keyed => by
      have worded := CallTarget.raised_absence_of_ofPlan fromJson.isQuotable targeted
      refine (CallTarget.plain_cases keyed name engine).imp_right fun absent => ?_
      exact ⟨target.absence, by rw [absent, worded]⟩
    calls := fun types plan arguments target aims named => by
      rw [CacheUse.runFrom_call_of_target still.installed aims, ← outcome target named]
      rcases looked : runFrom (resolve reference target) history.session with ⟨_ | _, _⟩
      · rw [runFrom_bind_of_error looked, lookUp, looked]
      · rw [runFrom_bind_of_ok looked, lookUp, looked]
    asked := fun key => by rw [follows.asked, serves.asked]
    settled := fun key => follows.asked_performAll
    retried := fun target failure failed => by
      have looks := still.looksUp target
      rw [failed] at looks
      exact looks.of_error still
    apart := fun target other key written otherWritten differs keyed => by
      have elsewhere := Lookup.isFor_of_ne written otherWritten differs keyed
      refine ((still.looksUp other).find? still key).trans ?_
      simp [Lookup.succeeds, elsewhere] }

/-! An engine with one method and one utility function, and a dispatcher with a cache of its own. -/

def silentScript : NativeScript where
  reads := []
  writes := []
  isVararg := false
  failure := none
  error := .ok

def smallEngine : Engine :=
  ((Engine.fresh "Engine" [] none).addMethod (.text "Node", .text "name", .integer 7)
    silentScript).1.addUtility (.text "sin", .integer 8) silentScript

def smallSession : Session :=
  { Session.empty with
    engines := [("engine", smallEngine)], installed := some "engine", ownCaches := [[]] }

/-- The method is looked up twice, and twice a method that the engine does not have. -/
def smallUses : List CacheUse :=
  [.resolve (.method (.text "Node") (.text "name") (.int 7)),
    .resolve (.method (.text "Node") (.text "title") (.int 7)),
    .resolve (.utility (.text "sin") (.int 8)),
    .between (.newString "a"),
    .resolve (.method (.text "Node") (.text "title") (.int 7)),
    .resolve (.method (.text "Node") (.text "name") (.int 7))]

theorem lookups_match_engine_of_small :
    let history := (start smallSession).performAll (.own 0) smallUses
    history.Matches smallSession (.own 0) "engine" smallEngine ∧
      history.session.asked "engine" (.method (.text "Node") (.text "name") (.integer 7)) = 1 ∧
      history.session.asked "engine" (.method (.text "Node") (.text "title") (.integer 7)) = 2 ∧
      history.session.asked "engine" (.utility (.text "sin") (.integer 8)) = 1 := by
  have serves : smallSession.Serves (.own 0) "engine" smallEngine := ⟨rfl, rfl, Nat.one_pos⟩
  have matched := lookups_match_engine serves rfl smallUses
  refine ⟨matched, ?_, ?_, ?_⟩
  · rw [matched.asked]
    decide +kernel
  · rw [matched.asked]
    decide +kernel
  · rw [matched.asked]
    decide +kernel

end History

end EngineBridge
