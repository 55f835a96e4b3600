import EngineBridge.Proofs.Call.Refusals
import EngineBridge.Proofs.Session.Installing

/-!
Where the callables in a cache come from.

An installation clears the shared cache, but not the caches that were made for single dispatchers.
`Traced` keeps, for each key in a cache, the engine that was installed when the key came into it.
That engine gave out the callable, and a call goes on with it whatever is installed by then. So the
calls through a cache follow the engine as long as nothing in it has an earlier origin, which is
always so of the shared one.
-/

namespace EngineBridge

open Bridge

/-- Whether the engine of a name gave out a callable for a key. -/
def Session.GaveBy (session : Session) (name : String) (key : TargetKey) (callable : Callable) :
    Prop :=
  ∃ engine, session.engines.get? name = some engine ∧ engine.Gave name 0 key callable

/-- What a session learns: its engines grow, its caches lose nothing, and what they gain the
installed engine gave out. -/
structure Session.Learns (before after : Session) : Prop where
  installed : after.installed = before.installed
  grows : ∀ name engine, before.engines.get? name = some engine →
    ∃ later, after.engines.get? name = some later ∧ engine.Grows later
  keeps : ∀ reference key callable, (before.cache reference).find? key = some callable →
    (after.cache reference).find? key = some callable
  learnt : ∀ reference key callable, (before.cache reference).find? key = none →
    (after.cache reference).find? key = some callable →
    ∃ name, after.installed = some name ∧ after.GaveBy name key callable

namespace Session

variable {before middle after : Session} {name : String} {key : TargetKey} {callable : Callable}

theorem GaveBy.later (gave : before.GaveBy name key callable)
    (grows : ∀ name engine, before.engines.get? name = some engine →
      ∃ later, after.engines.get? name = some later ∧ engine.Grows later) :
    after.GaveBy name key callable := by
  obtain ⟨engine, found, given⟩ := gave
  obtain ⟨later, kept, grown⟩ := grows name engine found
  exact ⟨later, kept, given.later grown⟩

theorem Learns.refl (session : Session) : session.Learns session where
  installed := rfl
  grows _ engine found := ⟨engine, found, refl_of Engine.Grows engine⟩
  keeps _ _ _ found := found
  learnt _ _ _ unknown found := by cases unknown.symm.trans found

theorem Learns.trans (left : before.Learns middle) (right : middle.Learns after) :
    before.Learns after where
  installed := right.installed.trans left.installed
  grows name engine found := by
    obtain ⟨later, kept, begun⟩ := left.grows name engine found
    obtain ⟨last, still, ended⟩ := right.grows name later kept
    exact ⟨last, still, trans_of Engine.Grows begun ended⟩
  keeps reference key callable found :=
    right.keeps reference key callable (left.keeps reference key callable found)
  learnt reference key callable unknown found := by
    cases known : (middle.cache reference).find? key with
    | none => exact right.learnt reference key callable known found
    | some other =>
        cases (right.keeps reference key other known).symm.trans found
        obtain ⟨name, installed, gave⟩ := left.learnt reference key callable unknown known
        exact ⟨name, right.installed.trans installed, gave.later right.grows⟩

instance : IsPreorder Session Learns where
  refl := .refl
  trans _ _ _ := .trans

theorem learns_of_same (installed : after.installed = before.installed)
    (grows : ∀ name engine, before.engines.get? name = some engine →
      ∃ later, after.engines.get? name = some later ∧ engine.Grows later)
    (same : ∀ reference, after.cache reference = before.cache reference) :
    before.Learns after where
  installed := installed
  grows := grows
  keeps reference _ _ found := (same reference).symm ▸ found
  learnt reference _ _ unknown found := by
    rw [same reference, unknown] at found
    cases found

/-- What looks up no callable learns none. -/
theorem Continues.learns (continues : before.Continues after) : before.Learns after := by
  refine learns_of_same (continues.stays 0).installed (fun name engine found => ?_)
    fun reference => ?_
  · obtain ⟨later, kept, continued⟩ := continues.engines name engine found
    exact ⟨later, kept, continued.toGrows⟩
  · cases reference with
    | shared => exact continues.sharedCache
    | own index => rw [cache, cache, continues.ownCaches]

/-- A cache is replaced alone, and only if there is one. -/
theorem cache_withCache_cases (session : Session) (reference other : CacheReference)
    (content : BindingCache) :
    other = reference ∧ (session.withCache reference content).cache other = content ∨
      (session.withCache reference content).cache other = session.cache other := by
  cases reference with
  | shared =>
      cases other with
      | shared => exact .inl ⟨rfl, rfl⟩
      | own index => exact .inr rfl
  | own index =>
      cases other with
      | shared => exact .inr rfl
      | own place =>
          by_cases same : place = index
          · subst same
            by_cases bounded : place < session.ownCaches.length
            · have hasCache : session.HasCache (.own place) := bounded
              exact .inl ⟨rfl, cache_withCache hasCache content⟩
            · refine .inr ?_
              simp [cache, withCache, bounded]
          · refine .inr ?_
            simp [cache, withCache, Ne.symm same]

theorem cache_learning_cases (session : Session) (reference other : CacheReference)
    (target : CallTarget) (key : TargetKey) (callable : Callable) :
    other = reference ∧ (session.learning reference target key callable).cache other =
        (session.cache other).remember key callable ∨
      (session.learning reference target key callable).cache other = session.cache other := by
  let content := (session.cache reference).remember key callable
  have caches : (session.learning reference target key callable).cache other =
      (session.withCache reference content).cache other := by
    cases other <;> rfl
  rw [caches]
  rcases session.cache_withCache_cases reference other content with ⟨rfl, same⟩ | same
  · exact .inl ⟨rfl, same⟩
  · exact .inr same

/-- A callable that the installed engine gave out may be remembered. -/
theorem learns_learning {session : Session} {reference : CacheReference}
    (installed : session.installed = some name) (gave : session.GaveBy name key callable)
    (unknown : (session.cache reference).find? key = none) (target : CallTarget) :
    session.Learns (session.learning reference target key callable) where
  installed := by cases reference <;> rfl
  grows name engine found :=
    ⟨engine, by cases reference <;> exact found, refl_of Engine.Grows engine⟩
  keeps other wanted known found := by
    rcases session.cache_learning_cases reference other target key callable with ⟨-, same⟩ | same
    · rw [same, BindingCache.find?_remember, found]
      rfl
    · rw [same, found]
  learnt other wanted known missing found := by
    rcases session.cache_learning_cases reference other target key callable with ⟨-, same⟩ | same
    · rw [same, BindingCache.find?_remember, missing, Option.none_or] at found
      obtain ⟨rfl, isCallable⟩ := Option.ite_none_right_eq_some.mp found
      cases isCallable
      exact ⟨name, by cases reference <;> exact installed, by cases reference <;> exact gave⟩
    · rw [same, missing] at found
      cases found

theorem learns_noting {session : Session} {engine : Engine}
    (found : session.engines.get? name = some engine) (target : CallTarget)
    (outcome : Except Failure Callable) :
    session.Learns (session.noting name engine target outcome) := by
  refine learns_of_same rfl (fun other present foundOther => ?_) fun reference =>
    session.cache_noting ..
  by_cases same : other = name
  · subst same
    cases found.symm.trans foundOther
    exact ⟨_, Entries.get?_put_self _ _ _, engine.grows_noted _⟩
  · exact ⟨present, (Entries.get?_put_of_ne same _ _).trans foundOther,
      refl_of Engine.Grows present⟩

end Session

namespace LooksUp

variable {session after : Session} {reference : CacheReference} {name : String} {engine : Engine}
  {target : CallTarget} {key : TargetKey} {callable : Callable}

/-- The engine that was asked gave out what it answered. -/
theorem gaveBy_noting (session : Session) (keyed : target.key = .ok key)
    (answered : target.answer key name engine = .ok callable) :
    (session.noting name engine target (.ok callable)).GaveBy name key callable :=
  ⟨_, Entries.get?_put_self _ _ _, gave_of_answer keyed answered (Nat.zero_le _)⟩

theorem learns {outcome : Except Failure Callable} (installed : session.installed = some name)
    (found : session.engines.get? name = some engine)
    (looks : LooksUp session reference name engine target outcome after) :
    session.Learns after := by
  cases looks with
  | unkeyed unkeyed => exact .refl session
  | known keyed found => exact .refl session
  | refused keyed unknown answered => exact session.learns_noting found target _
  | @learnt key callable keyed unknown answered =>
      refine (session.learns_noting found target (.ok callable)).trans ?_
      refine Session.learns_learning ?_ (gaveBy_noting session keyed answered) ?_ target
      · exact installed
      · rw [session.cache_noting, unknown]

/-- What a look-up finds is known, or the engine that was asked gave it out. -/
theorem known_or_gaveBy (keyed : target.key = .ok key)
    (looks : LooksUp session reference name engine target (.ok callable) after) :
    (session.cache reference).find? key = some callable ∧ after = session ∨
      (session.cache reference).find? key = none ∧ after.GaveBy name key callable := by
  cases looks with
  | known keyedToo found =>
      cases keyed.symm.trans keyedToo
      exact .inl ⟨found, rfl⟩
  | learnt keyedToo unknown answered =>
      cases keyed.symm.trans keyedToo
      obtain ⟨gave, found, given⟩ := gaveBy_noting session keyed answered
      exact .inr ⟨unknown, gave, by cases reference <;> exact found, given⟩

end LooksUp

namespace Bridge

theorem resolve_learns (reference : CacheReference) (target : CallTarget) :
    Advances Session.Learns (resolve reference target) := by
  intro session
  rcases resolve_cases reference target session with
    ⟨name, engine, installed, found, looks⟩ | ⟨same, -⟩
  · exact looks.learns installed found
  · rw [same]
    exact .refl session

theorem footprint_learns : Footprint Session.Learns where
  continues := Session.Continues.learns
  resolve := resolve_learns

end Bridge

/-- A program with the origins of what is in its caches: for each key in a cache, the engine that
was installed when the key came into it. -/
structure Traced where
  program : Program
  origins : CacheReference → TargetKey → Option String

namespace Traced

inductive Step where
  | program (step : Program.Step)
  | newCache
  | clearCache (reference : CacheReference)

/-- A program in which nothing was looked up yet. -/
def start (engines : Entries Engine) : Traced :=
  ⟨.start engines, fun _ _ => none⟩

/-- The session with the caches cleared that a step clears. -/
def cleared (session : Session) : Step → Session
  | .program (.install name) => Program.cleared session name
  | .clearCache reference => session.withCache reference []
  | .program _ | .newCache => session

def performed (program : Program) : Step → Program
  | .program step => program.perform step
  | .newCache => { program with session := (runFrom newCache program.session).2 }
  | .clearCache reference =>
      { program with session := (runFrom (clearCache reference) program.session).2 }

def perform (traced : Traced) (step : Step) : Traced where
  program := performed traced.program step
  origins reference key :=
    if ((cleared traced.program.session step).cache reference).contains key then
      traced.origins reference key
    else if ((performed traced.program step).session.cache reference).contains key then
      (performed traced.program step).session.installed
    else none

def performAll (traced : Traced) (steps : List Step) : Traced :=
  steps.foldl perform traced

/-- Whether each callable in a cache was given out by the origin of its key, which for the shared
cache is the engine that is installed. -/
structure IsSound (traced : Traced) : Prop where
  gave : ∀ reference key callable,
    (traced.program.session.cache reference).find? key = some callable →
      ∃ name, traced.origins reference key = some name ∧
        traced.program.session.GaveBy name key callable
  unknown : ∀ reference key, (traced.program.session.cache reference).find? key = none →
    traced.origins reference key = none
  shared : ∀ key name, traced.origins .shared key = some name →
    traced.program.session.installed = some name

variable {session : Session} {step : Step}

theorem engines_cleared (session : Session) (step : Step) :
    (cleared session step).engines = session.engines := by
  rcases step with (_ | _ | _) | _ | (_ | _) <;> rfl

/-- What is not cleared stays. -/
theorem find?_of_cleared {reference : CacheReference} {key : TargetKey} {callable : Callable}
    (found : ((cleared session step).cache reference).find? key = some callable) :
    (session.cache reference).find? key = some callable := by
  cases step with
  | program step =>
      cases step with
      | install name =>
          cases reference with
          | shared => cases found
          | own index => exact found
      | register hook => exact found
      | work piece => exact found
  | newCache => exact found
  | clearCache other =>
      rw [cleared] at found
      rcases session.cache_withCache_cases other reference [] with ⟨-, same⟩ | same
      · rw [same] at found
        cases found
      · rwa [same] at found

/-- What is left in the shared cache is left under the same engine. -/
theorem installed_of_cleared {key : TargetKey} {callable : Callable}
    (found : ((cleared session step).cache .shared).find? key = some callable) :
    (cleared session step).installed = session.installed := by
  cases step with
  | program step =>
      cases step with
      | install name => cases found
      | register hook => rfl
      | work piece => rfl
  | newCache => rfl
  | clearCache other => cases other <;> rfl

/-- Apart from what it clears, a step only learns. -/
theorem performed_learns (program : Program) (step : Step) :
    (cleared program.session step).Learns (performed program step).session := by
  cases step with
  | program step =>
      cases step with
      | install name => exact footprint_learns.installation program name
      | register hook => exact .refl program.session
      | work piece => exact footprint_learns.work piece program.session
  | newCache =>
      refine Session.learns_of_same rfl
        (fun name engine found => ⟨engine, found, refl_of Engine.Grows engine⟩) fun reference => ?_
      cases reference with
      | shared => rfl
      | own index =>
          change ((program.session.ownCaches ++ [[]])[index]?).getD [] = _
          rw [List.getElem?_append]
          split
          · rfl
          · rename_i beyond
            rw [List.getElem?_singleton]
            change _ = (program.session.ownCaches[index]?).getD []
            rw [List.getElem?_eq_none (Nat.le_of_not_lt beyond)]
            split <;> rfl
  | clearCache reference => exact .refl _

theorem isSound_start (engines : Entries Engine) : (start engines).IsSound where
  gave reference key callable found := by cases reference <;> cases found
  unknown _ _ _ := rfl
  shared key name known := by cases known

theorem IsSound.perform {traced : Traced} (sound : traced.IsSound) (step : Step) :
    (traced.perform step).IsSound := by
  have learns := performed_learns traced.program step
  refine ⟨fun reference key callable found => ?_, fun reference key missing => ?_,
    fun key name known => ?_⟩
  · change ((performed traced.program step).session.cache reference).find? key = _ at found
    cases left : ((cleared traced.program.session step).cache reference).find? key with
    | some other =>
        cases (learns.keeps reference key other left).symm.trans found
        obtain ⟨name, origin, gave⟩ := sound.gave reference key callable (find?_of_cleared left)
        refine ⟨name, ?_, gave.later fun other engine foundOther => ?_⟩
        · simp [Traced.perform, BindingCache.contains, left, origin]
        · exact learns.grows other engine ((engines_cleared _ _).symm ▸ foundOther)
    | none =>
        obtain ⟨name, installed, gave⟩ := learns.learnt reference key callable left found
        exact ⟨name, by simp [Traced.perform, BindingCache.contains, left, found, installed], gave⟩
  · change ((performed traced.program step).session.cache reference).find? key = _ at missing
    cases left : ((cleared traced.program.session step).cache reference).find? key with
    | some other => cases (learns.keeps reference key other left).symm.trans missing
    | none => simp [Traced.perform, BindingCache.contains, left, missing]
  · change (performed traced.program step).session.installed = some name
    cases left : ((cleared traced.program.session step).cache .shared).find? key with
    | some callable =>
        rw [learns.installed, installed_of_cleared left]
        exact sound.shared key name (by simpa [Traced.perform, BindingCache.contains, left]
          using known)
    | none =>
        simp only [Traced.perform, BindingCache.contains, left, Option.isSome_none,
          Bool.false_eq_true, if_false] at known
        exact (Option.ite_none_right_eq_some.mp known).2

theorem IsSound.performAll {traced : Traced} (sound : traced.IsSound) (steps : List Step) :
    (traced.performAll steps).IsSound := by
  induction steps generalizing traced with
  | nil => exact sound
  | cons step rest induction => exact induction (sound.perform step)

/-- What a look-up finds was given out by the origin of its key, or, where there is none, by the
engine that is installed. -/
theorem IsSound.gave_of_resolved {traced : Traced} (sound : traced.IsSound)
    {reference : CacheReference} {target : CallTarget} {key : TargetKey} {name : String}
    {callable : Callable} {after : Session} (keyed : target.key = .ok key)
    (installed : traced.program.session.installed = some name)
    (resolved : runFrom (resolve reference target) traced.program.session = (.ok callable, after)) :
    after.GaveBy ((traced.origins reference key).getD name) key callable := by
  have ofKnown : (traced.program.session.cache reference).find? key = some callable →
      traced.program.session.GaveBy ((traced.origins reference key).getD name) key callable := by
    intro known
    obtain ⟨origin, told, gave⟩ := sound.gave reference key callable known
    rw [told]
    exact gave
  have looked := resolve_cases reference target traced.program.session
  rw [resolved] at looked
  dsimp only at looked
  rcases looked with ⟨other, engine, answering, found, looks⟩ | ⟨same, known⟩
  · cases installed.symm.trans answering
    rcases looks.known_or_gaveBy keyed with ⟨known, same⟩ | ⟨unknown, gave⟩
    · rw [same]
      exact ofKnown known
    · rw [sound.unknown reference key unknown]
      exact gave
  · obtain ⟨own, keyedToo, found⟩ := known callable rfl
    cases keyed.symm.trans keyedToo
    rw [same]
    exact ofKnown found

/-- A call enters nothing, or else only what the origin of its key gave out. -/
theorem IsSound.call_enters_origin {traced : Traced} (sound : traced.IsSound)
    (dispatcher : Dispatcher) (plan : MarshalingPlan) (arguments : CallArguments) :
    let session := traced.program.session
    let after := (runFrom (call dispatcher plan arguments) session).2
    (∀ name, after.callsOf name = session.callsOf name) ∨
      ∃ name target key callable, session.installed = some name ∧
        plan.callTarget arguments = .ok target ∧ target.key = .ok key ∧
        after.GaveBy ((traced.origins dispatcher.cache key).getD name) key callable ∧
        session.EntersAtMostOnce callable after := by
  intro session after
  cases bound : plan.isVirtual with
  | true =>
      refine .inl fun name => ?_
      change (runFrom (call dispatcher plan arguments) session).2.callsOf name = _
      rw [call_of_virtual bound]
      rfl
  | false =>
      cases passage bound dispatcher arguments session with
      | barred ran calls =>
          refine .inl fun name => ?_
          change (runFrom (call dispatcher plan arguments) session).2.callsOf name = _
          rw [ran, calls]
      | @entered name target callable receiver found middle operands releases pointers accepted
          installed targeted resolved received handed all pointed silent ran once =>
          have aims : plan.callTarget arguments = .ok target := by
            rw [MarshalingPlan.callTarget, accepted]
            exact targeted
          obtain ⟨key, _, looked, -⟩ := exists_of_runFrom_bind resolved
          obtain ⟨keyed, -⟩ := of_runFrom_lift looked
          have ended : after = (runFrom (callResolved dispatcher.types plan arguments target
              callable) found).2 := by
            change (runFrom (call dispatcher plan arguments) session).2 = _
            rw [runFrom_call_of_bound installed bound, aims, runFrom_bind_of_ok (runFrom_lift _ _),
              runFrom_bind_of_ok resolved]
          have learns : found.Learns after := ended ▸
            (callResolved_continuing dispatcher.types plan arguments target callable found).learns
          exact .inr ⟨name, target, key, callable, installed, aims, keyed,
            (sound.gave_of_resolved keyed installed resolved).later learns.grows, once⟩

/-- In every state that a program comes to, what is in a cache was given out by the origin of its
key, which for the shared cache is the engine that is installed. An installation leaves the
callables in all other caches, with their origins. A call enters nothing, or one callable at most:
one that the origin of its key gave out, or, where its cache has none, the installed engine. -/
theorem calls_follow_origins (engines : Entries Engine) (steps : List Step) :
    let traced := (start engines).performAll steps
    let session := traced.program.session
    traced.IsSound ∧
    (∀ engine index key callable, (session.cache (.own index)).find? key = some callable →
      let replaced := traced.perform (.program (.install engine))
      (replaced.program.session.cache (.own index)).find? key = some callable ∧
        replaced.origins (.own index) key = traced.origins (.own index) key) ∧
    ∀ dispatcher plan arguments,
      let after := (runFrom (call dispatcher plan arguments) session).2
      (∀ name, after.callsOf name = session.callsOf name) ∨
        ∃ name target key callable, session.installed = some name ∧
          plan.callTarget arguments = .ok target ∧ target.key = .ok key ∧
          after.GaveBy ((traced.origins dispatcher.cache key).getD name) key callable ∧
          session.EntersAtMostOnce callable after := by
  intro traced session
  have sound : traced.IsSound := (isSound_start engines).performAll steps
  refine ⟨sound, fun engine index key callable found => ⟨?_, ?_⟩, sound.call_enters_origin⟩
  · have learns := footprint_learns.installation traced.program engine
    exact learns.keeps (.own index) key callable found
  · have left : ((cleared session (.program (.install engine))).cache (.own index)).contains key :=
      Option.isSome_of_eq_some found
    exact if_pos left

/-! Two engines, of which the second has another method under the number that the first has for the
method that is called. -/

namespace Replaced

def draft : MethodDraft where
  name := .text "stop"
  arguments := []
  returnValue := none
  isStatic := .bool true
  isVirtual := false
  isVararg := .bool false
  abiHash := .int 7

def compiled : Except Failure MarshalingPlan :=
  ((PlanCompiler.mk (.bundled []) .none).compile draft (.text "Motor") .classMethod).outcome

def key (methodName : String) : MethodKey := (.text "Motor", .text methodName, .integer 7)

def script : NativeScript where
  reads := []
  writes := []
  isVararg := false
  failure := none
  error := .ok

def first : Engine :=
  ((Engine.fresh "Engine" [] none).addMethod (key "stop") script).1

def second : Engine :=
  (((Engine.fresh "Engine" [] none).addMethod (key "start") script).1.addMethod (key "stop")
    script).1

def dispatcher : Dispatcher := ⟨ResultTypes.none, .own 0⟩

def steps (plan : MarshalingPlan) : List Step :=
  [.newCache, .program (.install (some "first")),
    .program (.work (.call dispatcher plan ⟨.nothing, [], []⟩)),
    .program (.install (some "second")),
    .program (.work (.call dispatcher plan ⟨.nothing, [], []⟩))]

/-- The numbers of the methods that are entered, in order. -/
def enteredNumbers (engine : Engine) : List Nat :=
  engine.events.filterMap fun
    | .pointerCall number _ _ => some number
    | _ => none

/-- The numbers that are entered in the second engine, and how often it is asked for a callable. -/
def outcome : Except Failure (Option (List Nat × Nat)) := do
  let plan ← compiled
  let last := (start [("first", first), ("second", second)]).performAll (steps plan)
  return (last.program.session.engines.get? "second").map fun engine =>
    (enteredNumbers engine, engine.lookups.length)

end Replaced

/-- The second engine has the called method under a number of its own, but what is entered in it is
the number of the first, which is that of another of its methods. -/
theorem enters_number_of_former_engine :
    Replaced.outcome.toOption = some (some ([4096], 0)) ∧
      Replaced.second.methods.lookup (Replaced.key "start") = some 4096 ∧
      Replaced.second.methods.lookup (Replaced.key "stop") = some 4097 := by
  decide +kernel

end Traced

end EngineBridge
