import EngineBridge.Proofs.Call.Prepared
import EngineBridge.Proofs.Engine.Growth
import EngineBridge.Session.Dispatcher

/-!
What a session remembers of its engine.

`Session.IsCurrent` says that everything in the function tables and in the shared cache was given
out by the engine that is installed, when it was asked for it since it was installed. Every
operation keeps a session current, whatever it comes to, and leaves the same engine installed.
`Session.Continues` says besides that no callable was looked up and that the caches are the same,
and `Session.Silence` that none was entered.
-/

namespace EngineBridge

namespace Engine

/-- The tables that an engine gave out, which it was asked for after the events that had been heard
before. -/
structure GaveTables (engine : Engine) (name : String) (heard : Nat) (tables : FunctionTables) :
    Prop where
  answered : tables = engine.functionTables name
  asked : Event.tables ∈ engine.events.drop heard

/-- The callable that an engine gave out for a key, which it was asked for after the events that had
been heard before. -/
inductive Gave (engine : Engine) (name : String) (heard : Nat) : TargetKey → Callable → Prop
  | method {className methodName hash : Document} {classKey methodKey hashKey : Document.Key}
      {number : Nat} (owner : className.keyOf = .ok classKey)
      (named : methodName.keyOf = .ok methodKey) (hashed : hash.keyOf = .ok hashKey)
      (registered : engine.methods.lookup (classKey, methodKey, hashKey) = some number)
      (asked : .methodLookup className methodName hash number ∈ engine.events.drop heard) :
      Gave engine name heard (.method classKey methodKey hashKey) (.bind number)
  | utility {called hash : Document} {calledKey hashKey : Document.Key} {script : NativeScript}
      (named : called.keyOf = .ok calledKey) (hashed : hash.keyOf = .ok hashKey)
      (registered : engine.utilities.lookup (calledKey, hashKey) = some script)
      (asked : .utilityLookup called hash true ∈ engine.events.drop heard) :
      Gave engine name heard (.utility calledKey hashKey) (.function name called script)

/-- The routine that an engine gives out for a type, where it has one. -/
def routine? (engine : Engine) (name : String) (gtype : GType) : Option Routine :=
  if engine.missing.contains (gtype.number : Int) then none else some ⟨name, gtype⟩

variable {before after : Engine} {name : String} {heard : Nat}

/-- The place of a type in the tables is its number. -/
theorem getElem?_functionTables (engine : Engine) (name : String) {gtype : GType}
    (notNil : gtype ≠ .nil) (notMax : gtype ≠ .max) :
    (engine.functionTables name).fromType[gtype.number]? = some (engine.routine? name gtype) := by
  rw [functionTables, FunctionTables.getElem?_ofAnswers notNil notMax, routine?]
  split <;> rfl

theorem Grows.mem_drop (grows : before.Grows after) {event : Event}
    (member : event ∈ before.events.drop heard) : event ∈ after.events.drop heard := by
  obtain ⟨noted, same⟩ := grows.events
  rw [← same, List.drop_append]
  exact List.mem_append_left _ member

theorem GaveTables.later {tables : FunctionTables} (gave : before.GaveTables name heard tables)
    (grows : before.Grows after) : after.GaveTables name heard tables where
  answered := by
    rw [gave.answered, functionTables, functionTables, grows.register.missing]
  asked := grows.mem_drop gave.asked

theorem Gave.later {key : TargetKey} {callable : Callable}
    (gave : before.Gave name heard key callable) (grows : before.Grows after) :
    after.Gave name heard key callable := by
  cases gave with
  | method owner named hashed registered asked =>
      rw [← grows.register.methods] at registered
      exact .method owner named hashed registered (grows.mem_drop asked)
  | utility named hashed registered asked =>
      rw [← grows.register.utilities] at registered
      exact .utility named hashed registered (grows.mem_drop asked)

end Engine

/-- What an engine notes when it is asked for a target, by what comes of it. -/
def CallTarget.event (target : CallTarget) (outcome : Except Failure Callable) : Event :=
  match target, outcome with
  | .method className methodName hash, .ok (.bind number) =>
      .methodLookup className methodName hash number
  | .method className methodName hash, _ => .methodLookup className methodName hash 0
  | .utility called hash, outcome => .utilityLookup called hash outcome.isOk

namespace Session

/-- Whether something holds of the installed engine. -/
def Backs (session : Session) (holds : String → Engine → Prop) : Prop :=
  ∃ name engine, session.installed = some name ∧ session.engines.get? name = some engine ∧
    holds name engine

/-- Whether the engine that is installed gave out all that is remembered, after the events that had
been heard before. -/
structure IsCurrent (session : Session) (heard : Nat) : Prop where
  bounded : ∀ name engine, session.installed = some name →
    session.engines.get? name = some engine → heard ≤ engine.events.length
  tables : ∀ tables, session.tables = some tables →
    session.Backs fun name engine => engine.GaveTables name heard tables
  cached : ∀ key callable, (key, callable) ∈ session.sharedCache →
    session.Backs fun name engine => engine.Gave name heard key callable

/-- What an operation leaves of a session: the installed engine, and its being current. -/
structure Stays (heard : Nat) (before after : Session) : Prop where
  installed : after.installed = before.installed
  current : before.IsCurrent heard → after.IsCurrent heard

instance (heard : Nat) : IsPreorder Session (Stays heard) where
  refl _ := ⟨rfl, id⟩
  trans _ _ _ left right := ⟨right.installed.trans left.installed, right.current ∘ left.current⟩

variable {heard : Nat}

/-- Owners, records and the caches of single dispatchers do not matter. -/
theorem stays_with (session : Session) (variants : List VariantCell) (strings : List StringCell)
    (ownCaches : List BindingCache) (records : List Log.Record) :
    session.Stays heard { session with variants, strings, ownCaches, records } :=
  ⟨rfl, fun current => ⟨current.bounded, current.tables, current.cached⟩⟩

theorem Backs.put {session : Session} {holds : String → Engine → Prop} (backs : session.Backs holds)
    {name : String} {engine after : Engine} (found : session.engines.get? name = some engine)
    (kept : holds name engine → holds name after) :
    Backs { session with engines := session.engines.put name after } holds := by
  obtain ⟨other, present, installed, foundOther, held⟩ := backs
  by_cases same : other = name
  · subst same
    cases found.symm.trans foundOther
    exact ⟨other, after, installed, Entries.get?_put_self _ _ _, kept held⟩
  · exact ⟨other, present, installed, (Entries.get?_put_of_ne same _ _).trans foundOther, held⟩

/-- An engine that grows gave out all that it gave out before. -/
theorem stays_put {session : Session} {name : String} {engine after : Engine}
    (found : session.engines.get? name = some engine) (grows : engine.Grows after) :
    session.Stays heard { session with engines := session.engines.put name after } where
  installed := rfl
  current current := {
    bounded := by
      intro other present installed foundOther
      by_cases same : other = name
      · subst same
        cases (Entries.get?_put_self _ _ _).symm.trans foundOther
        exact Nat.le_trans (current.bounded other engine installed found) grows.events.length_le
      · exact current.bounded other present installed
          ((Entries.get?_put_of_ne same _ _).symm.trans foundOther)
    tables := fun tables known => (current.tables tables known).put found fun gave =>
      gave.later grows
    cached := fun key callable member => (current.cached key callable member).put found fun gave =>
      gave.later grows }

/-- What an operation leaves of a session if it looks up no callable: besides that, the caches, and
every engine as one that was asked for no callable. -/
structure Continues (before after : Session) : Prop where
  stays : ∀ heard, before.Stays heard after
  sharedCache : after.sharedCache = before.sharedCache
  ownCaches : after.ownCaches = before.ownCaches
  engines : ∀ name engine, before.engines.get? name = some engine →
    ∃ later, after.engines.get? name = some later ∧ engine.Continues later

/-- The entries into the callables of a named engine so far. -/
def callsOf (session : Session) (name : String) : Option (List Event) :=
  (session.engines.get? name).map Engine.calls

/-- Silence between two sessions: no callable was looked up, and none was entered. -/
structure Silence (before after : Session) : Prop extends before.Continues after where
  calls : ∀ name, after.callsOf name = before.callsOf name

instance : IsPreorder Session Continues where
  refl session := ⟨fun heard => refl_of (Stays heard) session, rfl, rfl,
    fun _ engine found => ⟨engine, found, refl_of Engine.Continues engine⟩⟩
  trans _ _ _ left right := {
    stays := fun heard => trans_of (Stays heard) (left.stays heard) (right.stays heard)
    sharedCache := right.sharedCache.trans left.sharedCache
    ownCaches := right.ownCaches.trans left.ownCaches
    engines := by
      intro name engine found
      obtain ⟨middle, present, begun⟩ := left.engines name engine found
      obtain ⟨later, kept, ended⟩ := right.engines name middle present
      exact ⟨later, kept, trans_of Engine.Continues begun ended⟩ }

instance : IsPreorder Session Silence where
  refl session := ⟨refl_of Continues session, fun _ => rfl⟩
  trans _ _ _ left right := ⟨trans_of Continues left.toContinues right.toContinues,
    fun name => (right.calls name).trans (left.calls name)⟩

/-- Owners and records are changed in silence. -/
theorem silence_with (session : Session) (variants : List VariantCell)
    (strings : List StringCell) (records : List Log.Record) :
    session.Silence { session with variants, strings, records } where
  stays _ := session.stays_with variants strings session.ownCaches records
  sharedCache := rfl
  ownCaches := rfl
  engines _ engine found := ⟨engine, found, refl_of Engine.Continues engine⟩
  calls _ := rfl

theorem continues_put {session : Session} {name : String} {engine after : Engine}
    (found : session.engines.get? name = some engine) (continues : engine.Continues after) :
    session.Continues { session with engines := session.engines.put name after } where
  stays _ := stays_put found continues.toGrows
  sharedCache := rfl
  ownCaches := rfl
  engines := by
    intro other present foundOther
    by_cases same : other = name
    · subst same
      cases found.symm.trans foundOther
      exact ⟨after, Entries.get?_put_self _ _ _, continues⟩
    · exact ⟨present, (Entries.get?_put_of_ne same _ _).trans foundOther,
        refl_of Engine.Continues present⟩

theorem callsOf_put {session : Session} {name : String} {engine after : Engine}
    (found : session.engines.get? name = some engine) (same : after.calls = engine.calls)
    (other : String) :
    callsOf { session with engines := session.engines.put name after } other =
      session.callsOf other := by
  change Option.map Engine.calls ((session.engines.put name after).get? other) = _
  by_cases isSame : other = name
  · subst isSame
    rw [Entries.get?_put_self, callsOf, found]
    exact congrArg some same
  · rw [Entries.get?_put_of_ne isSame]
    rfl

theorem silence_put {session : Session} {name : String} {engine after : Engine}
    (found : session.engines.get? name = some engine) (silence : engine.Silence after) :
    session.Silence { session with engines := session.engines.put name after } where
  toContinues := continues_put found silence.toContinues
  calls := callsOf_put found silence.calls

end Session

namespace Bridge

variable {α β : Type}

/-- Whether an operation looks up no callable, whatever it comes to. -/
def Continuing (operation : Bridge α) : Prop :=
  Advances Session.Continues operation

/-- Whether an operation besides enters no callable. -/
def Silent (operation : Bridge α) : Prop :=
  Advances Session.Silence operation

theorem Silent.continuing {operation : Bridge α} (silent : Silent operation) :
    Continuing operation :=
  fun session => (silent session).toContinues

theorem native_stays {action : Native α} (growing : action.Growing) (heard : Nat) :
    Advances (Session.Stays heard) (native action) :=
  .bind .installedEngine fun _ => .nativeOn fun _ engine found =>
    Session.stays_put found (growing engine)

theorem runOn_continuing {action : StateM Engine α}
    (continues : ∀ engine : Engine, engine.Continues (action.run engine).2) (name : String) :
    Continuing (runOn name action) :=
  Advances.runOn fun _ engine found => Session.continues_put found (continues engine)

theorem nativeOn_silent {action : Native α} (silent : action.Silent) (name : String) :
    Silent (nativeOn name action) :=
  Advances.nativeOn fun _ engine found => Session.silence_put found (silent engine)

theorem native_silent {action : Native α} (silent : action.Silent) : Silent (native action) :=
  .bind .installedEngine fun name => nativeOn_silent silent name

theorem emit_silent (record : Log.Record) : Silent (emit record) :=
  fun session => session.silence_with ..

theorem runFrom_installedEngine {session : Session} {name : String}
    (installed : session.installed = some name) :
    runFrom installedEngine session = (.ok name, session) := by
  unfold installedEngine
  rw [runFrom_bind_of_ok (runFrom_get _), installed]
  rfl

theorem runFrom_installedEngine_of_none {session : Session} (none : session.installed = none) :
    runFrom installedEngine session = (.error .noEngine, session) := by
  unfold installedEngine
  rw [runFrom_bind_of_ok (runFrom_get _), none]
  rfl

theorem runFrom_nativeOn {session : Session} {name : String} {engine : Engine}
    (found : session.engines.get? name = some engine) (action : Native α) :
    runFrom (nativeOn name action) session = ((runFrom action engine).1,
      { session with engines := session.engines.put name (runFrom action engine).2 }) := by
  have ran : runFrom (runOn name action.run) session = (.ok (runFrom action engine).1,
      { session with engines := session.engines.put name (runFrom action engine).2 }) := by
    unfold runOn
    rw [runFrom_bind_of_ok (runFrom_get _), found]
    rfl
  unfold nativeOn
  rw [runFrom_bind_of_ok ran]
  cases (runFrom action engine).1 <;> rfl

theorem runFrom_nativeOn_of_missing {session : Session} {name : String}
    (missing : session.engines.get? name = none) (action : Native α) :
    runFrom (nativeOn name action) session = (.error .noEngine, session) := by
  refine runFrom_bind_of_error ?_ _
  unfold runOn
  rw [runFrom_bind_of_ok (runFrom_get _), missing]
  rfl

/-- An action on the installed engine either changes this engine only, or there is no engine. -/
theorem runFrom_native_cases (session : Session) (action : Native α) :
    (∃ name engine, session.installed = some name ∧ session.engines.get? name = some engine ∧
      runFrom (native action) session = ((runFrom action engine).1,
        { session with engines := session.engines.put name (runFrom action engine).2 })) ∨
    session.engine? = none ∧ runFrom (native action) session = (.error .noEngine, session) := by
  unfold native Session.engine?
  rcases Option.eq_none_or_eq_some session.installed with installed | ⟨name, installed⟩
  · exact .inr ⟨by rw [installed]; rfl,
      runFrom_bind_of_error (runFrom_installedEngine_of_none installed) _⟩
  rw [runFrom_bind_of_ok (runFrom_installedEngine installed)]
  rcases Option.eq_none_or_eq_some (session.engines.get? name) with missing | ⟨engine, found⟩
  · exact .inr ⟨by rw [installed]; exact missing, runFrom_nativeOn_of_missing missing action⟩
  · exact .inl ⟨name, engine, installed, found, runFrom_nativeOn found action⟩

/-- The tables of the installed engine, resolved by some way of asking for its routines. -/
def tablesBy (lookUp : Native (List (Option GType))) : Bridge FunctionTables := do
  match (← get).tables with
  | some tables => return tables
  | none => do
      let engine ← installedEngine
      let tables := FunctionTables.ofAnswers engine (← native lookUp)
      emit (tablesRecord tables)
      modify fun session => { session with tables := some tables }
      return tables

/-- Tables that are known are not asked for, and tables that cannot be had stay unknown. -/
theorem tablesBy_cases (lookUp : Native (List (Option GType))) (session : Session) :
    (∃ tables, session.tables = some tables ∧
      runFrom (tablesBy lookUp) session = (.ok tables, session)) ∨
    session.tables = none ∧
      ((∃ failure, runFrom (tablesBy lookUp) session =
        (.error failure, (runFrom (native lookUp) session).2)) ∨
      ∃ name engine answers after, session.installed = some name ∧
        session.engines.get? name = some engine ∧
        runFrom lookUp engine = (.ok answers, after) ∧
        runFrom (tablesBy lookUp) session = (.ok (.ofAnswers name answers), { session with
          engines := session.engines.put name after
          records := session.records ++ [tablesRecord (.ofAnswers name answers)]
          tables := some (.ofAnswers name answers) })) := by
  unfold tablesBy
  rw [runFrom_bind_of_ok (runFrom_get _)]
  cases known : session.tables with
  | some tables => exact .inl ⟨tables, rfl, rfl⟩
  | none =>
      refine .inr ⟨rfl, ?_⟩
      dsimp only
      rcases runFrom_native_cases session lookUp with
        ⟨name, engine, installed, found, ran⟩ | ⟨-, ran⟩
      · rw [runFrom_bind_of_ok (runFrom_installedEngine installed)]
        rcases asked : runFrom lookUp engine with ⟨outcome, after⟩
        rw [asked] at ran
        cases outcome with
        | error failure => exact .inl ⟨failure, by rw [runFrom_bind_of_error ran, ran]⟩
        | ok answers =>
            refine .inr ⟨name, engine, answers, after, installed, found, asked, ?_⟩
            rw [runFrom_bind_of_ok ran]
            rfl
      · refine .inl ⟨.noEngine, ?_⟩
        cases installed : session.installed with
        | none =>
            rw [runFrom_bind_of_error (runFrom_installedEngine_of_none installed), ran]
        | some name =>
            rw [runFrom_bind_of_ok (runFrom_installedEngine installed), runFrom_bind_of_error ran,
              ran]

/-- Tables are resolved all at once: where this fails they are as unknown as before. -/
theorem tables_of_error {lookUp : Native (List (Option GType))} {session : Session}
    {failure : Failure} (failed : (runFrom (tablesBy lookUp) session).1 = .error failure) :
    (runFrom (tablesBy lookUp) session).2.tables = none := by
  rcases tablesBy_cases lookUp session with ⟨tables, known, ran⟩ | ⟨unknown, refused | resolved⟩
  · rw [ran] at failed
    cases failed
  · obtain ⟨cause, ran⟩ := refused
    rw [ran]
    rcases runFrom_native_cases session lookUp with ⟨name, engine, -, -, acted⟩ | ⟨-, acted⟩
    · rw [acted]
      exact unknown
    · rw [acted]
      exact unknown
  · obtain ⟨name, engine, answers, after, -, -, -, ran⟩ := resolved
    rw [ran] at failed
    cases failed

/-- Whether tables that are made of answers are those that the engine gave out for them. -/
def GivesTables (lookUp : Native (List (Option GType))) : Prop :=
  ∀ engine answers after name heard, heard ≤ engine.events.length →
    runFrom lookUp engine = (.ok answers, after) →
    after.GaveTables name heard (.ofAnswers name answers)

theorem tablesBy_silent {lookUp : Native (List (Option GType))} (silent : lookUp.Silent)
    (gives : GivesTables lookUp) : Silent (tablesBy lookUp) := by
  intro session
  rcases tablesBy_cases lookUp session with ⟨tables, known, ran⟩ | ⟨unknown, failed | resolved⟩
  · rw [ran]
    exact refl_of Session.Silence session
  · obtain ⟨failure, ran⟩ := failed
    rw [ran]
    exact native_silent silent session
  · obtain ⟨name, engine, answers, after, installed, found, asked, ran⟩ := resolved
    have silence : session.Silence _ := Session.silence_put found (silent.relates asked)
    rw [ran]
    refine { silence with stays := fun heard => ⟨rfl, fun current => ?_⟩ }
    have kept := (silence.stays heard).current current
    refine ⟨kept.bounded, ?_, kept.cached⟩
    rintro tables ⟨⟩
    exact ⟨name, after, installed, Entries.get?_put_self _ _ _,
      gives engine answers after name heard (current.bounded name engine installed found) asked⟩

theorem mem_drop_concat {events : List Event} {heard : Nat} (bounded : heard ≤ events.length)
    (event : Event) : event ∈ (events ++ [event]).drop heard := by
  rw [List.drop_append_of_le_length bounded]
  exact List.mem_append_right _ (List.mem_singleton_self event)

theorem lookUpConstructors_gives : GivesTables Native.lookUpConstructors := by
  rintro engine answers after name heard bounded ⟨⟩
  exact ⟨rfl, mem_drop_concat bounded .tables⟩

theorem functionTables_silent : Silent functionTables :=
  tablesBy_silent Native.lookUpConstructors_silent lookUpConstructors_gives

/-- The engine is asked for the key of a target, or there is no engine. -/
theorem resolve_target_cases {target : CallTarget} {key : TargetKey}
    (keyed : target.key = .ok key) (session : Session) :
    (∃ name engine, session.installed = some name ∧ session.engines.get? name = some engine ∧
      runFrom target.resolve session = (target.answer key name engine, { session with
        engines := session.engines.put name
          (engine.noted (target.event (target.answer key name engine))) })) ∨
    session.engine? = none ∧ runFrom target.resolve session = (.error .noEngine, session) := by
  cases target with
  | method className methodName hash =>
      obtain ⟨first, second, third, rfl, keys⟩ := keys_of_method keyed
      unfold CallTarget.resolve
      rcases runFrom_native_cases session (Native.lookUpMethod className methodName hash) with
        ⟨name, engine, installed, found, ran⟩ | ⟨absent, ran⟩
      · refine .inl ⟨name, engine, installed, found, ?_⟩
        rw [(Native.lookUpMethod_yields engine (first, second, third) keys).ran] at ran
        rw [runFrom_bind_of_ok ran]
        simp only [CallTarget.answer]
        cases missing : (engine.methods.lookup (first, second, third)).getD 0 == 0 with
        | true =>
            rw [beq_iff_eq.mp missing]
            rfl
        | false => rfl
      · exact .inr ⟨absent, runFrom_bind_of_error ran _⟩
  | utility called hash =>
      obtain ⟨first, second, rfl, keys⟩ := keys_of_utility keyed
      unfold CallTarget.resolve
      rcases Option.eq_none_or_eq_some session.installed with none | ⟨name, installed⟩
      · exact .inr ⟨by rw [Session.engine?, none]; rfl,
          runFrom_bind_of_error (runFrom_installedEngine_of_none none) _⟩
      rw [runFrom_bind_of_ok (runFrom_installedEngine installed)]
      rcases runFrom_native_cases session (Native.lookUpUtility called hash) with
        ⟨other, engine, same, found, ran⟩ | ⟨absent, ran⟩
      · cases installed.symm.trans same
        refine .inl ⟨name, engine, installed, found, ?_⟩
        rw [(Native.lookUpUtility_yields engine (first, second) keys).ran] at ran
        rw [runFrom_bind_of_ok ran]
        simp only [CallTarget.answer]
        cases engine.utilities.lookup (first, second) <;> rfl
      · exact .inr ⟨absent, runFrom_bind_of_error ran _⟩

/-- A callable that an engine has for a key was given out once it was asked for. -/
theorem gave_of_answer {target : CallTarget} {key : TargetKey} (keyed : target.key = .ok key)
    {engine : Engine} {name : String} {callable : Callable}
    (answered : target.answer key name engine = .ok callable) {heard : Nat}
    (bounded : heard ≤ engine.events.length) :
    (engine.noted (target.event (.ok callable))).Gave name heard key callable := by
  have asked := mem_drop_concat bounded (target.event (.ok callable))
  cases target with
  | method className methodName hash =>
      obtain ⟨first, second, third, rfl, owner, named, hashed⟩ := keys_of_method keyed
      simp only [CallTarget.answer] at answered
      split at answered
      · cases answered
      · rename_i present
        cases answered
        cases registered : engine.methods.lookup (first, second, third) with
        | none => simp [registered] at present
        | some number =>
            rw [registered] at asked
            exact .method owner named hashed registered asked
  | utility called hash =>
      obtain ⟨first, second, rfl, named, hashed⟩ := keys_of_utility keyed
      simp only [CallTarget.answer] at answered
      cases registered : engine.utilities.lookup (first, second) with
      | none =>
          rw [registered] at answered
          cases answered
      | some script =>
          rw [registered] at answered
          cases answered
          exact .utility named hashed registered asked

/-- A callable that is resolved was given out for the key of its target. -/
theorem resolve_target_gives {target : CallTarget} {key : TargetKey} (keyed : target.key = .ok key)
    {heard : Nat} {session : Session} (current : session.IsCurrent heard) {callable : Callable}
    {after : Session} (resolved : runFrom target.resolve session = (.ok callable, after)) :
    after.Backs fun name engine => engine.Gave name heard key callable := by
  rcases resolve_target_cases keyed session with ⟨name, engine, installed, found, ran⟩ | ⟨-, ran⟩
  · cases answered : target.answer key name engine with
    | error failure =>
        rw [answered] at ran
        cases resolved.symm.trans ran
    | ok other =>
        rw [answered] at ran
        cases resolved.symm.trans ran
        exact ⟨name, _, installed, Entries.get?_put_self _ _ _,
          gave_of_answer keyed answered (current.bounded name engine installed found)⟩
  · cases resolved.symm.trans ran

theorem resolve_target_stays (heard : Nat) (target : CallTarget) :
    Advances (Session.Stays heard) target.resolve := by
  cases target with
  | method className methodName hash =>
      refine .bind (native_stays (Native.lookUpMethod_growing _ _ _) heard) fun number => ?_
      split
      · exact .throw _
      · exact .pure _
  | utility called hash =>
      refine .bind .installedEngine fun name =>
        .bind (native_stays (Native.lookUpUtility_growing _ _) heard) fun found => ?_
      cases found with
      | some script => exact .pure _
      | none => exact .throw _

/-- A callable that is remembered in the shared cache was given out for its key. -/
theorem resolve_stays (heard : Nat) (reference : CacheReference) (target : CallTarget) :
    Advances (Session.Stays heard) (resolve reference target) := by
  intro session
  unfold resolve
  cases keyed : target.key with
  | error failure => exact refl_of (Session.Stays heard) session
  | ok key =>
      rw [runFrom_bind_of_ok (runFrom_lift _ _), runFrom_bind_of_ok (runFrom_get _)]
      cases (session.cache reference).find? key with
      | some callable => exact refl_of (Session.Stays heard) session
      | none =>
          dsimp only
          have stays := resolve_target_stays heard target session
          rcases ran : runFrom target.resolve session with ⟨outcome, after⟩
          rw [ran] at stays
          cases outcome with
          | error failure =>
              rw [runFrom_bind_of_error ran]
              exact stays
          | ok callable =>
              rw [runFrom_bind_of_ok ran]
              cases reference with
              | own index => exact trans_of (Session.Stays heard) stays (after.stays_with ..)
              | shared =>
                  refine ⟨stays.installed, fun current => ?_⟩
                  have kept := stays.current current
                  have gave := resolve_target_gives keyed current ran
                  refine ⟨kept.bounded, kept.tables, fun other known member => ?_⟩
                  rcases List.mem_append.mp member with member | member
                  · exact kept.cached other known member
                  · cases List.mem_singleton.mp member
                    exact gave

end Bridge

end EngineBridge
