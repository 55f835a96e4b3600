import EngineBridge.Proofs.Session.Keeping

/-!
Installing one engine after the other.

An installation clears what is remembered and then runs the hooks that were registered, which may
remember something again, may fail, and may do anything but install. `Program.IsCurrent` says that
what is remembered was given out by the installed engine since it was installed; it holds in every
state that a program can come to.
-/

namespace EngineBridge

/-- What is done between two installations. -/
inductive Work where
  | owner (operation : Operation)
  | call (dispatcher : Dispatcher) (plan : MarshalingPlan) (arguments : CallArguments)
  /-- Ask for the tables of an engine that answers for some types and then fails. -/
  | brokenTables (answered : Nat) (failure : Failure)

namespace Work

/-- The look-up of routines in which an engine fails. -/
def brokenLookUp (answered : Nat) (failure : Failure) : Native (List (Option GType)) := do
  modify fun engine => { engine with
    fromLookups := engine.fromLookups + answered
    toLookups := engine.toLookups + answered }
  throw failure

def perform : Work → Bridge Unit
  | .owner operation => operation.perform
  | .call dispatcher plan arguments => Bridge.forget (Bridge.call dispatcher plan arguments)
  | .brokenTables answered failure =>
      Bridge.forget (Bridge.tablesBy (brokenLookUp answered failure))

theorem brokenLookUp_silent (answered : Nat) (failure : Failure) :
    (brokenLookUp answered failure).Silent :=
  .bind (.modify fun engine => engine.silence_holding ..) fun _ => .throw failure

theorem brokenTables_silent (answered : Nat) (failure : Failure) :
    Bridge.Silent (brokenTables answered failure).perform := by
  have gives : Bridge.GivesTables (brokenLookUp answered failure) := by
    intro engine answers after name heard _ answered
    cases answered
  exact Operation.forget_silent (Bridge.tablesBy_silent (brokenLookUp_silent _ _) gives)

end Work

/-- A hook: it does some work, one piece after the other, where each may depend on what came of the
one before, and in the end it returns or fails. -/
inductive Hook where
  | done
  | fail (failure : Failure)
  | perform (work : Work) (next : Session → Except Failure Unit → Hook)

namespace Hook

def run : Hook → Bridge Unit
  | .done => return ()
  | .fail failure => throw failure
  | .perform work next => do
      let outcome ← Bridge.attempt work.perform
      let session ← get
      (next session outcome).run

end Hook

namespace Bridge

/-- The hook that comes with the function tables. -/
def forgetTables : Bridge Unit :=
  modify fun session => { session with tables := none }

/-- The end of an installation in which no hook failed. -/
def announce : Bridge Unit := do
  let kindName := match (← get).engine? with
    | some engine => engine.kindName
    | none => Document.null.wording
  emit (Log.Record.plain Log.Level.debug "gdmarshal.engine" "engine" ("Engine set to " ++ kindName))

theorem announce_silent : Silent announce :=
  .bind .get fun _ => emit_silent _

/-- The hooks that come with the shared cache and with the function tables are run before all
others. -/
theorem installEngine_eq (name : Option String) (hooks : List (Bridge Unit)) :
    installEngine name hooks = (do
      modify fun session => { session with installed := name }
      (clearCache .shared :: forgetTables :: hooks).forM id
      announce) := rfl

end Bridge

/-- A session with the hooks that were registered. What was heard is how much the installed engine
had been asked for when it was installed. -/
structure Program where
  session : Session
  hooks : List Hook
  heard : Nat

namespace Program

inductive Step where
  | install (name : Option String)
  | register (hook : Hook)
  | work (work : Work)

/-- How much an engine has been asked for so far. -/
def heardBy (session : Session) (name : Option String) : Nat :=
  match name.bind session.engines.get? with
  | some engine => engine.events.length
  | none => 0

/-- The outcome of an installation, with the session that it leaves. -/
def installation (program : Program) (name : Option String) : Except Failure Unit × Session :=
  runFrom (Bridge.installEngine name (program.hooks.map Hook.run)) program.session

def perform (program : Program) : Step → Program
  | .install name => { program with
      session := (program.installation name).2
      heard := heardBy program.session name }
  | .register hook => { program with hooks := program.hooks ++ [hook] }
  | .work piece => { program with session := (runFrom piece.perform program.session).2 }

/-- A program in which engines were made, and nothing else was done. -/
def start (engines : Entries Engine) : Program :=
  ⟨{ Session.empty with engines }, [], 0⟩

def IsCurrent (program : Program) : Prop :=
  program.session.IsCurrent program.heard

theorem isCurrent_start (engines : Entries Engine) : (start engines).IsCurrent where
  bounded _ _ _ _ := Nat.zero_le _
  tables tables known := by cases known
  cached key callable member := by cases member

/-- The session of an installation before the hooks that were registered are run. -/
def cleared (session : Session) (name : Option String) : Session :=
  { session with installed := name, sharedCache := [], tables := none }

theorem isCurrent_cleared (session : Session) (name : Option String) :
    (cleared session name).IsCurrent (heardBy session name) where
  bounded := by
    rintro other engine rfl found
    change session.engines.get? other = some engine at found
    simp [heardBy, found]
  tables tables known := by cases known
  cached key callable member := by cases member

end Program

namespace Bridge.Footprint

variable {relation : Session → Session → Prop} [IsPreorder Session relation]
  (footprint : Footprint relation)

include footprint

theorem work (work : Work) : Advances relation work.perform := by
  cases work with
  | owner operation => exact footprint.continuing operation.perform_silent.continuing
  | call dispatcher plan arguments =>
      exact .bind (footprint.call dispatcher plan arguments) fun _ => .pure _
  | brokenTables answered failure =>
      exact footprint.continuing (Work.brokenTables_silent answered failure).continuing

theorem hook (hook : Hook) : Advances relation hook.run := by
  induction hook with
  | done => exact .pure ()
  | fail failure => exact .throw failure
  | perform work next induction =>
      exact .bind (.attempt (footprint.work work)) fun outcome => .bind .get fun session =>
        induction session outcome

theorem hooks (hooks : List Hook) : Advances relation ((hooks.map Hook.run).forM id) := by
  induction hooks with
  | nil => exact .pure ()
  | cons hook rest induction => exact (footprint.hook hook).bind fun _ => induction

theorem installation (program : Program) (name : Option String) :
    relation (Program.cleared program.session name) (program.installation name).2 :=
  (footprint.hooks program.hooks).bind (fun _ => footprint.continuing announce_silent.continuing)
    (Program.cleared program.session name)

end Bridge.Footprint

namespace Program

/-- Whether it returns or a hook fails, an installation leaves the engine installed and remembers
nothing that any engine was asked for before. -/
theorem installation_current (program : Program) (name : Option String) :
    (program.installation name).2.installed = name ∧
      (program.installation name).2.IsCurrent (heardBy program.session name) := by
  have stays := (Bridge.footprint_stays (heardBy program.session name)).installation program name
  exact ⟨stays.installed, stays.current (isCurrent_cleared program.session name)⟩

theorem perform_current {program : Program} (current : program.IsCurrent) (step : Step) :
    (program.perform step).IsCurrent := by
  cases step with
  | install name => exact (program.installation_current name).2
  | register hook => exact current
  | work piece =>
      have stays := (Bridge.footprint_stays program.heard).work piece program.session
      exact stays.current current

def performAll (program : Program) (steps : List Step) : Program :=
  steps.foldl perform program

theorem performAll_current {program : Program} (current : program.IsCurrent) (steps : List Step) :
    (program.performAll steps).IsCurrent := by
  induction steps generalizing program with
  | nil => exact current
  | cons step rest induction => exact induction (perform_current current step)

/-- In every state that a program comes to, the function tables have the routines that the
installed engine gave out for the types at their places, and the shared cache has callables that it
gave out for exactly their keys. The next installation leaves its engine installed, whether it
returns or fails, and nothing remembered that an engine gave out before. Tables that cannot be
resolved stay unknown. -/
theorem remembers_installed (engines : Entries Engine) (steps : List Step) :
    let program := (start engines).performAll steps
    (∀ tables, program.session.tables = some tables →
      program.session.Backs fun name engine => engine.GaveTables name program.heard tables ∧
        ∀ gtype, gtype ≠ .nil → gtype ≠ .max →
          tables.fromType[gtype.number]? = some (engine.routine? name gtype) ∧
            tables.toType[gtype.number]? = some (engine.routine? name gtype)) ∧
    (∀ key callable, (key, callable) ∈ program.session.sharedCache →
      program.session.Backs fun name engine => engine.Gave name program.heard key callable) ∧
    (∀ name, (program.installation name).2.installed = name ∧
      (program.installation name).2.IsCurrent (heardBy program.session name)) ∧
    ∀ lookUp failure, (runFrom (Bridge.tablesBy lookUp) program.session).1 = .error failure →
      (runFrom (Bridge.tablesBy lookUp) program.session).2.tables = none := by
  intro program
  have current : program.IsCurrent := performAll_current (isCurrent_start engines) steps
  refine ⟨fun tables known => ?_, current.cached, program.installation_current, ?_⟩
  · obtain ⟨name, engine, installed, found, gave⟩ := current.tables tables known
    refine ⟨name, engine, installed, found, gave, fun gtype notNil notMax => ?_⟩
    rw [gave.answered]
    exact ⟨engine.getElem?_functionTables name notNil notMax,
      engine.getElem?_functionTables name notNil notMax⟩
  · intro lookUp failure failed
    exact Bridge.tables_of_error failed

end Program

end EngineBridge
