import EngineBridge.Proofs.Call.Silence
import EngineBridge.Proofs.Plan.Outcome
import EngineBridge.Proofs.Session.Lookups

/-!
Where a call is refused, and how far it has come by then.

A call is refused by its plan before the engine is asked for anything, and by the search for its
callable before anything is made for it. Then the arguments are handed over one after the other, and
only when all of them are is the callable entered, once. None of this depends on the state that the
session is in.
-/

namespace EngineBridge

open Bridge

variable {α β γ : Type}

namespace Bridge

namespace Stage

/-- How a stage comes to where it goes on: with a product, in silence, and under silent releases. -/
structure Hands (stage : Stage β) (session : Session) (product : β)
    (releases : List (Bridge Unit)) (middle : Session) : Prop where
  ran : ∀ α use, runFrom (stage α use) session = runFrom (closing releases (use product)) middle
  silent : ∀ release ∈ releases, Silent release
  silence : session.Silence middle

/-- How a stage fails without going on. -/
structure Refuses (stage : Stage β) (session : Session) (failure : Failure) (after : Session) :
    Prop where
  ran : ∀ α use, runFrom (stage α use) session = (.error failure, after)
  silence : session.Silence after

/-- Whether a stage goes on once or fails, in silence either way, in every session. -/
def IsOrderly (stage : Stage β) : Prop :=
  ∀ session, (∃ product releases middle, stage.Hands session product releases middle) ∨
    ∃ failure after, stage.Refuses session failure after

/-- Under releases, a failure is the same wherever it comes from. -/
theorem exists_closing_error (releases : List (Bridge Unit)) (failure : Failure)
    (session after : Session) : ∃ lastFailure last, ∀ (α : Type) (operation : Bridge α),
      runFrom operation session = (.error failure, after) →
        runFrom (closing releases operation) session = (.error lastFailure, last) := by
  induction releases generalizing failure after with
  | nil => exact ⟨failure, after, fun _ _ failed => failed⟩
  | cons release rest induction =>
      rcases freed : runFrom release after with ⟨outcome, middle⟩
      obtain ⟨next, failed⟩ : ∃ next, ∀ (α : Type) (operation : Bridge α),
          runFrom operation session = (.error failure, after) →
            runFrom (releasing operation release) session = (.error next, middle) := by
        cases outcome with
        | ok done => exact ⟨failure, fun _ _ ran => runFrom_releasing ran freed⟩
        | error other =>
            refine ⟨other, fun _ _ ran => ?_⟩
            unfold releasing
            rw [runFrom_bind_of_ok (runFrom_attempt ran), runFrom_bind_of_error freed]
      obtain ⟨lastFailure, last, closed⟩ := induction next middle
      exact ⟨lastFailure, last, fun α operation ran => closed α _ (failed α operation ran)⟩

section

variable {first : Stage β} {session middle after : Session} {product : β} {result : γ}
  {releases more : List (Bridge Unit)} {failure : Failure}

theorem Hands.andThen (hands : first.Hands session product releases middle) (second : β → Stage γ)
    (next : (second product).Hands middle result more after) :
    (first.andThen second).Hands session result (more ++ releases) after where
  ran α use := by
    rw [Stage.andThen, hands.ran, closing_append]
    exact closing_congr releases (next.ran α use)
  silent release mem := (List.mem_append.mp mem).elim (next.silent release) (hands.silent release)
  silence := trans_of Session.Silence hands.silence next.silence

theorem Hands.andThen_refuses (hands : first.Hands session product releases middle)
    (second : β → Stage γ) (next : (second product).Refuses middle failure after) :
    ∃ lastFailure last, (first.andThen second).Refuses session lastFailure last := by
  obtain ⟨lastFailure, last, closed⟩ := exists_closing_error releases failure middle after
  have ran : ∀ α use, runFrom (first.andThen second α use) session = (.error lastFailure, last) :=
    fun α use => (hands.ran α _).trans (closed α _ (next.ran α use))
  have closing := silence_closing hands.silent (second product Unit fun _ => pure ()) middle
  rw [closed Unit _ (next.ran Unit _), next.ran] at closing
  exact ⟨lastFailure, last, ran, trans_of Session.Silence hands.silence
    (trans_of Session.Silence next.silence closing)⟩

theorem Refuses.andThen (refuses : first.Refuses session failure after) (second : β → Stage γ) :
    (first.andThen second).Refuses session failure after :=
  ⟨fun _ _ => refuses.ran _ _, refuses.silence⟩

theorem Hands.map (hands : first.Hands session product releases middle) (change : β → γ) :
    (first.map change).Hands session (change product) releases middle :=
  ⟨fun α use => hands.ran α fun product => use (change product), hands.silent, hands.silence⟩

theorem Refuses.map (refuses : first.Refuses session failure after) (change : β → γ) :
    (first.map change).Refuses session failure after :=
  ⟨fun α use => refuses.ran α fun product => use (change product), refuses.silence⟩

theorem IsOrderly.map (orderly : first.IsOrderly) (change : β → γ) :
    (first.map change).IsOrderly := fun session =>
  (orderly session).imp
    (fun ⟨_, releases, middle, hands⟩ => ⟨_, releases, middle, hands.map change⟩)
    fun ⟨failure, after, refuses⟩ => ⟨failure, after, refuses.map change⟩

end

/-- What is made in silence, and released in silence after it was passed on. -/
theorem isOrderly_of_made {make : Bridge β} {release : β → Bridge Unit} (made : Silent make)
    (released : ∀ value, Silent (release value)) (pass : β → γ) :
    IsOrderly fun _ use =>
      make >>= fun value => releasing (use (pass value)) (release value) := by
  intro session
  rcases ran : runFrom make session with ⟨outcome, middle⟩
  have silence := made.relates ran
  cases outcome with
  | ok value =>
      exact .inl ⟨pass value, [release value], middle, fun _ _ => runFrom_bind_of_ok ran _,
        fun _ mem => List.mem_singleton.mp mem ▸ released value, silence⟩
  | error failure =>
      exact .inr ⟨failure, middle, fun _ _ => runFrom_bind_of_error ran _, silence⟩

theorem isOrderly_of_silent {operation : Bridge β} (silent : Silent operation) :
    (ofOperation operation).IsOrderly := by
  intro session
  rcases ran : runFrom operation session with ⟨outcome, middle⟩
  have silence := silent.relates ran
  cases outcome with
  | ok value =>
      exact .inl ⟨value, [], middle, fun _ _ => runFrom_bind_of_ok ran _, nofun, silence⟩
  | error failure =>
      exact .inr ⟨failure, middle, fun _ _ => runFrom_bind_of_error ran _, silence⟩

end Stage

open Stage

theorem boxStage_orderly (value : Value) : (boxStage value).IsOrderly :=
  isOrderly_of_made (box_silent value) destroyPayload_silent fun payload =>
    Operand.address payload.bytes

theorem stringStage_orderly {text : Bridge String} (silent : Silent text) :
    (stringStage text).IsOrderly := by
  have made : Silent (text >>= fun content => native (Native.stringNew (Text.utf8 content))) :=
    silent.bind fun _ => native_silent (Native.stringNew_silent _)
  have orderly := isOrderly_of_made made
    (fun string => native_silent (Native.stringDestroy_silent string))
    fun string => Operand.address (Number.wordBytes string)
  simp only [bind_assoc] at orderly
  exact orderly

private theorem addressStage_orderly {operation : Bridge β} (silent : Silent operation)
    (pass : β → Operand) : ((ofOperation operation).map pass).IsOrderly :=
  (isOrderly_of_silent silent).map pass

private theorem withAddress_orderly (typeClass : TypeClass) (value : Value) :
    IsOrderly (fun _ use => withAddress typeClass value use) := by
  have content : ((ofOperation (contentBytes value)).map Operand.address).IsOrderly :=
    addressStage_orderly (contentBytes_silent value) _
  cases typeClass with
  | primitive typeName metadata =>
      cases value <;> exact addressStage_orderly (.lift _) Operand.address
  | builtin typeName size =>
      by_cases boxed : typeName = variantType
      · cases value with
        | variant reference =>
            simp only [withAddress, if_pos boxed]
            exact addressStage_orderly (livePayload_silent reference) fun payload =>
              .address payload.bytes
        | _ =>
            simp only [withAddress, if_pos boxed]
            exact boxStage_orderly _
      · cases value <;> simp only [withAddress, if_neg boxed] <;> exact content
  | _ => exact content

theorem argumentStage_orderly (step : ArgumentStep) (value : Value) :
    (argumentStage step value).IsOrderly := by
  unfold argumentStage withArgument
  cases step.storage with
  | variantBox => exact boxStage_orderly _
  | nativeString => exact stringStage_orderly (crossingText_silent value)
  | scratchCopy =>
      exact addressStage_orderly (.lift _) fun number => .address (Number.wordBytes number)
  | handle =>
      cases value with
      | nothing => exact addressStage_orderly (.pure ()) fun _ => .handle .nothing
      | _ => exact addressStage_orderly (.lift _) Operand.handle
  | address => exact withAddress_orderly step.typeClass value

namespace Stage

/-- Stages one after the other. -/
def each : List (Stage Operand) → Stage (List Operand)
  | [] => fun _ use => use []
  | first :: rest => first.andThen fun operand => (each rest).map (operand :: ·)

/-- How stages hand over one after the other. -/
inductive HandsAll :
    List (Stage Operand) → Session → List Operand → List (Bridge Unit) → Session → Prop
  | nil (session : Session) : HandsAll [] session [] [] session
  | cons {stage : Stage Operand} {rest : List (Stage Operand)} {session middle after : Session}
      {operand : Operand} {operands : List Operand} {releases more : List (Bridge Unit)}
      (hands : stage.Hands session operand releases middle)
      (others : HandsAll rest middle operands more after) :
      HandsAll (stage :: rest) session (operand :: operands) (more ++ releases) after

variable {stages : List (Stage Operand)} {session after : Session} {operands : List Operand}
  {releases : List (Bridge Unit)}

theorem HandsAll.hands (handed : HandsAll stages session operands releases after) :
    (each stages).Hands session operands releases after := by
  induction handed with
  | nil session => exact ⟨fun _ _ => rfl, nofun, refl_of Session.Silence session⟩
  | cons hands others induction => exact hands.andThen _ (induction.map _)

theorem HandsAll.length_eq (handed : HandsAll stages session operands releases after) :
    operands.length = stages.length := by
  induction handed with
  | nil session => rfl
  | cons hands others induction => rw [List.length_cons, List.length_cons, induction]

/-- Orderly stages all hand over, or one of them fails and nothing was entered before. -/
theorem handsAll_or_refuses (orderly : ∀ stage ∈ stages, stage.IsOrderly) (session : Session) :
    (∃ operands releases after, HandsAll stages session operands releases after) ∨
      ∃ failure after, (each stages).Refuses session failure after := by
  induction stages generalizing session with
  | nil => exact .inl ⟨[], [], session, .nil session⟩
  | cons first rest induction =>
      have others := induction fun stage mem => orderly stage (List.mem_cons_of_mem first mem)
      rcases orderly first (List.mem_cons_self ..) session with
        ⟨operand, releases, middle, hands⟩ | ⟨failure, after, refuses⟩
      · rcases others middle with ⟨operands, more, after, handed⟩ | ⟨failure, after, refuses⟩
        · exact .inl ⟨_, _, after, .cons hands handed⟩
        · exact .inr (hands.andThen_refuses _ (refuses.map (operand :: ·)))
      · exact .inr ⟨failure, after, refuses.andThen _⟩

end Stage

/-- The stages in which the arguments of a call are handed over, the declared ones and then the
extra ones. -/
def stages (plan : MarshalingPlan) (arguments : CallArguments) : List (Stage Operand) :=
  List.zipWith argumentStage plan.arguments arguments.declared ++ arguments.extra.map boxStage

theorem stages_orderly (plan : MarshalingPlan) (arguments : CallArguments) :
    ∀ stage ∈ stages plan arguments, stage.IsOrderly := by
  intro stage mem
  rcases List.mem_append.mp mem with mem | mem
  · rw [List.mem_iff_getElem?] at mem
    obtain ⟨index, found⟩ := mem
    obtain ⟨step, value, -, -, rfl⟩ := List.getElem?_zipWith_eq_some.mp found
    exact argumentStage_orderly step value
  · obtain ⟨value, -, rfl⟩ := List.mem_map.mp mem
    exact boxStage_orderly value

theorem each_stages (plan : MarshalingPlan) (arguments : CallArguments)
    (use : List Operand → Bridge α) :
    each (stages plan arguments) α use =
      withArguments plan.arguments arguments.declared fun operands =>
        withExtras arguments.extra fun more => use (operands ++ more) := by
  have same : ∀ crossings : List (Crossing ""),
      each (crossings.map Crossing.stage) = Crossing.all crossings := by
    intro crossings
    induction crossings with
    | nil => rfl
    | cons first rest induction => rw [List.map_cons, each, induction, Crossing.all]
  have crossed : stages plan arguments = (Crossing.ofCall "" plan.arguments arguments.declared
      arguments.extra).map Crossing.stage := by
    rw [Crossing.ofCall, List.map_append, List.map_zipWith, List.map_map]
    rfl
  rw [crossed, same]
  exact Crossing.all_ofCall ..

end Bridge

/-! Looking up a callable enters none. -/

theorem LooksUp.callsOf {session after : Session} {reference : CacheReference} {holder : String}
    {engine : Engine} {target : CallTarget} {outcome : Except Failure Callable}
    (found : session.engines.get? holder = some engine)
    (looks : LooksUp session reference holder engine target outcome after) (name : String) :
    after.callsOf name = session.callsOf name := by
  have noted : ∀ outcome,
      (session.noting holder engine target outcome).callsOf name = session.callsOf name := by
    intro outcome
    have same : (engine.noted (target.event outcome)).calls = engine.calls := by
      simp [Engine.calls, Engine.noted, target.isCall_event]
    exact Session.callsOf_put found same name
  cases looks with
  | unkeyed unkeyed => rfl
  | known keyed found => rfl
  | refused keyed unknown answered => exact noted _
  | learnt keyed unknown answered =>
      rw [← noted]
      cases reference <;> rfl

namespace Bridge

theorem callsOf_resolve (reference : CacheReference) (target : CallTarget) (name : String) :
    Preserves (fun session => session.callsOf name) (resolve reference target) := by
  intro session
  rcases resolve_cases reference target session with
    ⟨holder, engine, -, found, looks⟩ | ⟨same, -⟩
  · exact looks.callsOf found name
  · exact congrArg (Session.callsOf · name) same

theorem callsOf_find (dispatcher : Dispatcher) (plan : MarshalingPlan) (arguments : CallArguments)
    (name : String) :
    Preserves (fun session => session.callsOf name) (find dispatcher plan arguments) := by
  have asked : Silent installedEngine := .installedEngine
  exact .bind (.lift _) fun _ => .bind (fun session => (asked session).calls name) fun _ =>
    .bind (.lift _) fun target => .bind (callsOf_resolve _ target name) fun _ =>
      .bind (.lift _) fun _ => .pure _

end Bridge

/-! How often a callable is entered. -/

namespace Callable

/-- Whether an event is an entry into a callable. -/
def IsEntered (callable : Callable) (event : Event) : Prop :=
  ∃ strategy receiver pointers seen, event = callable.entry strategy receiver pointers seen

/-- The engine in which a callable is entered: a function in its own, a method in the one that is
installed. -/
def home? (session : Session) : Callable → Option String
  | .bind _ => session.installed
  | .function engine _ _ => some engine

theorem entries_cases (callable : Callable) (strategy : CallStrategy) (receiver : Document)
    (pointers : List Pointer) (landing : Landing) (script : NativeScript) (engine : Engine) :
    callable.entries strategy receiver pointers landing script engine = [] ∨
      ∃ event, callable.entries strategy receiver pointers landing script engine = [event] ∧
        callable.IsEntered event := by
  unfold entries
  split
  · exact .inr ⟨_, rfl, _, _, _, _, rfl⟩
  · exact .inl rfl

end Callable

namespace Session

/-- Whether the only entry between two sessions, if there was one, was into a callable in the engine
where it is entered. -/
def EntersAtMostOnce (callable : Callable) (before after : Session) : Prop :=
  ∃ entered, (entered = [] ∨ ∃ event, entered = [event] ∧ callable.IsEntered event) ∧
    ∀ name, after.callsOf name =
      if callable.home? before = some name then (before.callsOf name).map (· ++ entered)
      else before.callsOf name

variable {callable : Callable} {before middle after : Session}

theorem entersAtMostOnce_of_silence (silent : ∀ name, after.callsOf name = before.callsOf name) :
    EntersAtMostOnce callable before after := by
  refine ⟨[], .inl rfl, fun name => ?_⟩
  rw [silent name]
  simp

/-- Silence before and after changes nothing about that. -/
theorem EntersAtMostOnce.between {start last : Session}
    (enters : EntersAtMostOnce callable middle after)
    (installed : middle.installed = start.installed)
    (begun : ∀ name, middle.callsOf name = start.callsOf name)
    (ended : ∀ name, last.callsOf name = after.callsOf name) :
    EntersAtMostOnce callable start last := by
  have home : callable.home? middle = callable.home? start := by
    cases callable with
    | bind number => exact installed
    | function engine called script => rfl
  obtain ⟨entered, once, calls⟩ := enters
  refine ⟨entered, once, fun name => ?_⟩
  rw [ended, calls, begun, home]

end Session

namespace Native

/-- Whether an action enters a callable at most once, and no other. -/
def EntersAtMostOnce (callable : Callable) (action : StateM Engine α) : Prop :=
  ∀ engine, ∃ entered, (entered = [] ∨ ∃ event, entered = [event] ∧ callable.IsEntered event) ∧
    (action.run engine).2.calls = engine.calls ++ entered

end Native

namespace Bridge

theorem runOn_entersAtMostOnce {action : StateM Engine α} {callable : Callable}
    (enters : Native.EntersAtMostOnce callable action) {name : String} {session : Session}
    (home : callable.home? session = some name) :
    Session.EntersAtMostOnce callable session (runFrom (runOn name action) session).2 := by
  unfold runOn
  rw [runFrom_bind_of_ok (runFrom_get session)]
  cases found : session.engines.get? name with
  | none => exact Session.entersAtMostOnce_of_silence fun _ => rfl
  | some engine =>
      obtain ⟨entered, once, calls⟩ := enters engine
      refine ⟨entered, once, fun other => ?_⟩
      change Option.map Engine.calls
        ((session.engines.put name (action.run engine).2).get? other) = _
      rw [home]
      split
      · rename_i same
        cases same
        rw [Entries.get?_put_self, Session.callsOf, found]
        exact congrArg some calls
      · rename_i differs
        rw [Entries.get?_put_of_ne fun same => differs (congrArg some same.symm)]
        rfl

theorem invocation_entersAtMostOnce (callable : Callable) (strategy : CallStrategy)
    (receiver : Document) (pointers : List Pointer) (landing : Landing) :
    Native.EntersAtMostOnce callable
      (invocation callable strategy receiver pointers landing) := by
  intro engine
  cases found : callable.script? engine with
  | some script =>
      exact ⟨_, callable.entries_cases ..,
        calls_invocation found strategy receiver pointers landing⟩
  | none =>
      refine ⟨[], .inl rfl, ?_⟩
      rw [List.append_nil]
      cases callable with
      | function engineName called script => cases found
      | bind number =>
          cases strategy with
          | directPointerCall =>
              exact congrArg (fun result => result.2.calls)
                (Native.pointerCall_of_none found receiver pointers landing)
          | variantArrayCall =>
              exact congrArg (fun result => result.2.calls)
                (Native.variantCall_of_none found receiver pointers landing)

theorem invoke_entersAtMostOnce (callable : Callable) (strategy : CallStrategy)
    (receiver : Document) (pointers : List Pointer) (landing : Landing) (session : Session) :
    session.EntersAtMostOnce callable
      (runFrom (invoke callable strategy receiver pointers landing) session).2 := by
  have once := invocation_entersAtMostOnce callable strategy receiver pointers landing
  cases callable with
  | function engineName called script => exact runOn_entersAtMostOnce once rfl
  | bind number =>
      cases installed : session.installed with
      | none =>
          have failed : runFrom (invoke (.bind number) strategy receiver pointers landing) session =
              (.error .noEngine, session) := by
            have absent := runFrom_installedEngine_of_none installed
            cases strategy <;> exact runFrom_bind_of_error absent _
          rw [failed]
          exact Session.entersAtMostOnce_of_silence fun _ => rfl
      | some name =>
          have ran : runFrom (invoke (.bind number) strategy receiver pointers landing) session =
              runFrom (runOn name (invocation (.bind number) strategy receiver pointers landing))
                session := by
            cases strategy <;> exact runFrom_bind_of_ok (runFrom_installedEngine installed) _
          rw [ran]
          exact runOn_entersAtMostOnce once installed

/-- What a prepared call does enters its callable at most once. -/
theorem finish_entersAtMostOnce (dispatcher : Dispatcher) (plan : MarshalingPlan)
    (entrance : Entrance) (session : Session) :
    session.EntersAtMostOnce entrance.callable
      (runFrom (finish dispatcher plan entrance) session).2 := by
  rw [finish_eq]
  cases opened : plan.returnStep.landing with
  | error failure => exact Session.entersAtMostOnce_of_silence fun _ => rfl
  | ok landing =>
      rw [runFrom_bind_of_ok (runFrom_lift (.ok landing) session)]
      have entered := invoke_entersAtMostOnce entrance.callable
        (plan.callStrategy.getD .directPointerCall) entrance.receiver entrance.pointers landing
        session
      rcases invoked : runFrom (invoke entrance.callable
        (plan.callStrategy.getD .directPointerCall) entrance.receiver entrance.pointers landing)
        session with ⟨outcome, middle⟩
      rw [invoked] at entered
      refine entered.between rfl (fun _ => rfl) fun name => ?_
      cases outcome with
      | error failure => rw [runFrom_bind_of_error invoked]
      | ok result =>
          rw [runFrom_bind_of_ok invoked]
          exact (conclude_silent dispatcher plan entrance.target result middle).calls name

end Bridge

/-! What a search leaves. -/

/-- An engine but for the look-ups in its log. -/
def Engine.apartFromLookups (engine : Engine) : Engine :=
  { engine with events := engine.events.filter fun event => !event.isLookup }

/-- Whether sessions differ in nothing but the traces of a search: the look-ups that engines have
noted, what caches remember, and records. No boxed value and no native string was made between
them. -/
structure Session.Searched (before after : Session) : Prop where
  installed : after.installed = before.installed
  variants : after.variants = before.variants
  strings : after.strings = before.strings
  tables : after.tables = before.tables
  engines : ∀ name, (after.engines.get? name).map Engine.apartFromLookups =
    (before.engines.get? name).map Engine.apartFromLookups

namespace Session

variable {session : Session} {reference : CacheReference} {name : String} {engine : Engine}

theorem searched_noting (found : session.engines.get? name = some engine) (target : CallTarget)
    (outcome : Except Failure Callable) :
    session.Searched (session.noting name engine target outcome) where
  installed := rfl
  variants := rfl
  strings := rfl
  tables := rfl
  engines other := by
    change Option.map Engine.apartFromLookups
      ((session.engines.put name (engine.noted (target.event outcome))).get? other) = _
    by_cases same : other = name
    · subst same
      rw [Entries.get?_put_self, found]
      have hidden : (engine.noted (target.event outcome)).apartFromLookups =
          engine.apartFromLookups := by
        simp [Engine.apartFromLookups, Engine.noted, target.isLookup_event outcome]
      exact congrArg some hidden
    · rw [Entries.get?_put_of_ne same]

theorem Searched.learning {before : Session} (searched : before.Searched session)
    (reference : CacheReference) (target : CallTarget) (key : TargetKey) (callable : Callable) :
    before.Searched (session.learning reference target key callable) := by
  cases reference <;>
    exact ⟨searched.installed, searched.variants, searched.strings, searched.tables,
      searched.engines⟩

end Session

theorem LooksUp.searched {session after : Session} {reference : CacheReference} {name : String}
    {engine : Engine} {target : CallTarget} {outcome : Except Failure Callable}
    (serves : session.Serves reference name engine)
    (looks : LooksUp session reference name engine target outcome after) :
    session.Searched after := by
  have same : session.Searched session := ⟨rfl, rfl, rfl, rfl, fun _ => rfl⟩
  cases looks with
  | unkeyed unkeyed => exact same
  | known keyed found => exact same
  | refused keyed unknown answered => exact session.searched_noting serves.found target _
  | learnt keyed unknown answered =>
      exact (session.searched_noting serves.found target _).learning reference target _ _

/-! Calls -/

/-- How a call of a bound plan passes: it fails and no callable is entered, or its callable is
entered after the instance and all arguments were handed over, once at most and no other. -/
inductive Passage (dispatcher : Dispatcher) (plan : MarshalingPlan) (arguments : CallArguments)
    (session : Session) : Prop
  | barred {failure : Failure} {after : Session}
      (ran : runFrom (call dispatcher plan arguments) session = (.error failure, after))
      (calls : ∀ name, after.callsOf name = session.callsOf name)
  | entered {name : String} {target : CallTarget} {callable : Callable} {receiver : Value}
      {found middle : Session} {operands : List Operand} {releases : List (Bridge Unit)}
      {pointers : List Pointer} (accepted : plan.checkArguments arguments = .ok ())
      (installed : session.installed = some name) (targeted : CallTarget.ofPlan plan = .ok target)
      (resolved : runFrom (resolve dispatcher.cache target) session = (.ok callable, found))
      (received : plan.receiverHandle arguments.receiver = .ok receiver)
      (handed : Stage.HandsAll (stages plan arguments) found operands releases middle)
      (all : operands.length = arguments.declared.length + arguments.extra.length)
      (pointed : Operand.pointers operands = .ok pointers)
      (calls : ∀ name, middle.callsOf name = session.callsOf name)
      (ran : runFrom (call dispatcher plan arguments) session = runFrom (closing releases
        (finish dispatcher plan ⟨target, callable, middle.document receiver, pointers⟩)) middle)
      (once : session.EntersAtMostOnce callable
        (runFrom (call dispatcher plan arguments) session).2)

/-- An engine that has no callable is asked for it, and the look-up fails. -/
theorem Session.Serves.runFrom_resolve_of_refused {session : Session} {reference : CacheReference}
    {name : String} {engine : Engine} (serves : session.Serves reference name engine)
    {target : CallTarget} {key : TargetKey} {failure : Failure} (keyed : target.key = .ok key)
    (unknown : (session.cache reference).find? key = none)
    (answered : target.answer key name engine = .error failure) :
    runFrom (resolve reference target) session =
      (.error failure, session.noting name engine target (.error failure)) := by
  have asked := serves.runFrom_resolve keyed
  rw [answered] at asked
  unfold resolve
  rw [keyed, runFrom_bind_of_ok (runFrom_lift _ _), runFrom_bind_of_ok (runFrom_get _), unknown]
  exact runFrom_bind_of_error asked _

namespace Bridge

theorem length_stages {plan : MarshalingPlan} {arguments : CallArguments}
    (accepted : plan.checkArguments arguments = .ok ()) :
    (stages plan arguments).length = arguments.declared.length + arguments.extra.length := by
  have counted : arguments.declared.length = plan.arguments.length := by
    unfold MarshalingPlan.checkArguments at accepted
    split at accepted
    · cases accepted
    · rename_i same
      simpa [MarshalingPlan.declaredCount] using same
  rw [stages, List.length_append, List.length_zipWith, List.length_map]
  omega

theorem of_runFrom_installedEngine {session after : Session} {name : String}
    (ran : runFrom installedEngine session = (.ok name, after)) :
    session.installed = some name ∧ after = session := by
  cases installed : session.installed with
  | none =>
      rw [runFrom_installedEngine_of_none installed] at ran
      cases ran
  | some other =>
      rw [runFrom_installedEngine installed] at ran
      cases ran
      exact ⟨rfl, rfl⟩

/-- A search that succeeds went through all its checks. -/
theorem exists_of_find {dispatcher : Dispatcher} {plan : MarshalingPlan}
    {arguments : CallArguments} {session after : Session} {found : CallTarget × Callable × Value}
    (searched : runFrom (find dispatcher plan arguments) session = (.ok found, after)) :
    ∃ name, plan.checkArguments arguments = .ok () ∧ session.installed = some name ∧
      CallTarget.ofPlan plan = .ok found.1 ∧
      runFrom (resolve dispatcher.cache found.1) session = (.ok found.2.1, after) ∧
      plan.receiverHandle arguments.receiver = .ok found.2.2 := by
  obtain ⟨done, _, checked, guarded⟩ := exists_of_runFrom_bind searched
  obtain ⟨accepted, rfl⟩ := of_runFrom_lift checked
  obtain ⟨name, _, looked, backed⟩ := exists_of_runFrom_bind guarded
  obtain ⟨installed, rfl⟩ := of_runFrom_installedEngine looked
  obtain ⟨target, _, given, aimed⟩ := exists_of_runFrom_bind backed
  obtain ⟨targeted, rfl⟩ := of_runFrom_lift given
  obtain ⟨callable, middle, resolved, called⟩ := exists_of_runFrom_bind aimed
  obtain ⟨receiver, _, handle, ended⟩ := exists_of_runFrom_bind called
  obtain ⟨received, rfl⟩ := of_runFrom_lift handle
  cases ended
  exact ⟨name, accepted, installed, targeted, resolved, received⟩

theorem pointerStage_eq_each (plan : MarshalingPlan) (arguments : CallArguments)
    (found : CallTarget × Callable × Value) :
    pointerStage plan arguments found = (Stage.each (stages plan arguments)).andThen
      fun operands => .ofOperation (entrance found operands) := by
  funext α use
  rw [Stage.andThen, each_stages]
  simp only [pointerStage, Stage.ofOperation, entrance, bind_assoc, pure_bind]

/-- Operands that cannot all be pointed to end a call, and nothing is entered. -/
theorem entrance_hands_or_refuses (found : CallTarget × Callable × Value) (operands : List Operand)
    (session : Session) :
    (∃ pointers, Operand.pointers operands = .ok pointers ∧
      (Stage.ofOperation (entrance found operands)).Hands session
        ⟨found.1, found.2.1, session.document found.2.2, pointers⟩ [] session) ∨
    ∃ failure, (Stage.ofOperation (entrance found operands)).Refuses session failure session := by
  have ran : runFrom (entrance found operands) session =
      ((Operand.pointers operands).map fun pointers =>
        ⟨found.1, found.2.1, session.document found.2.2, pointers⟩, session) := by
    unfold entrance
    cases Operand.pointers operands <;> rfl
  cases pointed : Operand.pointers operands with
  | ok pointers =>
      rw [pointed] at ran
      exact .inl ⟨pointers, rfl, fun _ _ => runFrom_bind_of_ok ran _, nofun,
        refl_of Session.Silence session⟩
  | error failure =>
      rw [pointed] at ran
      exact .inr ⟨failure, fun _ _ => runFrom_bind_of_error ran _, refl_of Session.Silence session⟩

/-- After the search, all arguments are handed over, or nothing is entered. -/
theorem passage {plan : MarshalingPlan} (bound : plan.isVirtual = false) (dispatcher : Dispatcher)
    (arguments : CallArguments) (session : Session) :
    Passage dispatcher plan arguments session := by
  have silent : ∀ name, (runFrom (find dispatcher plan arguments) session).2.callsOf name =
      session.callsOf name := fun name => callsOf_find dispatcher plan arguments name session
  have called := congrArg (runFrom · session) (call_of_bound bound dispatcher arguments)
  simp only [prepared, Stage.andThen, Stage.ofOperation] at called
  rcases searched : runFrom (find dispatcher plan arguments) session with ⟨outcome, middle⟩
  rw [searched] at silent
  cases outcome with
  | error failure => exact .barred (called.trans (runFrom_bind_of_error searched _)) silent
  | ok found =>
      obtain ⟨name, accepted, installed, targeted, resolved, received⟩ := exists_of_find searched
      rw [runFrom_bind_of_ok searched] at called
      have barred : ∀ {failure after}, (pointerStage plan arguments found).Refuses middle failure
          after → Passage dispatcher plan arguments session := fun refuses =>
        .barred (called.trans (refuses.ran _ _)) fun name =>
          (refuses.silence.calls name).trans (silent name)
      rcases Stage.handsAll_or_refuses (stages_orderly plan arguments) middle with
        ⟨operands, releases, after, handed⟩ | ⟨failure, after, refuses⟩
      · rcases entrance_hands_or_refuses found operands after with
          ⟨pointers, pointed, hands⟩ | ⟨failure, refuses⟩
        · have whole := handed.hands.andThen
            (fun operands => .ofOperation (entrance found operands)) hands
          rw [← pointerStage_eq_each] at whole
          have calls : ∀ name, after.callsOf name = session.callsOf name :=
            fun name => (whole.silence.calls name).trans (silent name)
          have same : after.installed = session.installed := by
            have kept := (resolve_stays 0 dispatcher.cache found.1 session).installed
            rw [resolved] at kept
            exact (whole.silence.stays 0).installed.trans kept
          have ended := called.trans (whole.ran Value (finish dispatcher plan))
          refine .entered accepted installed targeted resolved received handed
            (handed.length_eq.trans (length_stages accepted)) pointed calls ended ?_
          rw [ended]
          have entered := finish_entersAtMostOnce dispatcher plan
            ⟨found.1, found.2.1, after.document found.2.2, pointers⟩ after
          exact entered.between same calls (silence_closing whole.silent _ after).calls
        · obtain ⟨lastFailure, last, refused⟩ := handed.hands.andThen_refuses
            (fun operands => .ofOperation (entrance found operands)) refuses
          rw [← pointerStage_eq_each] at refused
          exact barred refused
      · have refused := refuses.andThen fun operands => .ofOperation (entrance found operands)
        rw [← pointerStage_eq_each] at refused
        exact barred refused

/-- What a call of a plan does with bad inputs, and how it passes with all others. `raise` says what
becomes of a refusal where it is worded. -/
structure Guarded (raise : Failure → Failure) (plan : MarshalingPlan) (dispatcher : Dispatcher)
    (arguments : CallArguments) (session : Session) : Prop where
  /-- A virtual method is not looked for: its default is the result. -/
  virtual : plan.isVirtual = true → runFrom (call dispatcher plan arguments) session =
    (.ok (Value.ofDocument plan.returnStep.default), session)
  miscounted : plan.isVirtual = false → arguments.declared.length ≠ plan.declaredCount →
    runFrom (call dispatcher plan arguments) session = (.error (raise (.badKind
      (.argumentCount plan.exposedName plan.declaredCount arguments.declared.length))), session)
  overfull : plan.isVirtual = false → arguments.declared.length = plan.declaredCount →
    arguments.extra ≠ [] → plan.takesExtras = false →
    runFrom (call dispatcher plan arguments) session =
      (.error (raise (.badKind (.extraArguments plan.exposedName))), session)
  uninstalled : plan.isVirtual = false → plan.checkArguments arguments = .ok () →
    session.installed = none →
    runFrom (call dispatcher plan arguments) session = (.error .noEngine, session)
  unowned : plan.isVirtual = false → plan.checkArguments arguments = .ok () →
    session.installed ≠ none → plan.kind = .classMethod → plan.className = .null →
    runFrom (call dispatcher plan arguments) session =
      (.error (raise (.invariant (.noOwningClass plan.methodName))), session)
  /-- A callable that the cache does not know and the engine does not have. -/
  unknown : plan.isVirtual = false → plan.checkArguments arguments = .ok () →
    ∀ (name : String) (engine : Engine) (target : CallTarget) (key : TargetKey) (failure : Failure),
      session.Serves dispatcher.cache name engine → CallTarget.ofPlan plan = .ok target →
      target.key = .ok key → (session.cache dispatcher.cache).find? key = none →
      target.answer key name engine = .error failure →
      failure = raise (.invariant target.absence) ∧ ∃ after, session.Searched after ∧
        after.cache dispatcher.cache = session.cache dispatcher.cache ∧
        runFrom (call dispatcher plan arguments) session = (.error failure, after)
  missing : plan.isVirtual = false → plan.checkArguments arguments = .ok () →
    ∀ (name : String) (engine : Engine) (target : CallTarget) (callable : Callable)
      (after : Session), session.Serves dispatcher.cache name engine →
      CallTarget.ofPlan plan = .ok target →
      runFrom (resolve dispatcher.cache target) session = (.ok callable, after) →
      plan.isStatic.isTruthy = false → plan.kind = .classMethod → arguments.receiver = .nothing →
      session.Searched after ∧ runFrom (call dispatcher plan arguments) session =
        (.error (raise (.badKind (.missingInstance plan.className plan.methodName))), after)
  passes : plan.isVirtual = false → Passage dispatcher plan arguments session

section

variable {plan : MarshalingPlan} {arguments : CallArguments} {session : Session} {failure : Failure}

theorem call_of_unaccepted (bound : plan.isVirtual = false)
    (refused : plan.checkArguments arguments = .error failure) (dispatcher : Dispatcher)
    (session : Session) :
    runFrom (call dispatcher plan arguments) session = (.error failure, session) := by
  rw [call_of_resolved bound, refused]
  rfl

theorem call_of_uninstalled (bound : plan.isVirtual = false)
    (accepted : plan.checkArguments arguments = .ok ()) (absent : session.installed = none)
    (dispatcher : Dispatcher) :
    runFrom (call dispatcher plan arguments) session = (.error .noEngine, session) := by
  rw [call_of_resolved bound, accepted, runFrom_bind_of_ok (runFrom_lift _ _)]
  exact runFrom_bind_of_error (runFrom_installedEngine_of_none absent) _

theorem call_of_accepted (bound : plan.isVirtual = false)
    (accepted : plan.checkArguments arguments = .ok ()) {name : String}
    (installed : session.installed = some name) (dispatcher : Dispatcher) :
    runFrom (call dispatcher plan arguments) session =
      runFrom (liftM (CallTarget.ofPlan plan) >>= fun target =>
        resolve dispatcher.cache target >>= callResolved dispatcher.types plan arguments target)
        session := by
  rw [runFrom_call_of_bound installed bound, MarshalingPlan.callTarget, accepted]
  rfl

end

/-- The plan of a bound method has a hash, so that it is only for want of a class that it has no
target. -/
theorem ofPlan_of_unowned {compiler : PlanCompiler} {draft : MethodDraft} {className : Document}
    {kind : MethodKind} {plan : MarshalingPlan}
    (compiles : compiler.Compiles draft className kind plan) (bound : plan.isVirtual = false)
    (isMethod : plan.kind = .classMethod) (unowned : plan.className = .null) :
    CallTarget.ofPlan plan =
      .error (Failure.raised (.invariant (.noOwningClass plan.methodName))) := by
  obtain ⟨hashed, -⟩ := PlanCompiler.bindingState_eq_ok_iff.mp compiles.state
  have isBound : plan.bindingState = .bound := by
    cases state : plan.bindingState with
    | bound => rfl
    | virtual =>
        rw [MarshalingPlan.isVirtual, state] at bound
        cases bound
  have given : plan.abiHash ≠ .null := by
    intro missing
    rw [isBound, PlanCompiler.hasHash, ← compiles.abiHash, missing] at hashed
    cases hashed
  unfold CallTarget.ofPlan
  rw [isMethod, unowned]
  split
  · contradiction
  · contradiction
  · rfl
  · contradiction

theorem guarded_of_compiles {compiler : PlanCompiler} {draft : MethodDraft}
    {className : Document} {kind : MethodKind} {plan : MarshalingPlan}
    (compiles : compiler.Compiles draft className kind plan) (dispatcher : Dispatcher)
    (arguments : CallArguments) (session : Session) :
    Guarded Failure.raised plan dispatcher arguments session where
  virtual isVirtual := by
    rw [call_of_virtual isVirtual]
    rfl
  miscounted bound counts := by
    refine call_of_unaccepted bound ?_ dispatcher session
    rw [MarshalingPlan.checkArguments, if_pos (bne_iff_ne.mpr counts)]
  overfull bound counts extra closed := by
    refine call_of_unaccepted bound ?_ dispatcher session
    have given : arguments.extra.isEmpty = false := by simpa using extra
    simp [MarshalingPlan.checkArguments, counts, given, closed]
  uninstalled bound accepted absent := call_of_uninstalled bound accepted absent dispatcher
  unowned bound accepted installed isMethod unowned := by
    obtain ⟨name, installed⟩ := Option.ne_none_iff_exists'.mp installed
    rw [call_of_accepted bound accepted installed,
      ofPlan_of_unowned compiles bound isMethod unowned]
    rfl
  unknown bound accepted name engine target key failure serves targeted keyed unknown answered := by
    have ran := serves.runFrom_resolve_of_refused keyed unknown answered
    have searched := session.searched_noting serves.found target (.error failure)
    refine ⟨CallTarget.answer_of_error keyed answered, _, searched, session.cache_noting .., ?_⟩
    rw [call_of_accepted bound accepted serves.installed, targeted,
      runFrom_bind_of_ok (runFrom_lift _ _)]
    exact runFrom_bind_of_error ran _
  missing bound accepted name engine target callable after serves targeted resolved instanced
      isMethod receiver := by
    have looks := serves.looksUp target
    rw [resolved] at looks
    have unreceived : plan.receiverHandle arguments.receiver =
        .error (Failure.raised (.badKind (.missingInstance plan.className plan.methodName))) := by
      simp [MarshalingPlan.receiverHandle, instanced, isMethod, receiver]
    refine ⟨looks.searched serves, ?_⟩
    rw [call_of_accepted bound accepted serves.installed, targeted,
      runFrom_bind_of_ok (runFrom_lift _ _), runFrom_bind_of_ok resolved, callResolved, unreceived]
    rfl
  passes bound := passage bound dispatcher arguments session

/-- What can be quoted is refused as it is. -/
theorem Guarded.of_isQuotable {plan : MarshalingPlan} {dispatcher : Dispatcher}
    {arguments : CallArguments} {session : Session}
    (guarded : Guarded Failure.raised plan dispatcher arguments session)
    (quotable : plan.IsQuotable) : Guarded id plan dispatcher arguments session where
  virtual := guarded.virtual
  miscounted bound counts := by
    rw [guarded.miscounted bound counts, Failure.raised_of_writable]
    · rfl
    · exact List.forall_mem_singleton.mpr quotable.exposedName
  overfull bound counts extra closed := by
    rw [guarded.overfull bound counts extra closed, Failure.raised_of_writable]
    · rfl
    · exact List.forall_mem_singleton.mpr quotable.exposedName
  uninstalled := guarded.uninstalled
  unowned bound accepted installed isMethod unowned := by
    rw [guarded.unowned bound accepted installed isMethod unowned, Failure.raised_of_writable]
    · rfl
    · exact List.forall_mem_singleton.mpr quotable.methodName
  unknown bound accepted name engine target key failure serves targeted keyed unknown answered := by
    obtain ⟨same, after, searched⟩ := guarded.unknown bound accepted name engine target key failure
      serves targeted keyed unknown answered
    rw [CallTarget.raised_absence_of_ofPlan quotable targeted] at same
    exact ⟨same, after, searched⟩
  missing bound accepted name engine target callable after serves targeted resolved instanced
      isMethod receiver := by
    obtain ⟨searched, ran⟩ := guarded.missing bound accepted name engine target callable after
      serves targeted resolved instanced isMethod receiver
    rw [Failure.raised_of_writable] at ran
    · exact ⟨searched, ran⟩
    · exact List.forall_mem_cons.mpr
        ⟨quotable.className, List.forall_mem_singleton.mpr quotable.methodName⟩
  passes := guarded.passes

/-- Bad inputs are refused before anything is made for a call, whatever else is wrong with it, and a
callable is entered once at most, with all that it is called with handed over before. The plan of a
method that JSON describes can always be quoted in what the refusal says. -/
theorem call_guarded {compiler : PlanCompiler} {draft : MethodDraft} {className : Document}
    {kind : MethodKind} {plan : MarshalingPlan}
    (compiled : (compiler.compile draft className kind).outcome = .ok plan)
    (dispatcher : Dispatcher) (arguments : CallArguments) (session : Session) :
    Guarded Failure.raised plan dispatcher arguments session ∧
      (plan.IsFromJson → Guarded id plan dispatcher arguments session) := by
  have guarded := guarded_of_compiles (PlanCompiler.compiles_of_compile compiled) dispatcher
    arguments session
  exact ⟨guarded, fun fromJson => guarded.of_isQuotable fromJson.isQuotable⟩

/-! A method with one argument, called on nothing with none and an extra one, in no engine. -/

namespace Adding

def descriptor : MethodDescriptor :=
  ⟨"add", [⟨"number", "int", none, none⟩], none, false, false, false, false, some (.int 7)⟩

/-- The entry that describes the method. -/
def entry : Document :=
  .table [("name", .text "add"),
    ("arguments", .array [.table [("name", .text "number"), ("type", .text "int")]]),
    ("hash", .int 7)]

theorem isFromJson_descriptor : descriptor.IsFromJson := by
  have argument {room : Nat} : Document.Json.Keeps (room + 1)
      (.table [("name", .text "number"), ("type", .text "int")]) :=
    .table (by decide) (by simp)
  have listed {room : Nat} : Document.Json.Keeps (room + 2)
      (.array [.table [("name", .text "number"), ("type", .text "int")]]) :=
    .array (by simpa using argument)
  have keeps : Document.Json.Keeps Document.Json.nestingRoom entry :=
    .table (by decide) (by simpa using listed)
  exact ⟨entry, Document.isFromJson_of_keeps keeps (by decide +kernel), rfl⟩

def compiled : Except Failure MarshalingPlan :=
  ((PlanCompiler.mk (.bundled []) .none).compile (.ofDescriptor descriptor)
    (.ofText? (some "Sum")) .classMethod).outcome

def arguments : CallArguments := ⟨.nothing, [], [.int 1]⟩

end Adding

theorem call_guarded_of_adding : ∃ plan, Adding.compiled = .ok plan ∧ plan.IsFromJson ∧
    Guarded id plan .default Adding.arguments Session.empty ∧
    runFrom (call .default plan Adding.arguments) Session.empty =
      (.error (.badKind (.argumentCount plan.exposedName 1 0)), Session.empty) := by
  have counted : Adding.compiled.map (fun plan => (plan.isVirtual, plan.declaredCount)) =
      .ok (false, 1) := rfl
  cases planned : Adding.compiled with
  | error failure =>
      rw [planned] at counted
      cases counted
  | ok plan =>
      rw [planned] at counted
      obtain ⟨bound, declared⟩ := Prod.mk.inj (Except.ok.inj counted)
      have fromJson : plan.IsFromJson :=
        ⟨_, Adding.descriptor, _, _, Adding.isFromJson_descriptor, planned⟩
      have guarded :=
        (call_guarded planned .default Adding.arguments Session.empty).2 fromJson
      have miscounted := guarded.miscounted bound (by rw [declared]; decide)
      rw [declared] at miscounted
      exact ⟨plan, rfl, fromJson, guarded, miscounted⟩

end Bridge

end EngineBridge
