import EngineBridge.Proofs.Session.Keeping

/-!
How often a callable is entered.

An invocation enters its callable once, if the callable can see its arguments at all. Nothing that a
call does after that enters a callable again, whatever has been written.
-/

namespace EngineBridge

variable {α β : Type}

namespace Native

/-- Entering a callable that can see its arguments is one entry, and otherwise it is none. -/
theorem calls_enter (script : NativeScript) (asVariants : Bool) (pointers : List Pointer)
    (landing : Landing) (event : CallView → Event) (isCall : ∀ seen, (event seen).isCall = true)
    (engine : Engine) :
    ((enter script asVariants pointers landing event).run engine).2.calls = engine.calls ++
      match (runFrom (view script asVariants pointers landing) engine).1 with
      | .ok seen => [event seen]
      | .error _ => [] := by
  rcases view_unchanged script asVariants pointers landing engine with ⟨looked, viewed⟩
  cases looked with
  | error failure => rw [enter_of_blind viewed, viewed, List.append_nil]
  | ok seen =>
      rw [enter_of_view viewed, viewed, (perform_silence script pointers landing _).calls]
      simp [Engine.calls, Engine.noted, isCall seen]

end Native

namespace Callable

/-- The entry into a callable, with what it sees. -/
def entry (callable : Callable) (strategy : CallStrategy) (receiver : Document)
    (pointers : List Pointer) (seen : CallView) : Event :=
  match callable, strategy with
  | .bind number, .directPointerCall => .pointerCall number receiver seen
  | .bind number, .variantArrayCall => .variantCall number receiver pointers.length seen
  | .function _ called _, _ => .utilityCall called pointers.length seen

/-- Whether a callable reads every argument as a boxed value. -/
def readsBoxed (callable : Callable) (strategy : CallStrategy) : Bool :=
  match callable, strategy with
  | .bind _, .directPointerCall => false
  | .bind _, .variantArrayCall => true
  | .function _ _ script, _ => script.isVararg

/-- The entries that one invocation makes. -/
def entries (callable : Callable) (strategy : CallStrategy) (receiver : Document)
    (pointers : List Pointer) (landing : Landing) (script : NativeScript) (engine : Engine) :
    List Event :=
  match (runFrom (Native.view script (callable.readsBoxed strategy) pointers landing) engine).1 with
  | .ok seen => [callable.entry strategy receiver pointers seen]
  | .error _ => []

end Callable

namespace Bridge

/-- A silent release leaves silence after an operation. -/
theorem silence_releasing {release : Bridge Unit} (released : Silent release)
    (operation : Bridge α) (session : Session) :
    (runFrom operation session).2.Silence (runFrom (releasing operation release) session).2 := by
  rcases ran : runFrom operation session with ⟨outcome, middle⟩
  unfold releasing
  rw [runFrom_bind_of_ok (runFrom_attempt ran)]
  rcases freed : runFrom release middle with ⟨result, after⟩
  have kept := released.relates freed
  cases result with
  | error failure =>
      rw [runFrom_bind_of_error freed]
      exact kept
  | ok done =>
      rw [runFrom_bind_of_ok freed]
      cases outcome <;> exact kept

theorem release_silent (resource : Resource) : Silent (release resource) := by
  cases resource with
  | slot number typeNumber content => exact destroyPayload_silent _
  | string number text => exact native_silent (Native.stringDestroy_silent number)

/-- Silent releases leave silence after an operation. -/
theorem silence_closing {releases : List (Bridge Unit)}
    (silent : ∀ release ∈ releases, Silent release) (operation : Bridge α) (session : Session) :
    (runFrom operation session).2.Silence (runFrom (closing releases operation) session).2 := by
  induction releases generalizing operation with
  | nil => exact refl_of Session.Silence _
  | cons release rest induction =>
      have others := induction fun other mem => silent other (List.mem_cons_of_mem release mem)
      exact trans_of Session.Silence
        (silence_releasing (silent release (List.mem_cons_self ..)) operation session)
        (others (releasing operation release))

/-- The releases after an operation enter nothing. -/
theorem callsOf_unwinding (scratch : List Resource) (operation : Bridge α) (session : Session)
    (name : String) : (runFrom (unwinding scratch operation) session).2.callsOf name =
      (runFrom operation session).2.callsOf name := by
  rw [unwinding_eq_closing]
  refine (silence_closing (fun freed mem => ?_) operation session).calls name
  obtain ⟨resource, -, rfl⟩ := List.mem_map.mp mem
  exact release_silent resource

theorem calls_invocation {engine : Engine} {callable : Callable} {script : NativeScript}
    (found : callable.script? engine = some script) (strategy : CallStrategy) (receiver : Document)
    (pointers : List Pointer) (landing : Landing) :
    ((invocation callable strategy receiver pointers landing).run engine).2.calls =
      engine.calls ++ callable.entries strategy receiver pointers landing script engine := by
  cases callable with
  | function engineName called known =>
      cases found
      rw [invocation, Native.utilityCall_run]
      exact Native.calls_enter script script.isVararg pointers landing
        (.utilityCall called pointers.length) (fun _ => rfl) engine
  | bind number =>
      have registered : engine.scripts.lookup number = some script := found
      cases strategy with
      | directPointerCall =>
          rw [invocation, Native.pointerCall_run registered]
          exact Native.calls_enter script false pointers landing (.pointerCall number receiver)
            (fun _ => rfl) engine
      | variantArrayCall =>
          rw [invocation, Native.variantCall_run registered]
          exact Native.calls_enter script true pointers landing
            (.variantCall number receiver pointers.length) (fun _ => rfl) engine

/-- What a call comes to once its callable has been invoked. -/
def conclude (dispatcher : Dispatcher) (plan : MarshalingPlan) (target : CallTarget)
    (result : Except Failure CallError × Landing) : Bridge Value :=
  match result.1 with
  | .error failure => do
      releaseLanding plan.returnStep.storage (result.2.getD [])
      throw failure
  | .ok error => do
      if error.error != 0 then emit (callErrorRecord target error)
      decode dispatcher.types plan.returnStep (result.2.getD [])

/-- A prepared call invokes its callable in one place. -/
theorem finish_eq (dispatcher : Dispatcher) (plan : MarshalingPlan) (entrance : Entrance) :
    finish dispatcher plan entrance = (do
      let landing ← plan.returnStep.landing
      let result ← invoke entrance.callable (plan.callStrategy.getD .directPointerCall)
        entrance.receiver entrance.pointers landing
      conclude dispatcher plan entrance.target result) := by
  unfold finish invokeChecked
  simp only [bind_assoc]
  refine bind_congr fun landing => bind_congr fun result => ?_
  obtain ⟨outcome, landed⟩ := result
  cases outcome with
  | error failure =>
      simp only [conclude, bind_assoc]
      rfl
  | ok error =>
      simp only [conclude]
      split <;> simp only [bind_assoc, pure_bind]

theorem conclude_silent (dispatcher : Dispatcher) (plan : MarshalingPlan) (target : CallTarget)
    (result : Except Failure CallError × Landing) :
    Silent (conclude dispatcher plan target result) := by
  unfold conclude
  split
  · exact .bind (releaseLanding_silent _ _) fun _ => .throw _
  · split
    · exact .bind (emit_silent _) fun _ => decode_silent _ _ _
    · exact decode_silent _ _ _

/-- What a prepared call does invokes its callable once and enters none otherwise. -/
theorem callsOf_finish {name : String} {place : Attached name} {plan : MarshalingPlan}
    {landing : Landing} {script : NativeScript} (dispatcher : Dispatcher) (entrance : Entrance)
    (opened : plan.returnStep.landing = .ok landing) (own : entrance.callable.IsOf name)
    (found : entrance.callable.script? place.engine = some script) :
    (runFrom (finish dispatcher plan entrance) place.session).2.callsOf name =
      some (place.engine.calls ++ entrance.callable.entries
        (plan.callStrategy.getD .directPointerCall) entrance.receiver entrance.pointers landing
        script place.engine) := by
  have landed : runFrom (liftM plan.returnStep.landing : Bridge Landing) place.session =
      (.ok landing, place.session) := by rw [runFrom_lift, opened]
  rcases ran : (invocation entrance.callable (plan.callStrategy.getD .directPointerCall)
    entrance.receiver entrance.pointers landing).run place.engine with ⟨result, engine⟩
  have calls := calls_invocation found (plan.callStrategy.getD .directPointerCall)
    entrance.receiver entrance.pointers landing
  rw [ran] at calls
  have invoked := (invoke_run own (plan.callStrategy.getD .directPointerCall) entrance.receiver
    entrance.pointers landing).trans (runOn_run place _ ran)
  have entered : ({ place.session with engines := place.session.engines.put name engine } :
      Session).callsOf name = some (place.engine.calls ++ entrance.callable.entries
        (plan.callStrategy.getD .directPointerCall) entrance.receiver entrance.pointers landing
        script place.engine) := by
    change Option.map Engine.calls ((place.session.engines.put name engine).get? name) = _
    rw [Entries.get?_put_self, Option.map_some, calls]
  rw [finish_eq, runFrom_bind_of_ok landed, runFrom_bind_of_ok invoked, ← entered]
  exact (conclude_silent dispatcher plan entrance.target result _).calls name

end Bridge

end EngineBridge
