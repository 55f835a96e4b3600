import EngineBridge.Session.Basic
import Mathlib.Data.List.Forall2
import Mathlib.Order.Defs.Unbundled

/-!
Running operations that may fail.

The operations of the engine, those of a session and those in a host have one shape: an outcome, and
a state that is kept whatever the outcome is. `runFrom` runs each kind, and the lemmas here are all
that later modules use of that shape. `Preserves` and `Advances` say what an operation does to the
state, and follow its parts.
-/

namespace EngineBridge

variable {σ α β : Type}

/-- What succeeds in two steps succeeds in each. -/
theorem exists_of_bind_eq_ok {first : Except Failure α} {next : α → Except Failure β} {result : β}
    (succeeded : first >>= next = .ok result) :
    ∃ value, first = .ok value ∧ next value = .ok result := by
  cases first with
  | error failure => cases succeeded
  | ok value => exact ⟨value, rfl, succeeded⟩

/-- What succeeds for a list is what succeeds item by item. -/
theorem mapM_eq_ok_iff {make : α → Except Failure β} {items : List α} {results : List β} :
    items.mapM make = .ok results ↔
      List.Forall₂ (fun item result => make item = .ok result) items results := by
  induction items generalizing results with
  | nil => cases results <;> simp [pure, Except.pure]
  | cons item rest induction =>
      rw [List.mapM_cons]
      constructor
      · intro made
        have ⟨result, here, made⟩ := exists_of_bind_eq_ok made
        have ⟨others, there, made⟩ := exists_of_bind_eq_ok made
        cases made
        exact .cons here (induction.mp there)
      · rintro (_ | ⟨here, there⟩)
        rw [here, induction.mpr there]
        rfl

theorem mapM_eq_ok_of_forall {make : α → Except Failure β} {result : α → β} {items : List α}
    (made : ∀ item ∈ items, make item = .ok (result item)) :
    items.mapM make = .ok (items.map result) := by
  rw [mapM_eq_ok_iff, List.forall₂_map_right_iff]
  exact List.forall₂_same.mpr made

theorem exists_of_mem_of_mapM_eq_ok {make : α → Except Failure β} {items : List α}
    {results : List β} (made : items.mapM make = .ok results) {item : α} (inside : item ∈ items) :
    ∃ result ∈ results, make item = .ok result := by
  have each := mapM_eq_ok_iff.mp made
  clear made
  induction each with
  | nil => cases inside
  | cons here _ induction =>
      rcases List.mem_cons.mp inside with rfl | behind
      · exact ⟨_, List.mem_cons_self, here⟩
      · have ⟨result, member, there⟩ := induction behind
        exact ⟨result, List.mem_cons_of_mem _ member, there⟩

/-- What fails for a list fails for one of its items. -/
theorem exists_of_mapM_eq_error {make : α → Except Failure β} {items : List α} {failure : Failure}
    (failed : items.mapM make = .error failure) : ∃ item ∈ items, make item = .error failure := by
  induction items with
  | nil => cases failed
  | cons item rest induction =>
      rw [List.mapM_cons] at failed
      cases here : make item with
      | error other =>
          rw [here] at failed
          cases failed
          exact ⟨item, List.mem_cons_self, here⟩
      | ok result =>
          cases there : rest.mapM make with
          | error other =>
              rw [here, there] at failed
              cases failed
              have ⟨item, member, fails⟩ := induction there
              exact ⟨item, List.mem_cons_of_mem _ member, fails⟩
          | ok results =>
              rw [here, there] at failed
              cases failed

theorem exists_of_isOk {outcome : Except Failure α} (succeeds : outcome.isOk = true) :
    ∃ value, outcome = .ok value := by
  cases outcome with
  | ok value => exact ⟨value, rfl⟩
  | error failure => cases succeeds

/-- Whether the engine was handed something that is gone. -/
def Failure.isEngineFault : Failure → Bool
  | .engineFault _ => true
  | _ => false

/-- Whether an outcome, be it a failure, is not that of handing the engine something that is
gone. -/
def Sound (outcome : Except Failure α) : Prop :=
  ∀ failure, outcome = .error failure → failure.isEngineFault = false

namespace Sound

theorem ok (value : α) : Sound (.ok value) := nofun

theorem error {failure : Failure} (harmless : failure.isEngineFault = false) :
    Sound (.error failure : Except Failure α) := by
  intro other same
  cases same
  exact harmless

theorem raised {failure : Failure} (harmless : failure.isEngineFault = false) :
    Sound (.error failure.raised : Except Failure α) := by
  rcases failure.raised_eq_or with same | unworded
  · rw [same]
    exact .error harmless
  · rw [unworded]
    exact .error rfl

theorem bind {first : Except Failure α} {next : α → Except Failure β} (sound : Sound first)
    (continues : ∀ value, Sound (next value)) : Sound (first >>= next) := by
  cases first with
  | error failure => exact .error (sound failure rfl)
  | ok value => exact continues value

theorem map {outcome : Except Failure α} (sound : Sound outcome) (change : α → β) :
    Sound (outcome.map change) := by
  cases outcome with
  | error failure => exact .error (sound failure rfl)
  | ok value => exact .ok _

end Sound

/-- The outcome of an operation, with the state as it stands afterwards. -/
def runFrom (operation : ExceptT Failure (StateM σ) α) (state : σ) : Except Failure α × σ :=
  operation.run.run state

@[simp] theorem runFrom_pure (value : α) (state : σ) :
    runFrom (pure value : ExceptT Failure (StateM σ) α) state = (.ok value, state) := rfl

@[simp] theorem runFrom_throw (failure : Failure) (state : σ) :
    runFrom (throw failure : ExceptT Failure (StateM σ) α) state = (.error failure, state) := rfl

theorem runFrom_bind (operation : ExceptT Failure (StateM σ) α)
    (next : α → ExceptT Failure (StateM σ) β) (state : σ) :
    runFrom (operation >>= next) state =
      match runFrom operation state with
      | (.ok value, after) => runFrom (next value) after
      | (.error failure, after) => (.error failure, after) := by
  rcases ran : runFrom operation state with ⟨outcome, after⟩
  change operation state = (outcome, after) at ran
  change (match operation state with
    | (result, middle) => ExceptT.bindCont next result middle) = _
  rw [ran]
  cases outcome <;> rfl

theorem runFrom_bind_of_ok {operation : ExceptT Failure (StateM σ) α} {state after : σ} {value : α}
    (ran : runFrom operation state = (.ok value, after))
    (next : α → ExceptT Failure (StateM σ) β) :
    runFrom (operation >>= next) state = runFrom (next value) after := by
  rw [runFrom_bind, ran]

theorem runFrom_bind_of_error {operation : ExceptT Failure (StateM σ) α} {state after : σ}
    {failure : Failure} (ran : runFrom operation state = (.error failure, after))
    (next : α → ExceptT Failure (StateM σ) β) :
    runFrom (operation >>= next) state = (.error failure, after) := by
  rw [runFrom_bind, ran]

/-- What succeeds in two steps succeeds in each, one after the other. -/
theorem exists_of_runFrom_bind {operation : ExceptT Failure (StateM σ) α}
    {next : α → ExceptT Failure (StateM σ) β} {state after : σ} {result : β}
    (ran : runFrom (operation >>= next) state = (.ok result, after)) :
    ∃ value middle, runFrom operation state = (.ok value, middle) ∧
      runFrom (next value) middle = (.ok result, after) := by
  rw [runFrom_bind] at ran
  rcases first : runFrom operation state with ⟨outcome, middle⟩
  rw [first] at ran
  cases outcome with
  | ok value => exact ⟨value, middle, rfl, ran⟩
  | error failure => cases ran

/-- What fails in two steps fails in the first, or in the second after the first succeeded. -/
theorem runFrom_bind_eq_error {operation : ExceptT Failure (StateM σ) α}
    {next : α → ExceptT Failure (StateM σ) β} {state after : σ} {failure : Failure}
    (ran : runFrom (operation >>= next) state = (.error failure, after)) :
    runFrom operation state = (.error failure, after) ∨
      ∃ value middle, runFrom operation state = (.ok value, middle) ∧
        runFrom (next value) middle = (.error failure, after) := by
  rw [runFrom_bind] at ran
  rcases first : runFrom operation state with ⟨outcome, middle⟩
  rw [first] at ran
  cases outcome with
  | ok value => exact .inr ⟨value, middle, rfl, ran⟩
  | error other =>
      cases ran
      exact .inl rfl

@[simp] theorem runFrom_get (state : σ) :
    runFrom (get : ExceptT Failure (StateM σ) σ) state = (.ok state, state) := rfl

@[simp] theorem runFrom_set (state after : σ) :
    runFrom (set after : ExceptT Failure (StateM σ) PUnit) state = (.ok (), after) := rfl

@[simp] theorem runFrom_modify (change : σ → σ) (state : σ) :
    runFrom (modify change : ExceptT Failure (StateM σ) PUnit) state = (.ok (), change state) := rfl

/-- An outcome that is at hand leaves the state alone. -/
@[simp] theorem runFrom_lift (outcome : Except Failure α) (state : σ) :
    runFrom (liftM outcome : ExceptT Failure (StateM σ) α) state = (outcome, state) := rfl

theorem of_runFrom_lift {outcome : Except Failure α} {state after : σ} {value : α}
    (ran : runFrom (liftM outcome : ExceptT Failure (StateM σ) α) state = (.ok value, after)) :
    outcome = .ok value ∧ after = state :=
  ⟨(Prod.ext_iff.mp ran).1, (Prod.ext_iff.mp ran).2.symm⟩

section

variable {τ : Type} {observe : σ → τ}

/-- Whether an operation leaves something of the state as it is, whatever it comes to. -/
def Preserves (observe : σ → τ) (operation : ExceptT Failure (StateM σ) α) : Prop :=
  ∀ state, observe (runFrom operation state).2 = observe state

namespace Preserves

theorem pure (value : α) : Preserves observe (pure value : ExceptT Failure (StateM σ) α) :=
  fun _ => rfl

theorem throw (failure : Failure) :
    Preserves observe (throw failure : ExceptT Failure (StateM σ) α) :=
  fun _ => rfl

theorem lift (outcome : Except Failure α) :
    Preserves observe (liftM outcome : ExceptT Failure (StateM σ) α) :=
  fun _ => rfl

theorem get : Preserves observe (get : ExceptT Failure (StateM σ) σ) :=
  fun _ => rfl

theorem modify {change : σ → σ} (same : ∀ state, observe (change state) = observe state) :
    Preserves observe (modify change : ExceptT Failure (StateM σ) PUnit) :=
  same

theorem bind {operation : ExceptT Failure (StateM σ) α}
    {next : α → ExceptT Failure (StateM σ) β} (first : Preserves observe operation)
    (second : ∀ value, Preserves observe (next value)) :
    Preserves observe (operation >>= next) := by
  intro state
  have kept := first state
  rw [runFrom_bind]
  rcases ran : runFrom operation state with ⟨outcome, after⟩
  rw [ran] at kept
  cases outcome with
  | ok value => exact (second value after).trans kept
  | error failure => exact kept

end Preserves

end

section

variable {relation : σ → σ → Prop}

/-- How the states before and after an operation are related, whatever it comes to. -/
def Advances (relation : σ → σ → Prop) (operation : ExceptT Failure (StateM σ) α) : Prop :=
  ∀ state, relation state (runFrom operation state).2

namespace Advances

theorem relates {operation : ExceptT Failure (StateM σ) α} (advances : Advances relation operation)
    {state after : σ} {outcome : Except Failure α} (ran : runFrom operation state = (outcome, after)) :
    relation state after := by
  have related := advances state
  rw [ran] at related
  exact related

variable [IsPreorder σ relation]

theorem pure (value : α) : Advances relation (pure value : ExceptT Failure (StateM σ) α) :=
  fun state => refl_of relation state

theorem throw (failure : Failure) :
    Advances relation (throw failure : ExceptT Failure (StateM σ) α) :=
  fun state => refl_of relation state

theorem lift (outcome : Except Failure α) :
    Advances relation (liftM outcome : ExceptT Failure (StateM σ) α) :=
  fun state => refl_of relation state

theorem get : Advances relation (get : ExceptT Failure (StateM σ) σ) :=
  fun state => refl_of relation state

omit [IsPreorder σ relation] in
theorem modify {change : σ → σ} (related : ∀ state, relation state (change state)) :
    Advances relation (modify change : ExceptT Failure (StateM σ) PUnit) :=
  related

theorem bind {operation : ExceptT Failure (StateM σ) α}
    {next : α → ExceptT Failure (StateM σ) β} (first : Advances relation operation)
    (second : ∀ value, Advances relation (next value)) :
    Advances relation (operation >>= next) := by
  intro state
  have begun := first state
  rw [runFrom_bind]
  rcases ran : runFrom operation state with ⟨outcome, after⟩
  rw [ran] at begun
  cases outcome with
  | ok value => exact trans_of relation begun (second value after)
  | error failure => exact begun

end Advances

end

namespace Bridge

theorem runFrom_attempt {operation : Bridge α} {session middle : Session}
    {outcome : Except Failure α} (ran : runFrom operation session = (outcome, middle)) :
    runFrom (attempt operation) session = (.ok outcome, middle) := by
  change operation session = (outcome, middle) at ran
  change (operation session).map Except.ok id = _
  rw [ran]
  rfl

/-- A release takes place in any case, and only a release that fails changes the outcome. -/
theorem runFrom_releasing {operation : Bridge α} {release : Bridge Unit}
    {session middle after : Session} {outcome : Except Failure α}
    (ran : runFrom operation session = (outcome, middle))
    (released : runFrom release middle = (.ok (), after)) :
    runFrom (releasing operation release) session = (outcome, after) := by
  unfold releasing
  rw [runFrom_bind_of_ok (runFrom_attempt ran), runFrom_bind_of_ok released]
  cases outcome <;> rfl

/-- A release only looks at what the operation before it came to. -/
theorem runFrom_releasing_congr {operation other : Bridge α} (release : Bridge Unit)
    {session middle : Session} (same : runFrom operation session = runFrom other middle) :
    runFrom (releasing operation release) session = runFrom (releasing other release) middle := by
  have attempted : runFrom (attempt operation) session = runFrom (attempt other) middle := by
    change operation session = other middle at same
    change (operation session).map Except.ok id = (other middle).map Except.ok id
    rw [same]
  unfold releasing
  rw [runFrom_bind, attempted, ← runFrom_bind]

theorem runFrom_emit (record : Log.Record) (session : Session) :
    runFrom (emit record) session =
      (.ok (), { session with records := session.records ++ [record] }) := rfl

end Bridge

/-! How the sessions before and after an operation are related. An action on an engine puts it back
under its name. -/

namespace Advances

variable {relation : Session → Session → Prop}

theorem attempt {operation : Bridge α} (advances : Advances relation operation) :
    Advances relation (Bridge.attempt operation) := by
  intro session
  rcases ran : runFrom operation session with ⟨outcome, after⟩
  rw [Bridge.runFrom_attempt ran]
  exact advances.relates ran

variable [IsPreorder Session relation]

theorem releasing {operation : Bridge α} {release : Bridge Unit}
    (advances : Advances relation operation) (released : Advances relation release) :
    Advances relation (Bridge.releasing operation release) := by
  refine .bind advances.attempt fun outcome => .bind released fun _ => ?_
  cases outcome with
  | ok value => exact .pure value
  | error failure => exact .throw failure

theorem installedEngine : Advances relation Bridge.installedEngine := by
  refine .bind .get fun session => ?_
  cases session.installed with
  | some name => exact .pure name
  | none => exact .throw _

theorem runOn {action : StateM Engine α} {name : String}
    (puts : ∀ (session : Session) (engine : Engine), session.engines.get? name = some engine →
      relation session
        { session with engines := session.engines.put name (action.run engine).2 }) :
    Advances relation (Bridge.runOn name action) := by
  intro session
  unfold Bridge.runOn
  rw [runFrom_bind_of_ok (runFrom_get session)]
  cases found : session.engines.get? name with
  | none => exact refl_of relation session
  | some engine => exact puts session engine found

theorem nativeOn {action : Native α} {name : String}
    (puts : ∀ (session : Session) (engine : Engine), session.engines.get? name = some engine →
      relation session
        { session with engines := session.engines.put name (runFrom action engine).2 }) :
    Advances relation (Bridge.nativeOn name action) := by
  refine .bind (.runOn puts) fun outcome => ?_
  cases outcome with
  | ok value => exact .pure value
  | error failure => exact .throw failure

end Advances

end EngineBridge
