import EngineBridge.Proofs.Call.Results
import EngineBridge.Proofs.TypeClass.Bundled

/-!
The books of a call.

Whatever a call comes to, everything that was made for it has been released once by then, and so
has its result, unless the value that is returned owns it. `Balanced` says this of two sessions, and
`call_balanced` of the sessions before and after a call of a compiled plan.
-/

namespace EngineBridge

open Bridge

variable {name : String}

namespace Bridge

/-- The number that an owned result holds when its callable has returned. -/
def holding (plan : MarshalingPlan) (entrance : Entrance) : Bridge (Option Int) := do
  let landing ← plan.returnStep.landing
  let (_, landed) ← invoke entrance.callable (plan.callStrategy.getD .directPointerCall)
    entrance.receiver entrance.pointers landing
  return plan.returnStep.storage.heldNumber? (landed.getD [])

/-- The number that the result of a call holds when its callable has returned, nothing if the call
does not come to that or has no result that has to be released. -/
def resultNumber? (dispatcher : Dispatcher) (plan : MarshalingPlan) (arguments : CallArguments)
    (session : Session) : Option Int :=
  if plan.isVirtual then none
  else
    match runFrom (prepared dispatcher plan arguments _ (holding plan)) session with
    | (.ok held?, _) => held?
    | (.error _, _) => none

end Bridge

namespace Attached

/-- Whether the callable that a call of a plan finds is one of the installed engine and writes at
most one result, and that of the kind that is expected. -/
def FitsPlan (start : Attached name) (dispatcher : Dispatcher) (plan : MarshalingPlan) : Prop :=
  ∀ target callable, CallTarget.ofPlan plan = .ok target →
    start.resolved dispatcher.cache target = .ok callable → callable.IsOf name ∧
      ∀ script, callable.script? start.engine = some script → script.Fits plan.returnStep.storage

theorem FitsPlan.of_finds {start entered : Attached name} {dispatcher : Dispatcher}
    {plan : MarshalingPlan} {arguments : CallArguments} {target : CallTarget} {callable : Callable}
    {receiver : Value} {left : List Resource} {numbers : Nat}
    (suits : start.FitsPlan dispatcher plan)
    (finds : start.finds dispatcher plan arguments = .ok (target, callable, receiver))
    (leaves : start.engine.Leaves entered.engine left numbers) :
    callable.IsOf name ∧ ∀ script, callable.script? entered.engine = some script →
      script.Fits plan.returnStep.storage := by
  rcases exists_of_bind_eq_ok finds with ⟨-, -, finds⟩
  rcases exists_of_bind_eq_ok finds with ⟨_, targeted, finds⟩
  rcases exists_of_bind_eq_ok finds with ⟨_, resolved, finds⟩
  rcases exists_of_bind_eq_ok finds with ⟨_, -, finds⟩
  cases finds
  rw [Callable.script?_of_leaves leaves]
  exact suits target callable targeted resolved

/-- Where an engine has one method only, a call finds what fits if the script of the method does. -/
theorem fitsPlan_ofMethod {key : MethodKey} {script : NativeScript} {plan : MarshalingPlan}
    (fits : script.Fits plan.returnStep.storage) :
    (ofMethod name key script).FitsPlan .default plan := by
  intro target callable targeted resolved
  rcases registered_of_resolved rfl resolved with ⟨own, registered⟩
  refine ⟨own, fun script found => ?_⟩
  cases List.mem_singleton.mp (registered script found)
  exact fits

/-- The session with other records. -/
def withRecords (place : Attached name) (records : List Log.Record) : Attached name where
  session := { place.session with records }
  engine := place.engine
  installed := place.installed
  found := place.found
  numbered := place.numbered
  tables := place.tables

end Attached

/-- The books of a call, where its result held a number and where a new owner has taken a payload
over. -/
structure Balanced (before after : Attached name) (outcome : Except Failure Value)
    (held? : Option Int) (taken? : Option Payload) : Prop where
  /-- Only the value that is returned takes something over, and that is the result. -/
  returned : ∀ payload, taken? = some payload →
    outcome = .ok (.variant before.session.variants.length) ∧ held? = some payload.slot
  variants : after.session.variants =
    before.session.variants ++ taken?.toList.map fun payload => ⟨payload, true⟩
  strings : after.session.strings = before.session.strings
  others : ∀ other, other ≠ name →
    after.session.engines.get? other = before.session.engines.get? other
  /-- At most one slot has come to those that were live, and this is the one taken over. -/
  slots : ∃ new, after.engine.slots = new ++ before.engine.slots ∧
    new.map Prod.fst = (taken?.toList.map Payload.slot).filter fun number => number != 0
  nativeStrings : after.engine.strings = before.engine.strings
  /-- A result that holds a number was made by the call, or it was never written. -/
  held : ∀ number, held? = some number →
    number = 0 ∨ (before.engine.next ≤ number ∧ number < after.engine.next)
  /-- Everything that was made and the result are released once, and nothing else is released. -/
  released : ∀ number, after.engine.releases number = before.engine.releases number +
    if taken?.map Payload.slot ≠ some number ∧
        (held? = some number ∨ (before.engine.next ≤ number ∧ number < after.engine.next))
      then 1 else 0

section

variable {before after : Attached name} {outcome : Except Failure Value} {held? : Option Int}
  {payload : Payload} {left : List Resource} {numbers : Nat}

/-- Where nothing was done nothing is left. -/
theorem Bridge.Gone.of_unchanged (place : Attached name) : Gone place none place 0 :=
  ⟨.refl place.engine, rfl, nofun, .refl place.session name⟩

theorem Balanced.of_gone (gone : Gone before held? after numbers) :
    Balanced before after outcome held? none where
  returned := nofun
  variants := by rw [gone.keeps.variants, Option.toList_none, List.map_nil, List.append_nil]
  strings := gone.keeps.strings
  others := gone.keeps.others
  slots := ⟨[], gone.leaves.slots, rfl⟩
  nativeStrings := gone.leaves.strings
  held := gone.held
  released number := by
    have positive := before.numbered.positive
    have held := gone.held number
    by_cases zero : number = 0
    · subst zero
      rw [gone.nils]
      grind
    · rw [gone.leaves.released number zero]
      simp only [List.map_nil, List.not_mem_nil, not_false_eq_true, and_true, Option.map_none]
      grind

theorem Balanced.of_adopted (adopted : Adopted before payload after left numbers) :
    Balanced before after (.ok (.variant before.session.variants.length)) (some payload.slot)
      (some payload) where
  returned other same := by
    cases same
    exact ⟨rfl, rfl⟩
  variants := adopted.variants
  strings := adopted.strings
  others := adopted.others
  slots := by
    refine ⟨_, adopted.leaves.slots, ?_⟩
    rcases adopted.only with ⟨zero, rfl⟩ | ⟨typeNumber, content, rfl⟩
    · simp [Resource.slotEntries, zero]
    · have nonzero := number_ne_zero adopted.leaves (List.mem_singleton_self _)
      simp only [Resource.number] at nonzero
      simp only [Resource.slotEntries_slot, List.map_cons, Option.toList_some]
      rw [List.filter_cons_of_pos (by simpa using nonzero)]
      rfl
  nativeStrings := by
    rw [adopted.leaves.strings]
    rcases adopted.only with ⟨zero, rfl⟩ | ⟨typeNumber, content, rfl⟩ <;> rfl
  held number same := by
    cases same
    rcases adopted.only with ⟨zero, rfl⟩ | ⟨typeNumber, content, rfl⟩
    · exact .inl zero
    · exact .inr (adopted.leaves.created _ (List.mem_singleton_self _))
  released number := by
    have positive := before.numbered.positive
    by_cases zero : number = 0
    · subst zero
      rw [adopted.nils]
      grind
    · rw [adopted.leaves.released number zero]
      rcases adopted.only with ⟨nothing, rfl⟩ | ⟨typeNumber, content, rfl⟩
      · grind
      · simp only [List.map_cons, List.map_nil, List.mem_singleton, Resource.number]
        grind

end

namespace Bridge

variable {entered last : Attached name} {plan : MarshalingPlan} {entrance : Entrance}
  {landing landed : Landing} {result : Except Failure CallError} {left : List Resource}

theorem lift_of_eq {α : Type} {given outcome : Except Failure α} (same : given = outcome)
    (session : Session) : runFrom (liftM given : Bridge α) session = (outcome, session) := by
  rw [runFrom_lift, same]

private theorem holding_run (opened : plan.returnStep.landing = .ok landing)
    (invokes : Invokes (invoke entrance.callable (plan.callStrategy.getD .directPointerCall)
      entrance.receiver entrance.pointers landing) plan.returnStep.storage entered result landed
      last left) :
    runFrom (holding plan entrance) entered.session =
      (.ok (plan.returnStep.storage.heldNumber? (landed.getD [])), last.session) := by
  unfold holding
  rw [runFrom_bind_of_ok (lift_of_eq opened _), runFrom_bind_of_ok invokes.ran]
  rfl

theorem Invokes.hasLanded {operation : Bridge (Except Failure CallError × Landing)}
    {storage : ReturnStorage}
    (invokes : Invokes operation storage entered result landed last left) :
    HasLanded storage (landed.getD []) entered last left 1 :=
  ⟨invokes.landed, invokes.leaves, invokes.nils, invokes.keeps⟩

/-- Once a callable has returned its result is decoded; the report of a call error comes in
between. -/
theorem finish_of_returned {error : CallError} (dispatcher : Dispatcher)
    (opened : plan.returnStep.landing = .ok landing)
    (invokes : Invokes (invoke entrance.callable (plan.callStrategy.getD .directPointerCall)
      entrance.receiver entrance.pointers landing) plan.returnStep.storage entered (.ok error)
      landed last left) :
    ∃ told : Attached name, told.engine = last.engine ∧
      HasLanded plan.returnStep.storage (landed.getD []) entered told left 1 ∧
      runFrom (finish dispatcher plan entrance) entered.session =
        runFrom (decode dispatcher.types plan.returnStep (landed.getD [])) told.session := by
  have landing := invokes.hasLanded
  unfold finish invokeChecked
  simp only [bind_assoc]
  rw [runFrom_bind_of_ok (lift_of_eq opened _), runFrom_bind_of_ok invokes.ran]
  by_cases reported : error.error != 0
  · simp only [if_pos reported]
    exact ⟨last.withRecords (last.session.records ++ [callErrorRecord entrance.target error]), rfl,
      ⟨landing.landed, landing.leaves, landing.nils, ⟨landing.keeps.variants, landing.keeps.strings,
        landing.keeps.others⟩⟩, rfl⟩
  · simp only [if_neg reported]
    exact ⟨last, rfl, landing, rfl⟩

/-- Entering a callable and making a value of its result disposes of the result. -/
theorem finish_disposes (dispatcher : Dispatcher) (treats : plan.returnStep.Treats)
    (opened : plan.returnStep.landing = .ok landing)
    (invokes : Invokes (invoke entrance.callable (plan.callStrategy.getD .directPointerCall)
      entrance.receiver entrance.pointers landing) plan.returnStep.storage entered result landed
      last left) (room : entered.engine.HasRoom 2) :
    ∃ outcome after,
      runFrom (finish dispatcher plan entrance) entered.session = (outcome, after.session) ∧
        Disposed entered (plan.returnStep.storage.heldNumber? (landed.getD [])) after 2
          outcome := by
  cases result with
  | error failure =>
      rcases invokes.hasLanded.release with ⟨after, released, gone⟩
      refine ⟨.error failure, after, ?_, (Disposed.gone gone).weaken (by omega)⟩
      unfold finish invokeChecked
      simp only [bind_assoc]
      rw [runFrom_bind_of_ok (lift_of_eq opened _), runFrom_bind_of_ok invokes.ran]
      simp only [bind_assoc]
      rw [runFrom_bind_of_ok released]
      rfl
  | ok error =>
      rcases finish_of_returned dispatcher opened invokes with ⟨told, same, landed, finished⟩
      have toldRoom : told.engine.HasRoom 1 := by
        rw [same]
        exact invokes.leaves.hasRoom room
      rcases decode_disposes treats landed toldRoom dispatcher.types
          with ⟨outcome, after, ran, disposed⟩
      exact ⟨outcome, after, finished.trans ran, disposed⟩

section

variable {start final : Attached name} {dispatcher : Dispatcher} {arguments : CallArguments}
  {scratch : List Resource} {numbers more : Nat} {held? : Option Int}
  {outcome : Except Failure Value}

/-- The books are right once the scratch values are released as well. -/
theorem balanced_of_disposed {stage : Stage Entrance}
    (prepares : Prepares stage start entrance entered scratch numbers)
    (disposed : Disposed entered held? final more outcome) :
    ∃ after taken?, Unwinds scratch final after ∧
      Balanced start after outcome held? taken? := by
  cases disposed with
  | gone gone =>
      rcases exists_unwinds (prepares.leaves.trans gone.leaves) with ⟨after, unwinds, left⟩
      refine ⟨after, none, unwinds, .of_gone ⟨left, ?_, ?_, ?_⟩⟩
      · rw [unwinds.quiet.nils, gone.nils, prepares.quiet.nils]
      · intro number same
        have rising := prepares.leaves.rising
        have next := unwinds.next
        rcases gone.held number same with zero | created
        · exact .inl zero
        · exact .inr (by omega)
      · exact (prepares.keeps.trans gone.keeps).trans unwinds.keeps
  | @adopted payload left same adopted =>
      rcases exists_unwinds (prepares.leaves.trans adopted.leaves) with ⟨after, unwinds, left⟩
      rw [same, prepares.keeps.variants]
      refine ⟨after, some payload, unwinds, .of_adopted ⟨left, adopted.only, ?_, ?_, ?_, ?_⟩⟩
      · rw [unwinds.quiet.nils, adopted.nils, prepares.quiet.nils]
      · rw [unwinds.keeps.variants, adopted.variants, prepares.keeps.variants]
      · rw [unwinds.keeps.strings, adopted.strings, prepares.keeps.strings]
      · intro other differs
        rw [unwinds.keeps.others other differs, adopted.others other differs,
          prepares.keeps.others other differs]

/-- A call whose arguments are all there balances. -/
private theorem balanced_of_prepared
    (prepares :
      Prepares (prepared dispatcher plan arguments) start entrance entered scratch numbers)
    (bound : plan.isVirtual = false) (treats : plan.returnStep.Treats)
    (own : entrance.callable.IsOf name)
    (fits : ∀ script, entrance.callable.script? entered.engine = some script →
      script.Fits plan.returnStep.storage)
    (room : entered.engine.HasRoom 2) :
    ∃ outcome after taken?,
      runFrom (call dispatcher plan arguments) start.session = (outcome, after.session) ∧
        Balanced start after outcome (resultNumber? dispatcher plan arguments start.session)
          taken? := by
  rw [call_of_bound bound, resultNumber?, if_neg (by simp [bound]), prepares.ran, prepares.ran]
  cases opened : plan.returnStep.landing with
  | error failure =>
      have holds : runFrom (holding plan entrance) entered.session =
          (.error failure, entered.session) :=
        runFrom_bind_of_error (lift_of_eq opened _) _
      have finished : runFrom (finish dispatcher plan entrance) entered.session =
          (.error failure, entered.session) := by
        unfold finish invokeChecked
        simp only [bind_assoc]
        exact runFrom_bind_of_error (lift_of_eq opened _) _
      rcases balanced_of_disposed prepares (.gone (.of_unchanged entered))
          with ⟨after, taken?, unwinds, balanced⟩
      refine ⟨_, after, taken?, unwinds.ran finished, ?_⟩
      rw [unwinds.ran holds]
      exact balanced
  | ok landing =>
      obtain ⟨result, landed, last, left, invokes⟩ := invoke_invokes own fits
        (ReturnStep.open_of_landing opened) (room.weaken (by omega))
        (plan.callStrategy.getD .directPointerCall) entrance.receiver entrance.pointers
      rcases finish_disposes dispatcher treats opened invokes room
          with ⟨outcome, final, finished, disposed⟩
      rcases exists_unwinds (prepares.leaves.trans invokes.leaves) with ⟨held, heldUnwinds, -⟩
      rcases balanced_of_disposed prepares disposed with ⟨after, taken?, unwinds, balanced⟩
      refine ⟨outcome, after, taken?, unwinds.ran finished, ?_⟩
      rw [heldUnwinds.ran (holding_run opened invokes)]
      exact balanced

end

/-- Every call of a compiled plan balances, whatever it is made with and whatever it comes to, as
long as the callable that it finds writes at most one result, and that of the kind that is
expected. -/
theorem call_balanced {compiler : PlanCompiler} {draft : MethodDraft} {className : Document}
    {kind : MethodKind} {plan : MarshalingPlan}
    (compiled : (compiler.compile draft className kind).outcome = .ok plan)
    (dispatcher : Dispatcher) (arguments : CallArguments) (start : Attached name)
    (suits : start.FitsPlan dispatcher plan)
    (room : start.engine.HasRoom
      (2 * (arguments.declared.length + arguments.extra.length) + 2)) :
    ∃ outcome after taken?,
      runFrom (call dispatcher plan arguments) start.session = (outcome, after.session) ∧
        Balanced start after outcome (resultNumber? dispatcher plan arguments start.session)
          taken? := by
  have treats := ReturnStep.treats_of_isReturnStep
    (PlanCompiler.compiles_of_compile compiled).returned
  cases bound : plan.isVirtual with
  | true =>
      rw [call_of_virtual bound, resultNumber?, if_pos bound]
      exact ⟨_, start, none, rfl, .of_gone (.of_unchanged start)⟩
  | false =>
      rcases prepared_prepares start dispatcher plan arguments with
        ⟨entrance, entered, scratch, receiver, prepares, finds⟩ | ⟨failure, after, declines⟩
      · rcases suits.of_finds finds prepares.leaves with ⟨own, fits⟩
        exact balanced_of_prepared prepares bound treats own fits (prepares.leaves.hasRoom room)
      · rw [call_of_bound bound, resultNumber?, if_neg (by simp [bound]), declines.ran,
          declines.ran]
        exact ⟨_, after, none, rfl,
          .of_gone ⟨declines.leaves, declines.quiet.nils, nofun, declines.keeps⟩⟩

/-! A method with a boxed result, in an engine in which nothing else is registered. -/

namespace Answering

def draft : MethodDraft where
  name := .text "answer"
  arguments := [⟨.text "question", .text "String", .null⟩]
  returnValue := some ⟨.text "Variant", .null⟩
  isStatic := .bool false
  isVirtual := false
  isVararg := .bool true
  abiHash := .int 7

def compiler : PlanCompiler := ⟨.bundled [], .none⟩

def script : NativeScript where
  reads := []
  writes := [.variant GType.int.number (.int 42)]
  isVararg := true
  failure := none
  error := .ok

def place : Attached "engine" :=
  .ofMethod "engine" (.text "Oracle", .text "answer", .integer 7) script

/-- A result of the method lands as a boxed value. -/
theorem storage_eq {plan : MarshalingPlan}
    (compiled : (compiler.compile draft (.text "Oracle") .classMethod).outcome = .ok plan) :
    plan.returnStep.storage = .variant := by
  rcases (PlanCompiler.compiles_of_compile compiled).returned with ⟨typeName, typeClass, -, step⟩
  rw [step, show draft.takesExtras = true from rfl]
  unfold PlanCompiler.returnStep
  simp only [if_pos]
  split <;> rfl

theorem exists_plan : ∃ plan, (compiler.compile draft (.text "Oracle") .classMethod).outcome =
    .ok plan :=
  exists_of_isOk (by decide +kernel)

end Answering

theorem call_balanced_of_answering : ∃ plan,
    (Answering.compiler.compile Answering.draft (.text "Oracle") .classMethod).outcome = .ok plan ∧
      ∃ outcome after taken?,
        runFrom (call .default plan ⟨.int 5, [.text "why"], [.int 6]⟩) Answering.place.session =
          (outcome, after.session) ∧
        Balanced Answering.place after outcome (resultNumber? .default plan
          ⟨.int 5, [.text "why"], [.int 6]⟩ Answering.place.session) taken? := by
  rcases Answering.exists_plan with ⟨plan, compiled⟩
  have fits : Answering.script.Fits plan.returnStep.storage := by
    rw [Answering.storage_eq compiled]
    exact ⟨by decide, by decide⟩
  exact ⟨plan, compiled, call_balanced compiled .default _ Answering.place
    (Attached.fitsPlan_ofMethod fits) (by decide)⟩

end Bridge

end EngineBridge
