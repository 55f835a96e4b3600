import EngineBridge.Proofs.Call.Entry

/-!
A call up to the point where the callable is entered.

Everything that a call does before that is one stage. It goes on with the pointers that are handed
over, or it fails and nothing is left of it.
-/

namespace EngineBridge

open Bridge

variable {α : Type} {name : String}

/-- What a callable is entered with. -/
structure Entrance where
  target : CallTarget
  callable : Callable
  receiver : Document
  pointers : List Pointer

/-- A plan whose state is that of a bound method is not virtual. -/
theorem MarshalingPlan.isVirtual_of_bound {plan : MarshalingPlan}
    (bound : plan.bindingState = .bound) : plan.isVirtual = false := by
  rw [isVirtual, bound]
  rfl

namespace Bridge

/-- The part of a call in which its callable is found. -/
def find (dispatcher : Dispatcher) (plan : MarshalingPlan) (arguments : CallArguments) :
    Bridge (CallTarget × Callable × Value) := do
  plan.checkArguments arguments
  let _ ← installedEngine
  let target ← CallTarget.ofPlan plan
  let callable ← resolve dispatcher.cache target
  let receiver ← plan.receiverHandle arguments.receiver
  return (target, callable, receiver)

/-- The stage of a call in which the pointers are put together. -/
def pointerStage (plan : MarshalingPlan) (arguments : CallArguments)
    (found : CallTarget × Callable × Value) : Stage Entrance :=
  fun _ use =>
    withArguments plan.arguments arguments.declared fun declared =>
      withExtras arguments.extra fun extra => do
        let pointers ← Operand.pointers (declared ++ extra)
        use ⟨found.1, found.2.1, (← get).document found.2.2, pointers⟩

/-- A call up to the point where the callable is entered. -/
def prepared (dispatcher : Dispatcher) (plan : MarshalingPlan) (arguments : CallArguments) :
    Stage Entrance :=
  (Stage.ofOperation (find dispatcher plan arguments)).andThen (pointerStage plan arguments)

/-- What a call comes to once it is prepared. -/
def finish (dispatcher : Dispatcher) (plan : MarshalingPlan) (entrance : Entrance) :
    Bridge Value := do
  let bytes ← invokeChecked entrance.target entrance.callable plan entrance.receiver
    entrance.pointers
  decode dispatcher.types plan.returnStep bytes

theorem call_of_virtual {plan : MarshalingPlan} (isVirtual : plan.isVirtual = true)
    (dispatcher : Dispatcher) (arguments : CallArguments) :
    call dispatcher plan arguments = return Value.ofDocument plan.returnStep.default := by
  unfold call
  rw [if_pos isVirtual]

/-- A call of a bound plan is prepared and finished. -/
theorem call_of_bound {plan : MarshalingPlan} (bound : plan.isVirtual = false)
    (dispatcher : Dispatcher) (arguments : CallArguments) :
    call dispatcher plan arguments =
      prepared dispatcher plan arguments Value (finish dispatcher plan) := by
  unfold call
  rw [if_neg (by simp [bound])]
  simp only [prepared, Stage.andThen, Stage.ofOperation, find, bind_assoc, pure_bind]
  rfl

end Bridge

namespace Attached

/-- What a call finds, or the failure in which it ends before anything is stored for it. -/
def finds (place : Attached name) (dispatcher : Dispatcher) (plan : MarshalingPlan)
    (arguments : CallArguments) : Except Failure (CallTarget × Callable × Value) := do
  plan.checkArguments arguments
  let target ← CallTarget.ofPlan plan
  let callable ← place.resolved dispatcher.cache target
  let receiver ← plan.receiverHandle arguments.receiver
  return (target, callable, receiver)

end Attached

namespace Bridge

private theorem lift_bind_yields {β : Type} {place : Attached name} {first : Except Failure α}
    {next : α → Bridge β} {spec : α → Except Failure β}
    (continues : ∀ value, ∃ after : Attached name,
      (next value).Yields place (spec value) after [] 0) :
    ∃ after : Attached name, (liftM first >>= next).Yields place (first >>= spec) after [] 0 := by
  have lifted := lift_yields place first
  cases first with
  | error failure => exact ⟨place, lifted.bind_error⟩
  | ok value =>
      rcases continues value with ⟨after, continued⟩
      exact ⟨after, lifted.nothing_bind continued⟩

theorem find_yields (place : Attached name) (dispatcher : Dispatcher) (plan : MarshalingPlan)
    (arguments : CallArguments) :
    ∃ after : Attached name, (find dispatcher plan arguments).Yields place
      (place.finds dispatcher plan arguments) after [] 0 := by
  unfold find Attached.finds
  apply lift_bind_yields
  intro _
  have continues : ∃ after : Attached name, (do
      let target ← CallTarget.ofPlan plan
      let callable ← resolve dispatcher.cache target
      let receiver ← plan.receiverHandle arguments.receiver
      return (target, callable, receiver) : Bridge _).Yields place (do
        let target ← CallTarget.ofPlan plan
        let callable ← place.resolved dispatcher.cache target
        let receiver ← plan.receiverHandle arguments.receiver
        return (target, callable, receiver)) after [] 0 := by
    apply lift_bind_yields
    intro target
    rcases resolve_yields place dispatcher.cache target with ⟨middle, resolved⟩
    cases found : place.resolved dispatcher.cache target with
    | error failure =>
        rw [found] at resolved
        exact ⟨middle, resolved.bind_error⟩
    | ok callable =>
        rw [found] at resolved
        have last : ∃ after : Attached name, (do
            let receiver ← plan.receiverHandle arguments.receiver
            return (target, callable, receiver) : Bridge _).Yields middle (do
              let receiver ← plan.receiverHandle arguments.receiver
              return (target, callable, receiver)) after [] 0 :=
          lift_bind_yields fun receiver => ⟨middle, .of_unchanged rfl⟩
        rcases last with ⟨after, handed⟩
        exact ⟨after, resolved.nothing_bind handed⟩
  rcases continues with ⟨after, continued⟩
  exact ⟨after, (installedEngine_yields place).nothing_bind continued⟩

/-- The part of a call in which operands become pointers. -/
def entrance (found : CallTarget × Callable × Value) (operands : List Operand) :
    Bridge Entrance := do
  let pointers ← Operand.pointers operands
  return ⟨found.1, found.2.1, (← get).document found.2.2, pointers⟩

theorem entrance_yields (place : Attached name) (found : CallTarget × Callable × Value)
    (operands : List Operand) :
    (entrance found operands).Yields place ((Operand.pointers operands).map fun pointers =>
      ⟨found.1, found.2.1, place.session.document found.2.2, pointers⟩) place [] 0 := by
  have lifted := lift_yields place (Operand.pointers operands)
  unfold entrance
  cases given : Operand.pointers operands with
  | error failure =>
      rw [given] at lifted
      exact lifted.bind_error
  | ok pointers =>
      rw [given] at lifted
      exact lifted.nothing_bind (.of_unchanged rfl)

theorem pointerStage_eq (plan : MarshalingPlan) (arguments : CallArguments)
    (found : CallTarget × Callable × Value) :
    pointerStage plan arguments found =
      (Crossing.all
        (Crossing.ofCall name plan.arguments arguments.declared arguments.extra)).andThen
        fun operands => .ofOperation (entrance found operands) := by
  funext α use
  rw [Stage.andThen, Crossing.all_ofCall]
  simp only [pointerStage, Stage.ofOperation, entrance, bind_assoc, pure_bind]

section

variable {start place after : Attached name} {dispatcher : Dispatcher} {plan : MarshalingPlan}
  {arguments : CallArguments} {found : CallTarget × Callable × Value} {operands : List Operand}
  {scratch : List Resource} {numbers : Nat}

/-- A call whose arguments have crossed is prepared if the operands can be handed over. -/
theorem prepared_of_crossed
    (search : (find dispatcher plan arguments).Yields start (.ok found) place [] 0)
    (crossed : Prepares (Crossing.all (Crossing.ofCall name plan.arguments arguments.declared
      arguments.extra)) place operands after scratch numbers)
    {pointers : List Pointer} (handed : Operand.pointers operands = .ok pointers) :
    Prepares (prepared dispatcher plan arguments) start
      ⟨found.1, found.2.1, after.session.document found.2.2, pointers⟩ after scratch numbers := by
  have entered := entrance_yields after found operands
  rw [handed] at entered
  have pointed := crossed.then_found entered
  rw [← pointerStage_eq] at pointed
  exact .after_found search pointed

end

theorem length_ofCall_le (steps : List ArgumentStep) (declared extras : List Value) :
    (Crossing.ofCall name steps declared extras).length ≤ declared.length + extras.length := by
  unfold Crossing.ofCall
  rw [List.length_append, List.length_zipWith, List.length_map]
  omega

/-- How far a call comes: its callable is found, then its arguments are stored one after the other,
and then there is a pointer for each of them. -/
inductive Course (start : Attached name) (dispatcher : Dispatcher) (plan : MarshalingPlan)
    (arguments : CallArguments) : Prop
  | unfound {failure : Failure} {place : Attached name}
      (finds : start.finds dispatcher plan arguments = .error failure)
      (search : (find dispatcher plan arguments).Yields start (.error failure) place [] 0)
  | unstored {found : CallTarget × Callable × Value} {failure : Failure} {place : Attached name}
      (finds : start.finds dispatcher plan arguments = .ok found)
      (search : (find dispatcher plan arguments).Yields start (.ok found) place [] 0)
      (stops : Crossing.Stops
        (Crossing.ofCall name plan.arguments arguments.declared arguments.extra) place failure)
  | unpassed {found : CallTarget × Callable × Value} {failure : Failure} {place after : Attached name}
      {operands : List Operand} {scratch : List Resource}
      (finds : start.finds dispatcher plan arguments = .ok found)
      (search : (find dispatcher plan arguments).Yields start (.ok found) place [] 0)
      (marshals : Crossing.Marshals
        (Crossing.ofCall name plan.arguments arguments.declared arguments.extra) place operands
        scratch after)
      (refused : Operand.pointers operands = .error failure)
  | entered {found : CallTarget × Callable × Value} {place after : Attached name}
      {operands : List Operand} {scratch : List Resource} {pointers : List Pointer}
      (finds : start.finds dispatcher plan arguments = .ok found)
      (search : (find dispatcher plan arguments).Yields start (.ok found) place [] 0)
      (marshals : Crossing.Marshals
        (Crossing.ofCall name plan.arguments arguments.declared arguments.extra) place operands
        scratch after)
      (handed : Operand.pointers operands = .ok pointers)

theorem course (start : Attached name) (dispatcher : Dispatcher) (plan : MarshalingPlan)
    (arguments : CallArguments) : Course start dispatcher plan arguments := by
  obtain ⟨place, search⟩ := find_yields start dispatcher plan arguments
  cases finds : start.finds dispatcher plan arguments with
  | error failure =>
      rw [finds] at search
      exact .unfound finds search
  | ok found =>
      rw [finds] at search
      rcases Crossing.marshals_or_stops (Crossing.ofCall name plan.arguments arguments.declared
        arguments.extra) place with ⟨operands, scratch, after, marshals⟩ | ⟨failure, stops⟩
      · cases handed : Operand.pointers operands with
        | error failure => exact .unpassed finds search marshals handed
        | ok pointers => exact .entered finds search marshals handed
      · exact .unstored finds search stops

section

variable {start place after : Attached name} {dispatcher : Dispatcher} {plan : MarshalingPlan}
  {arguments : CallArguments} {found : CallTarget × Callable × Value} {failure : Failure}
  {operands : List Operand} {scratch : List Resource} {numbers : Nat}

theorem declines_of_unfound
    (search : (find dispatcher plan arguments).Yields start (.error failure) place [] 0) :
    Declines (prepared dispatcher plan arguments) start failure place numbers :=
  (Declines.of_yields search).andThen _ (Nat.zero_le numbers)

theorem declines_of_stops
    (search : (find dispatcher plan arguments).Yields start (.ok found) place [] 0)
    (stops : Crossing.Stops
      (Crossing.ofCall name plan.arguments arguments.declared arguments.extra) place failure) :
    ∃ last, Declines (prepared dispatcher plan arguments) start failure last
      (2 * (arguments.declared.length + arguments.extra.length)) := by
  have bound := @length_ofCall_le name plan.arguments arguments.declared arguments.extra
  obtain ⟨after, crossed⟩ := stops.declines
  have pointed := crossed.andThen (fun operands => Stage.ofOperation (entrance found operands))
    (Nat.mul_le_mul_left 2 bound)
  rw [← pointerStage_eq] at pointed
  exact Declines.after_found search pointed

theorem declines_of_unpassed
    (search : (find dispatcher plan arguments).Yields start (.ok found) place [] 0)
    (crossed : Prepares (Crossing.all (Crossing.ofCall name plan.arguments arguments.declared
      arguments.extra)) place operands after scratch numbers)
    (refused : Operand.pointers operands = .error failure) :
    ∃ last, Declines (prepared dispatcher plan arguments) start failure last numbers := by
  have entered := entrance_yields after found operands
  rw [refused] at entered
  rcases crossed.then_refused entered with ⟨last, pointed⟩
  rw [← pointerStage_eq] at pointed
  exact Declines.after_found search pointed

end

/-- A call is prepared, or it fails and nothing is left of it. -/
theorem prepared_prepares (start : Attached name) (dispatcher : Dispatcher)
    (plan : MarshalingPlan) (arguments : CallArguments) :
    (∃ entrance after scratch receiver,
      Prepares (prepared dispatcher plan arguments) start entrance after scratch
        (2 * (arguments.declared.length + arguments.extra.length)) ∧
      start.finds dispatcher plan arguments =
        .ok (entrance.target, entrance.callable, receiver)) ∨
    ∃ failure after, Declines (prepared dispatcher plan arguments) start failure after
      (2 * (arguments.declared.length + arguments.extra.length)) := by
  have bound := @length_ofCall_le name plan.arguments arguments.declared arguments.extra
  have bounded := Nat.mul_le_mul_left 2 bound
  rcases course start dispatcher plan arguments with
    ⟨finds, search⟩ | ⟨finds, search, stops⟩ | ⟨finds, search, marshals, refused⟩ |
    ⟨finds, search, marshals, handed⟩
  · exact .inr ⟨_, _, declines_of_unfound search⟩
  · exact .inr ⟨_, declines_of_stops search stops⟩
  · obtain ⟨last, declines⟩ := declines_of_unpassed search marshals.prepares refused
    exact .inr ⟨_, last, { declines with leaves := declines.leaves.weaken bounded }⟩
  · have prepares := prepared_of_crossed search marshals.prepares handed
    exact .inl ⟨_, _, _, _, { prepares with leaves := prepares.leaves.weaken bounded }, finds⟩

end Bridge

end EngineBridge
