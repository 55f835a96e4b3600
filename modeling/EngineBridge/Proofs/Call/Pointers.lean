import EngineBridge.Proofs.Call.Silence
import EngineBridge.Proofs.Call.Typed

/-!
The pointers with which a callable is entered.

A call whose arguments are well typed enters its callable once. By then there is one pointer for
each argument, in order, and each of them leads to what the declared type says.
-/

namespace EngineBridge

open Bridge

variable {name : String}

namespace Operand

/-- Operands that each have a pointer have pointers in the same order. -/
theorem exists_pointers {operands : List Operand} (suits : Nat → Pointer → Prop)
    (each : ∀ (index : Nat) (operand : Operand), operands[index]? = some operand →
      ∃ pointer, operand.pointer = .ok pointer ∧ suits index pointer) :
    ∃ handed, pointers operands = .ok handed ∧ handed.length = operands.length ∧
      ∀ (index : Nat) (pointer : Pointer), handed[index]? = some pointer →
        suits index pointer := by
  induction operands generalizing suits with
  | nil => exact ⟨[], rfl, rfl, nofun⟩
  | cons first rest induction =>
      rcases each 0 first rfl with ⟨pointer, pointed, suited⟩
      obtain ⟨handed, others, length, suitable⟩ := induction (fun index => suits (index + 1))
        fun index operand found => each (index + 1) operand found
      refine ⟨pointer :: handed, ?_, by rw [List.length_cons, length, List.length_cons], ?_⟩
      · change (first :: rest).mapM Operand.pointer = _
        change rest.mapM Operand.pointer = _ at others
        rw [List.mapM_cons, pointed, others]
        rfl
      · intro index other found
        cases index with
        | zero =>
            cases found
            exact suited
        | succ index => exact suitable index other found

end Operand

namespace Crossing

variable {crossings : List (Crossing name)} {start : Attached name}

private theorem exists_expected {limit : Nat} (suits : Nat → Attached name → Pointer → Prop)
    (certain : ∀ (index : Nat) (crossing : Crossing name), crossings[index]? = some crossing →
      ∃ stored, crossing.Certain start limit (suits index) stored) :
    ∃ expected : List Stored,
      (∀ later, start.Reaches later limit →
        crossings.map (fun crossing => crossing.stored later) = expected.map .ok) ∧
      ∀ (index : Nat) (stored : Stored), expected[index]? = some stored →
        ∃ crossing, crossings[index]? = some crossing ∧
          crossing.Certain start limit (suits index) stored := by
  induction crossings generalizing suits with
  | nil => exact ⟨[], fun _ _ => rfl, nofun⟩
  | cons first rest induction =>
      rcases certain 0 first rfl with ⟨stored, here⟩
      obtain ⟨expected, agree, there⟩ := induction (fun index => suits (index + 1))
        fun index crossing found => certain (index + 1) crossing found
      refine ⟨stored :: expected, fun later reached => ?_, fun index other found => ?_⟩
      · rw [List.map_cons, List.map_cons, here.stays later reached, agree later reached]
      · cases index with
        | zero =>
            cases found
            exact ⟨first, rfl, here⟩
        | succ index => exact there index other found

private theorem Carries.of_getElem? {expected : List Stored} {operands : List Operand}
    {scratch : List Resource} (carries : Carries expected operands scratch) {index : Nat}
    {operand : Operand} (found : operands[index]? = some operand) :
    ∃ stored number, expected[index]? = some stored ∧ operand = stored.operand number ∧
      ∀ resource ∈ stored.scratch number, resource ∈ scratch := by
  induction carries generalizing index with
  | nil => cases found
  | @cons stored others operands scratch number rest induction =>
      cases index with
      | zero =>
          cases found
          exact ⟨stored, number, rfl, rfl, fun resource mem => List.mem_append_right _ mem⟩
      | succ index =>
          rcases induction found with ⟨other, later, placed, same, listed⟩
          exact ⟨other, later, placed, same, fun resource mem =>
            List.mem_append_left _ (listed resource mem)⟩

private theorem Carries.length_eq {expected : List Stored} {operands : List Operand}
    {scratch : List Resource} (carries : Carries expected operands scratch) :
    operands.length = expected.length := by
  induction carries with
  | nil => rfl
  | cons number rest induction => rw [List.length_cons, List.length_cons, induction]

/-- What is certain to cross is handed over in order, each as it should be. -/
theorem all_passes {place : Attached name} (found : start.Reaches place 0)
    (suits : Nat → Attached name → Pointer → Prop)
    (certain : ∀ (index : Nat) (crossing : Crossing name), crossings[index]? = some crossing →
      ∃ stored, crossing.Certain start (2 * crossings.length) (suits index) stored) :
    ∃ operands entered scratch pointers,
      Prepares (all crossings) place operands entered scratch (2 * crossings.length) ∧
      Operand.pointers operands = .ok pointers ∧ pointers.length = crossings.length ∧
      ∀ (index : Nat) (pointer : Pointer), pointers[index]? = some pointer →
        suits index entered pointer := by
  rcases exists_expected suits certain with ⟨expected, agree, certainly⟩
  have fits : 0 + 2 * crossings.length ≤ 2 * crossings.length := by omega
  obtain ⟨operands, entered, scratch, prepares, carries⟩ := all_carries fun later reached =>
    agree later (found.trans reached fits)
  have reached : start.Reaches entered (2 * crossings.length) :=
    found.trans ⟨⟨scratch, prepares.leaves⟩, prepares.keeps⟩ fits
  have rising : start.engine.next ≤ place.engine.next := by
    rcases found.leaves with ⟨left, leaves⟩
    exact leaves.rising
  obtain ⟨pointers, handed, length, suited⟩ := Operand.exists_pointers
    (fun index pointer => suits index entered pointer) fun index operand stands => by
      obtain ⟨stored, number, placed, rfl, listed⟩ := carries.of_getElem? stands
      obtain ⟨crossing, -, sure⟩ := certainly index stored placed
      exact sure.suits number entered reached fun resource mem =>
        ⟨Attached.has_of_leaves prepares.leaves (listed resource mem),
          Int.le_trans rising (prepares.leaves.created resource (listed resource mem)).1⟩
  refine ⟨operands, entered, scratch, pointers, prepares, handed, ?_, suited⟩
  have same := congrArg List.length (agree start (.refl start _))
  rw [List.length_map, List.length_map] at same
  rw [length, carries.length_eq, same]

end Crossing

namespace MarshalingPlan

/-- Whether there is an object to call a method on, where one is needed. -/
def HasReceiver (plan : MarshalingPlan) (receiver : Value) : Prop :=
  plan.isStatic.isTruthy = true ∨ plan.kind = .utility ∨ receiver.integer?.isSome = true ∨
    ∃ className handle, receiver = .object className handle

/-- There is one pointer for each argument. -/
theorem pointerCount_of_taken {plan : MarshalingPlan} {extras : List Value}
    (taken : plan.takesExtras = false → extras = []) :
    plan.pointerCount extras.length = .ok (plan.declaredCount + extras.length) := by
  have required : extras ≠ [] → plan.requireExtras = .ok () := by
    intro present
    unfold requireExtras
    cases takes : plan.takesExtras with
    | true => rfl
    | false => exact absurd (taken takes) present
  unfold pointerCount
  cases extras with
  | nil => rfl
  | cons first rest =>
      rw [if_pos (by simp; omega), required nofun]
      rfl

theorem exists_receiverHandle {plan : MarshalingPlan} {receiver : Value}
    (present : plan.HasReceiver receiver) :
    ∃ handle, plan.receiverHandle receiver = .ok handle := by
  unfold receiverHandle
  rcases present with isStatic | isUtility | isNumber | ⟨className, handle, rfl⟩
  · exact ⟨_, if_pos (by rw [isStatic, Bool.true_or])⟩
  · exact ⟨_, if_pos (by rw [isUtility]; simp)⟩
  · split
    · exact ⟨_, rfl⟩
    · cases receiver with
      | nothing => cases isNumber
      | _ => exact ⟨_, if_pos isNumber⟩
  · split
    · exact ⟨_, rfl⟩
    · exact ⟨handle, rfl⟩

end MarshalingPlan

namespace ReturnStep

private theorem exists_zeros {typeName : String} {size : Size}
    (sized : Entries.get? SizeTable.bundled typeName = some size) :
    ∃ bytes, size.zeros = .ok bytes := by
  have all : ∀ entry ∈ SizeTable.bundled, entry.2.zeros.isOk = true := by decide +kernel
  exact exists_of_isOk (all (typeName, size) (mem_of_lookup sized))

private theorem exists_landing_of_crossesAs {typeName : String} {typeClass : TypeClass}
    {form : CrossingForm} (crosses : CrossesAs typeName typeClass form) (takesExtras : Bool) :
    ∃ landing, (PlanCompiler.returnStep takesExtras typeName typeClass).landing = .ok landing := by
  unfold PlanCompiler.returnStep
  dsimp only
  cases takesExtras with
  | true =>
      by_cases boxed : typeName = variantType
      · rw [if_pos rfl, if_pos boxed]
        exact ⟨_, rfl⟩
      · rw [if_pos rfl, if_neg boxed]
        exact ⟨_, rfl⟩
  | false =>
      rw [if_neg nofun]
      by_cases boxed : typeName = variantType
      · rw [if_pos boxed]
        exact ⟨_, rfl⟩
      rw [if_neg boxed]
      cases crosses with
      | truth | real | word =>
          dsimp only
          split
          · exact ⟨_, rfl⟩
          · exact ⟨_, rfl⟩
      | ordinal notString | handle notString =>
          dsimp only
          rw [if_neg notString]
          exact ⟨_, rfl⟩
      | text named sized =>
          dsimp only
          rw [if_pos named]
          exact ⟨_, rfl⟩
      | boxed named => exact absurd named boxed
      | @builtin size notString notVariant sized =>
          dsimp only
          rw [if_neg notString]
          rcases exists_zeros sized with ⟨bytes, zeros⟩
          refine ⟨some bytes, ?_⟩
          change (do return some (← size.zeros) : Except Failure Landing) = _
          rw [zeros]
          rfl
      | typedArray notString => exact ⟨_, rfl⟩

/-- Where the sizes are known, every compiled step of a result has a place for it. -/
theorem exists_landing {classes : List String} {policy : BindingPolicy} {draft : MethodDraft}
    (primitive : ∀ typeName ∈ ["bool", "int", "float"], typeName ∉ classes) {step : ReturnStep}
    (compiled : (PlanCompiler.mk (.bundled classes) policy).IsReturnStep draft step) :
    ∃ landing, step.landing = .ok landing := by
  unfold PlanCompiler.IsReturnStep at compiled
  cases given : draft.returnValue with
  | none =>
      rw [given] at compiled
      rw [compiled]
      exact ⟨_, rfl⟩
  | some result =>
      rw [given] at compiled
      rcases compiled with ⟨typeName, typeClass, classified, rfl⟩
      unfold PlanCompiler.classifyName at classified
      split at classified
      · cases classified
        exact exists_landing_of_crossesAs
          (TypeClassifier.crossesAs_classify primitive _ _) draft.takesExtras
      · cases classified

end ReturnStep

namespace Native

/-- Whether a callable can read an argument in a form: any but a boxed value, and that if it is
there. -/
def CanRead (engine : Engine) (form : ReadForm) (pointer : Pointer) : Prop :=
  form = .variant → ∀ bytes, pointer = .address bytes →
    ∃ content, engine.content? (Payload.ofBytes bytes).slot = some content

theorem readArguments_of_canRead {engine : Engine} {forms : List ReadForm}
    {pointers : List Pointer}
    (can : ∀ (index : Nat) (form : ReadForm) (pointer : Pointer), forms[index]? = some form →
      pointers[index]? = some pointer → CanRead engine form pointer) :
    ∃ seen, runFrom (readArguments forms pointers) engine = (.ok seen, engine) := by
  induction forms generalizing pointers with
  | nil => exact ⟨[], rfl⟩
  | cons form forms induction =>
      cases pointers with
      | nil => exact ⟨[], rfl⟩
      | cons pointer pointers =>
          obtain ⟨others, rest⟩ := induction fun index other handed found placed =>
            can (index + 1) other handed found placed
          have first : ∃ seen, runFrom (readArgument form pointer) engine = (.ok seen, engine) := by
            cases pointer with
            | word value => cases form <;> exact ⟨_, rfl⟩
            | address bytes =>
                cases form with
                | variant =>
                    rcases can 0 _ _ rfl rfl rfl bytes rfl with ⟨content, held⟩
                    exact ⟨_, runFrom_bind_of_ok (load_of_content held) _⟩
                | _ => exact ⟨_, rfl⟩
          rcases first with ⟨seen, read⟩
          unfold readArguments
          rw [runFrom_bind_of_ok read, runFrom_bind_of_ok rest]
          exact ⟨_, rfl⟩

/-- A callable that can read its arguments sees as many pointers as there are. -/
theorem view_of_canRead {engine : Engine} {script : NativeScript} {asVariants : Bool}
    {pointers : List Pointer}
    (can : ∀ (index : Nat) (form : ReadForm) (pointer : Pointer),
      (readForms script asVariants pointers)[index]? = some form →
        pointers[index]? = some pointer → CanRead engine form pointer) (landing : Landing) :
    ∃ seen, seen.pointerCount = pointers.length ∧
      runFrom (view script asVariants pointers landing) engine = (.ok seen, engine) := by
  rcases readArguments_of_canRead can with ⟨seen, read⟩
  unfold view
  rw [runFrom_bind_of_ok read, runFrom_bind_of_ok (runFrom_get engine)]
  exact ⟨_, rfl, rfl⟩

end Native

namespace Attached

variable {start entered : Attached name}

private theorem canRead_of_holdsBox {value : Value} {bytes : List UInt8}
    (holds : start.HoldsBox entered value bytes) (form : ReadForm) :
    Native.CanRead entered.engine form (.address bytes) := by
  rintro - _ ⟨⟩
  rcases holds.live with ⟨typeNumber, content, -, live⟩
  exact ⟨_, Engine.content?_of_slot? entered.numbered live⟩

/-- A pointer to a boxed value can be read as one. -/
theorem Passes.canRead {takesExtras : Bool} {form : CrossingForm} {value : Value}
    {pointer : Pointer} (passes : start.Passes entered takesExtras form value pointer)
    (boxed : takesExtras = true ∨ form = .boxed) (room : entered.engine.HasRoom 1)
    (read : ReadForm) : Native.CanRead entered.engine read pointer := by
  cases passes with
  | inBox holds | boxed holds => exact canRead_of_holdsBox holds read
  | @owner reference payload content live held still =>
      rintro - _ ⟨⟩
      refine ⟨content, ?_⟩
      have word : Number.IsSignedWord payload.slot := by
        have next := room.isSignedWord entered.numbered
        by_cases zero : payload.slot = 0
        · rw [zero]
          exact ⟨by decide, by decide⟩
        · rw [Engine.content?, if_neg zero] at still
          have bounds := entered.numbered.lt_of_slot? still
          unfold Number.IsSignedWord at next ⊢
          omega
      rw [Payload.ofBytes_slot word, still]
  | _ => rcases boxed with boxed | boxed <;> cases boxed

end Attached

namespace Crossing

/-- What crosses at a place of a call: a declared argument, or an extra one behind them. -/
theorem getElem?_ofCall {steps : List ArgumentStep} {declared extras : List Value}
    (counted : declared.length = steps.length) {index : Nat} {crossing : Crossing name}
    (found : (ofCall name steps declared extras)[index]? = some crossing) :
    (∃ step value, steps[index]? = some step ∧ declared[index]? = some value ∧
      crossing = argument name step value) ∨
    (steps.length ≤ index ∧ ∃ value, extras[index - steps.length]? = some value ∧
      crossing = extra name value) := by
  unfold ofCall at found
  have width : (List.zipWith (argument name) steps declared).length = steps.length := by
    rw [List.length_zipWith, counted, Nat.min_self]
  by_cases within : index < steps.length
  · rw [List.getElem?_append_left (by omega), List.getElem?_zipWith] at found
    cases stepFound : steps[index]? with
    | none => simp [stepFound] at found
    | some step =>
        cases valueFound : declared[index]? with
        | none => simp [stepFound, valueFound] at found
        | some value =>
            simp only [stepFound, valueFound, Option.some.injEq] at found
            exact .inl ⟨step, value, rfl, rfl, found.symm⟩
  · rw [List.getElem?_append_right (by omega), width, List.getElem?_map] at found
    rcases Option.map_eq_some_iff.mp found with ⟨value, placed, same⟩
    exact .inr ⟨by omega, value, placed, same.symm⟩

theorem length_ofCall {steps : List ArgumentStep} {declared : List Value}
    (counted : declared.length = steps.length) (extras : List Value) :
    (ofCall name steps declared extras).length = declared.length + extras.length := by
  unfold ofCall
  rw [List.length_append, List.length_zipWith, List.length_map, counted, Nat.min_self]

end Crossing

namespace MethodDescriptor

/-- How a bound method is called in the engine. -/
def strategy (descriptor : MethodDescriptor) : CallStrategy :=
  if descriptor.isVararg then .variantArrayCall else .directPointerCall

end MethodDescriptor

namespace NativeScript

/-- Whether a callable reads its arguments as they are declared: all of them as boxed values if it
takes extra ones, and otherwise only those that are declared as boxed values. -/
structure ReadsDeclared (script : NativeScript) (classes : List String)
    (descriptor : MethodDescriptor) (asVariants : Bool) : Prop where
  boxed : asVariants = descriptor.isVararg
  typed : descriptor.isVararg = false → ∀ (index : Nat) (argument : Argument),
    script.reads[index]? = some .variant → descriptor.arguments[index]? = some argument →
      crossingForm classes argument.typeName = .boxed

end NativeScript

namespace Bridge

/-- How a call enters its callable: everything it was made with stands at the given pointers. -/
structure Enters (classes : List String) (descriptor : MethodDescriptor) (dispatcher : Dispatcher)
    (plan : MarshalingPlan) (arguments : CallArguments) (script : NativeScript)
    (start entered : Attached name) (entrance : Entrance) (scratch : List Resource) : Prop where
  /-- What follows is one invocation, the decoding of its result and the releases. -/
  ran : runFrom (call dispatcher plan arguments) start.session =
    runFrom (unwinding scratch (finish dispatcher plan entrance)) entered.session
  /-- What was made for the call is live at the same time, next to what was live before. -/
  leaves : start.engine.Leaves entered.engine scratch
    (2 * (arguments.declared.length + arguments.extra.length))
  /-- The object is handed over by its handle. -/
  receiver : ∃ handle, plan.receiverHandle arguments.receiver = .ok handle ∧
    entrance.receiver = entered.session.document handle
  counted : plan.pointerCount arguments.extra.length = .ok entrance.pointers.length
  declared : ∀ (index : Nat) (argument : Argument) (value : Value) (pointer : Pointer),
    descriptor.arguments[index]? = some argument → arguments.declared[index]? = some value →
    entrance.pointers[index]? = some pointer →
      start.Passes entered descriptor.isVararg (crossingForm classes argument.typeName) value
        pointer
  extra : ∀ (index : Nat) (value : Value) (pointer : Pointer),
    arguments.extra[index]? = some value →
    entrance.pointers[plan.declaredCount + index]? = some pointer →
      ∃ bytes, pointer = .address bytes ∧ start.HoldsBox entered value bytes
  /-- Of all that the call does only the invocation enters a callable. -/
  calls : ∃ landing, (runFrom (call dispatcher plan arguments) start.session).2.callsOf name =
    some (start.engine.calls ++ entrance.callable.entries descriptor.strategy entrance.receiver
      entrance.pointers landing script entered.engine)
  /-- A callable that reads its arguments as they are declared is entered exactly once. -/
  once : script.ReadsDeclared classes descriptor
      (entrance.callable.readsBoxed descriptor.strategy) →
    ∃ seen, seen.pointerCount = entrance.pointers.length ∧
      (runFrom (call dispatcher plan arguments) start.session).2.callsOf name =
        some (start.engine.calls ++
          [entrance.callable.entry descriptor.strategy entrance.receiver entrance.pointers seen])

section

variable {classes : List String} {policy : BindingPolicy} {descriptor : MethodDescriptor}
  {className : Document} {kind : MethodKind} {plan : MarshalingPlan} {dispatcher : Dispatcher}
  {arguments : CallArguments} {start place : Attached name} {target : CallTarget}
  {callable : Callable}

private theorem finds_of_wellFormed (dispatcher : Dispatcher)
    (counted : arguments.declared.length = plan.arguments.length)
    (taken : plan.takesExtras = false → arguments.extra = [])
    (targeted : CallTarget.ofPlan plan = .ok target)
    (resolved : start.resolved dispatcher.cache target = .ok callable)
    (present : plan.HasReceiver arguments.receiver) :
    ∃ handle, plan.receiverHandle arguments.receiver = .ok handle ∧
      start.finds dispatcher plan arguments = .ok (target, callable, handle) := by
  rcases MarshalingPlan.exists_receiverHandle present with ⟨handle, received⟩
  have checked : plan.checkArguments arguments = .ok () := by
    unfold MarshalingPlan.checkArguments
    rw [if_neg (by simp [counted, MarshalingPlan.declaredCount]), if_neg]
    cases takes : plan.takesExtras with
    | true => simp
    | false => simp [taken takes]
  refine ⟨handle, received, ?_⟩
  unfold Attached.finds
  rw [checked]
  simp only [bind, Except.bind, targeted, resolved, received]
  rfl

/-- What a pointer at a place has to lead to. -/
private def Suits (classes : List String) (descriptor : MethodDescriptor) (plan : MarshalingPlan)
    (arguments : CallArguments) (start : Attached name) (index : Nat) (entered : Attached name)
    (pointer : Pointer) : Prop :=
  (∀ argument value, descriptor.arguments[index]? = some argument →
    arguments.declared[index]? = some value → start.Passes entered descriptor.isVararg
      (crossingForm classes argument.typeName) value pointer) ∧
  (∀ value, plan.declaredCount ≤ index → arguments.extra[index - plan.declaredCount]? = some value →
    ∃ bytes, pointer = .address bytes ∧ start.HoldsBox entered value bytes)

private theorem exists_certain {numbers : Nat}
    (compiles : (PlanCompiler.mk (.bundled classes) policy).Compiles (.ofDescriptor descriptor)
      className kind plan)
    (primitive : ∀ typeName ∈ ["bool", "int", "float"], typeName ∉ classes)
    (counted : arguments.declared.length = plan.arguments.length)
    (typed : ∀ (index : Nat) (argument : Argument) (value : Value),
      descriptor.arguments[index]? = some argument → arguments.declared[index]? = some value →
        start.WellTyped descriptor.isVararg (crossingForm classes argument.typeName) value)
    (boxable : ∀ value ∈ arguments.extra, ∃ typeNumber content,
      start.Boxable value typeNumber content)
    (room : start.engine.HasRoom (numbers + 1)) {index : Nat} {crossing : Crossing name}
    (found : (Crossing.ofCall name plan.arguments arguments.declared arguments.extra)[index]? =
      some crossing) :
    ∃ stored, crossing.Certain start numbers
      (Suits classes descriptor plan arguments start index) stored := by
  rcases compiles.steps with ⟨length, steps⟩
  rcases Crossing.getElem?_ofCall counted found with
    ⟨step, value, stepFound, valueFound, rfl⟩ | ⟨behind, value, valueFound, rfl⟩
  · rcases steps index step stepFound with ⟨argument, argumentFound, stepped⟩
    have within : index < plan.arguments.length := (List.getElem?_eq_some_iff.mp stepFound).1
    rcases Crossing.certain_argument primitive stepped (typed index argument value argumentFound
        valueFound) room with ⟨stored, certain⟩
    refine ⟨stored, certain.mono fun entered pointer passes => ⟨?_, ?_⟩⟩
    · intro other given otherFound givenFound
      cases argumentFound.symm.trans otherFound
      cases valueFound.symm.trans givenFound
      exact passes
    · intro other beyond _
      exact absurd within (Nat.not_lt.mpr beyond)
  · rcases boxable value (List.mem_of_getElem? valueFound) with ⟨typeNumber, content, boxes⟩
    refine ⟨_, (Crossing.certain_extra boxes room).mono fun entered pointer holds => ⟨?_, ?_⟩⟩
    · intro argument given argumentFound _
      have within := (List.getElem?_eq_some_iff.mp argumentFound).1
      omega
    · intro other _ otherFound
      cases valueFound.symm.trans otherFound
      exact holds

/-- Where all pointers lead to what was declared, a callable can read what it reads. -/
private theorem canRead_of_readsDeclared {entered : Attached name} {script : NativeScript}
    {asVariants : Bool} {pointers : List Pointer}
    (reads : script.ReadsDeclared classes descriptor asVariants)
    (room : entered.engine.HasRoom 1)
    (counted : arguments.declared.length = descriptor.arguments.length)
    (length : pointers.length = arguments.declared.length + arguments.extra.length)
    (planned : plan.declaredCount = descriptor.arguments.length)
    (suited : ∀ (index : Nat) (pointer : Pointer), pointers[index]? = some pointer →
      Suits classes descriptor plan arguments start index entered pointer)
    {index : Nat} {form : ReadForm} {pointer : Pointer}
    (formFound : (Native.readForms script asVariants pointers)[index]? = some form)
    (found : pointers[index]? = some pointer) : Native.CanRead entered.engine form pointer := by
  intro boxedForm bytes address
  have within : index < pointers.length := (List.getElem?_eq_some_iff.mp found).1
  rcases suited index pointer found with ⟨declaredSuits, extraSuits⟩
  by_cases isDeclared : index < descriptor.arguments.length
  · obtain ⟨argument, argumentFound⟩ : ∃ argument, descriptor.arguments[index]? = some argument :=
      ⟨_, List.getElem?_eq_getElem isDeclared⟩
    obtain ⟨value, valueFound⟩ : ∃ value, arguments.declared[index]? = some value :=
      ⟨_, List.getElem?_eq_getElem (counted ▸ isDeclared)⟩
    have passes := declaredSuits argument value argumentFound valueFound
    have boxed : descriptor.isVararg = true ∨ crossingForm classes argument.typeName = .boxed := by
      cases takes : descriptor.isVararg with
      | true => exact .inl rfl
      | false =>
          have direct : asVariants = false := reads.boxed.trans takes
          rw [Native.readForms, if_neg (by simp [direct]), boxedForm] at formFound
          exact .inr (reads.typed takes index argument formFound argumentFound)
    exact passes.canRead boxed room form boxedForm bytes address
  · have behind : plan.declaredCount ≤ index := by omega
    obtain ⟨value, valueFound⟩ :
        ∃ value, arguments.extra[index - plan.declaredCount]? = some value :=
      ⟨_, List.getElem?_eq_getElem (by omega)⟩
    rcases extraSuits value behind valueFound with ⟨held, same, holds⟩
    subst same
    exact Attached.canRead_of_holdsBox holds form boxedForm bytes address

private theorem entries_of_readsDeclared {entered : Attached name} {entrance : Entrance}
    {script : NativeScript} (landing : Landing)
    (can : ∀ (index : Nat) (form : ReadForm) (pointer : Pointer),
      (Native.readForms script (entrance.callable.readsBoxed descriptor.strategy)
        entrance.pointers)[index]? = some form → entrance.pointers[index]? = some pointer →
          Native.CanRead entered.engine form pointer) :
    ∃ seen, seen.pointerCount = entrance.pointers.length ∧
      entrance.callable.entries descriptor.strategy entrance.receiver entrance.pointers landing
        script entered.engine =
      [entrance.callable.entry descriptor.strategy entrance.receiver entrance.pointers seen] := by
  rcases Native.view_of_canRead can landing with ⟨seen, count, viewed⟩
  refine ⟨seen, count, ?_⟩
  unfold Callable.entries
  rw [viewed]

/-- A call of a bound plan whose arguments are well typed enters its callable once, with a pointer
for each argument in order, and each pointer leads to what its declared type says. -/
theorem call_enters {script : NativeScript}
    (compiled : ((PlanCompiler.mk (.bundled classes) policy).compile (.ofDescriptor descriptor)
      className kind).outcome = .ok plan)
    (primitive : ∀ typeName ∈ ["bool", "int", "float"], typeName ∉ classes)
    (bound : plan.bindingState = .bound)
    (counted : arguments.declared.length = plan.declaredCount)
    (typed : ∀ (index : Nat) (argument : Argument) (value : Value),
      descriptor.arguments[index]? = some argument → arguments.declared[index]? = some value →
        start.WellTyped descriptor.isVararg (crossingForm classes argument.typeName) value)
    (boxable : ∀ value ∈ arguments.extra, ∃ typeNumber content,
      start.Boxable value typeNumber content)
    (taken : descriptor.isVararg = false → arguments.extra = [])
    (targeted : CallTarget.ofPlan plan = .ok target)
    (resolved : start.resolved dispatcher.cache target = .ok callable)
    (own : callable.IsOf name) (registered : callable.script? start.engine = some script)
    (present : plan.HasReceiver arguments.receiver)
    (room : start.engine.HasRoom
      (2 * (arguments.declared.length + arguments.extra.length) + 1)) :
    ∃ entered entrance scratch, entrance.target = target ∧ entrance.callable = callable ∧
      Enters classes descriptor dispatcher plan arguments script start entered entrance
        scratch := by
  have compiles := PlanCompiler.compiles_of_compile compiled
  have planned : plan.declaredCount = descriptor.arguments.length :=
    compiles.steps.1
  have takes : plan.takesExtras = descriptor.isVararg := by
    rw [MarshalingPlan.takesExtras, compiles.isVararg]
    rfl
  have strategy : plan.callStrategy.getD .directPointerCall = descriptor.strategy := by
    rw [compiles.strategy, bound]
    rfl
  rcases finds_of_wellFormed dispatcher counted (fun none => taken (takes ▸ none)) targeted resolved
      present with ⟨handle, received, finds⟩
  rcases find_yields start dispatcher plan arguments with ⟨place, search⟩
  rw [finds] at search
  have width := @Crossing.length_ofCall name _ _ counted arguments.extra
  obtain ⟨operands, entered, scratch, pointers, crossed, handed, length, suited⟩ :=
    Crossing.all_passes ⟨⟨[], search.leaves⟩, search.keeps⟩
      (Suits classes descriptor plan arguments start) fun index crossing found =>
        exists_certain compiles primitive counted typed boxable (by rw [width]; exact room) found
  rw [width] at crossed length
  let entrance : Entrance := ⟨target, callable, entered.session.document handle, pointers⟩
  have prepares : Prepares (prepared dispatcher plan arguments) start entrance entered scratch _ :=
    prepared_of_crossed search crossed handed
  have ran : runFrom (call dispatcher plan arguments) start.session =
      runFrom (unwinding scratch (finish dispatcher plan entrance)) entered.session := by
    rw [call_of_bound (MarshalingPlan.isVirtual_of_bound bound)]
    exact prepares.ran _ (finish dispatcher plan)
  rcases ReturnStep.exists_landing primitive compiles.returned with ⟨landing, opened⟩
  rw [← Callable.script?_of_leaves prepares.leaves] at registered
  have calls := callsOf_finish dispatcher entrance opened own registered
  rw [strategy, prepares.quiet.calls, ← callsOf_unwinding scratch, ← ran] at calls
  refine ⟨entered, entrance, scratch, rfl, rfl, ran, prepares.leaves,
    ⟨handle, received, rfl⟩, ?_, ?_, ?_, ⟨landing, calls⟩, fun reads => ?_⟩
  · rw [MarshalingPlan.pointerCount_of_taken fun none => taken (takes ▸ none)]
    change Except.ok _ = Except.ok (pointers.length : Int)
    rw [length, counted, Int.natCast_add]
  · intro index argument value pointer argumentFound valueFound found
    exact (suited index pointer found).1 argument value argumentFound valueFound
  · intro index value pointer valueFound found
    refine (suited _ pointer found).2 value (Nat.le_add_right _ index) ?_
    rw [Nat.add_sub_cancel_left]
    exact valueFound
  · obtain ⟨seen, count, single⟩ := entries_of_readsDeclared landing
      fun index form pointer formFound found =>
        canRead_of_readsDeclared reads (prepares.leaves.hasRoom room) (counted.trans planned) length
          planned suited formFound found
    exact ⟨seen, count, single ▸ calls⟩

end

/-! A method of one argument for each way of storing one, but for a handle. -/

namespace Mixing

def descriptor : MethodDescriptor where
  name := "mix"
  arguments := [⟨"flag", "bool", none, none⟩, ⟨"count", "int", some "int32", none⟩,
    ⟨"title", "String", none, none⟩, ⟨"value", "Variant", none, none⟩]
  returnValue := none
  isStatic := false
  isVirtual := false
  isVararg := false
  isConst := false
  abiHash := some (.int 7)

def arguments : CallArguments :=
  ⟨.int 5, [.bool true, .int (-3), .text "why", .nothing], []⟩

def script : NativeScript where
  reads := [.bool, .int, .string, .variant]
  writes := []
  isVararg := false
  failure := none
  error := .ok

def place : Attached "engine" :=
  .ofMethod "engine" (.text "Mixer", .text "mix", .integer 7) script

theorem exists_plan : ∃ plan, ((PlanCompiler.mk (.bundled []) .none).compile
    (.ofDescriptor descriptor) (.text "Mixer") .classMethod).outcome = .ok plan :=
  exists_of_isOk (by decide +kernel)

theorem wellTyped (index : Nat) (argument : Argument) (value : Value)
    (argumentFound : descriptor.arguments[index]? = some argument)
    (valueFound : arguments.declared[index]? = some value) :
    place.WellTyped false (crossingForm [] argument.typeName) value := by
  rcases index with _ | _ | _ | _ | index
  · cases argumentFound
    cases valueFound
    rw [show crossingForm [] "bool" = .truth by decide +kernel]
    exact .truth _
  · cases argumentFound
    cases valueFound
    rw [show crossingForm [] "int" = .word by decide +kernel]
    exact .word rfl ⟨by decide, by decide⟩
  · cases argumentFound
    cases valueFound
    rw [show crossingForm [] "String" = .text by decide +kernel]
    exact .text (.text "why")
  · cases argumentFound
    cases valueFound
    rw [show crossingForm [] "Variant" = .boxed by decide +kernel]
    exact .boxed .nothing
  · cases argumentFound

end Mixing

theorem call_enters_of_mixing : ∃ plan, ((PlanCompiler.mk (.bundled []) .none).compile
    (.ofDescriptor Mixing.descriptor) (.text "Mixer") .classMethod).outcome = .ok plan ∧
      ∃ entered entrance scratch,
        entrance.target = .method (.text "Mixer") (.text "mix") (.int 7) ∧
        entrance.callable = .bind Engine.firstBind ∧
        Enters [] Mixing.descriptor .default plan Mixing.arguments Mixing.script Mixing.place
          entered entrance scratch := by
  rcases Mixing.exists_plan with ⟨plan, compiled⟩
  have compiles := PlanCompiler.compiles_of_compile compiled
  have targeted : CallTarget.ofPlan plan =
      .ok (.method (.text "Mixer") (.text "mix") (.int 7)) := by
    unfold CallTarget.ofPlan
    rw [compiles.abiHash, compiles.kind, compiles.className, compiles.methodName]
    rfl
  have bound : Except.ok BindingState.bound = Except.ok plan.bindingState := compiles.state
  have counted : Mixing.arguments.declared.length = plan.declaredCount :=
    compiles.steps.1.symm
  refine ⟨plan, compiled, ?_⟩
  exact call_enters compiled (by decide) (Except.ok.inj bound).symm counted Mixing.wellTyped nofun
    (fun _ => rfl) targeted rfl trivial rfl (.inr (.inr (.inl rfl))) (by decide)

end Bridge

end EngineBridge
