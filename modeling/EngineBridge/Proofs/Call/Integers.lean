import EngineBridge.Proofs.Call.Agreement
import EngineBridge.Proofs.Call.Pointers
import EngineBridge.Proofs.Session.RoundTrip

/-!
Integers of any size at the boundary.

An integer crosses in a word, whether it is boxed, passed where an integer is declared, or passed as
a member of an enumeration. What the engine observes is the signed word that it wraps to, which is
also what comes back; this is the integer itself exactly if that is a signed word. Nothing refuses an
integer for its size.
-/

namespace EngineBridge

open Bridge

variable {name : String}

namespace Value

/-- The values that are an integer: the integer itself, and a member of an enumeration that is its
number. -/
inductive IsInteger (number : Int) : Value → Prop
  | int : IsInteger number (.int number)
  | enumerator (enumeration member : String) :
      IsInteger number (.enumerator enumeration member number)

/-- The values that are passed for an integer: an integer where one is declared, and where members of
an enumeration are, an integer or a member that has it as its number. -/
inductive StandsFor (number : Int) : TypeClass → Value → Prop
  | int (metadata : Document) {value : Value} (given : value.IsInteger number) :
      StandsFor number (.primitive "int" metadata) value
  | member (base : String) (isBitfield : Bool) {value : Value}
      (given : value.ordinal.IsInteger number) :
      StandsFor number (.enumeration base isBitfield) value

variable {number : Int} {value : Value}

theorem IsInteger.integer? (given : value.IsInteger number) : value.integer? = some number := by
  cases given <;> rfl

theorem IsInteger.typedAs (given : value.IsInteger number) (place : Attached name) :
    place.TypedAs value .int (.int (Number.wrapSigned number)) := by
  cases given <;> constructor

end Value

namespace Attached

/-- Boxing an integer fails only for want of a routine for its type. -/
theorem boxed_of_isInteger {number : Int} {value : Value} (given : value.IsInteger number)
    (place : Attached name) :
    place.boxed value =
      if place.engine.missing.contains (GType.int.number : Int)
        then .error (.invariant (.noFromType GType.int.name))
        else .ok (GType.int.number, .int (Number.wrapSigned number)) := by
  have routine := @Engine.fromRoutine_number place.engine name .int (by decide) (by decide)
  cases given <;>
  · change (do
      let routine ← place.functionTables.fromRoutine GType.int.number
      return (_, Native.readTyped place.engine routine.gtype (Number.wordBytes number)) :
        Except Failure (Int × Held)) = _
    rw [functionTables, routine]
    split
    · rfl
    · change Except.ok (_, Held.int (Number.signedWordAt (Number.wordBytes number) 0)) = _
      rw [Number.signedWordAt_wordBytes]

variable {place : Attached name} {number : Int} {value : Value}

/-- An integer that is boxed gets an owner that holds the word it wraps to. -/
theorem newVariant_of_isInteger (given : value.IsInteger number)
    (present : place.engine.missing.contains (GType.int.number : Int) = false)
    (room : place.engine.HasRoom 2) :
    ∃ (reference : Nat) (after : Attached name),
      runFrom (newVariant value) place.session = (.ok reference, after.session) ∧
      after.engine.missing = place.engine.missing ∧
      after.Holds reference ((GType.int.number : Int), .int (Number.wrapSigned number)) := by
  obtain ⟨reference, after, made, grows, holds⟩ :=
    newVariant_holds (.typed present (given.typedAs place)) room
  exact ⟨reference, after, made, grows.missing, holds⟩

theorem newVariant_of_missing (given : value.IsInteger number)
    (absent : place.engine.missing.contains (GType.int.number : Int) = true) :
    (runFrom (newVariant value) place.session).1 =
      .error (.invariant (.noFromType GType.int.name)) := by
  have boxes := box_boxes place value
  rw [boxed_of_isInteger given, if_pos absent] at boxes
  cases boxes with
  | error yields => exact congrArg Prod.fst (runFrom_bind_of_error yields.ran _)

/-- The owner of a boxed word is read as this word. -/
theorem gives_readInt_of_holds {reference : Nat}
    (present : place.engine.missing.contains (GType.int.number : Int) = false)
    (word : Number.IsSignedWord number)
    (holds : place.Holds reference ((GType.int.number : Int), .int number)) :
    place.Gives (readInt (livePayload reference)) (some number) := by
  obtain ⟨payload, live, held⟩ := holds
  have written : ∀ engine, runFrom (Native.writeTyped .int (.int number)) engine =
      (.ok (Number.wordBytes number), engine) := fun _ => rfl
  obtain ⟨after, read⟩ := readAs_of_written (fun bytes => Number.signedWordAt bytes 0)
    isPlainType_int present (addresses_livePayload live) held written
  have given := gives_of_yields read
  simp only [Number.signedWordAt_wordBytes,
    Number.wrapSigned_of_isSignedWord word] at given
  exact given

end Attached

/-! What a callable sees of its arguments. -/

namespace Native

variable {engine : Engine}

theorem seen_of_readArguments {forms : List ReadForm} {pointers : List Pointer} {items : List Seen}
    (read : (runFrom (readArguments forms pointers) engine).1 = .ok items) {index : Nat}
    {form : ReadForm} {pointer : Pointer} {item : Seen} (asked : forms[index]? = some form)
    (stands : pointers[index]? = some pointer)
    (given : (runFrom (readArgument form pointer) engine).1 = .ok item) :
    items[index]? = some item := by
  induction forms generalizing pointers items index with
  | nil => cases asked
  | cons first forms induction =>
      cases pointers with
      | nil => cases stands
      | cons lead pointers =>
          unfold readArguments at read
          obtain ⟨here, ran⟩ := readArgument_unchanged first lead engine
          cases here with
          | error failure =>
              rw [runFrom_bind_of_error ran] at read
              cases read
          | ok own =>
              rw [runFrom_bind_of_ok ran] at read
              rcases rest : runFrom (readArguments forms pointers) engine with ⟨outcome, after⟩
              cases outcome with
              | error failure =>
                  rw [runFrom_bind_of_error rest] at read
                  cases read
              | ok others =>
                  rw [runFrom_bind_of_ok rest] at read
                  cases read
                  cases index with
                  | zero =>
                      cases asked
                      cases stands
                      rw [ran] at given
                      cases given
                      rfl
                  | succ index => exact induction (congrArg Prod.fst rest) asked stands

theorem seen_of_view {script : NativeScript} {asVariants : Bool} {pointers : List Pointer}
    {landing : Landing} {view : CallView}
    (viewed : (runFrom (Native.view script asVariants pointers landing) engine).1 = .ok view)
    {index : Nat} {form : ReadForm} {pointer : Pointer} {item : Seen}
    (asked : (readForms script asVariants pointers)[index]? = some form)
    (stands : pointers[index]? = some pointer)
    (given : (runFrom (readArgument form pointer) engine).1 = .ok item) :
    view.seen[index]? = some item := by
  unfold Native.view at viewed
  rcases read : runFrom (readArguments (readForms script asVariants pointers) pointers) engine
    with ⟨outcome, after⟩
  cases outcome with
  | error failure =>
      rw [runFrom_bind_of_error read] at viewed
      cases viewed
  | ok items =>
      rw [runFrom_bind_of_ok read] at viewed
      cases viewed
      exact seen_of_readArguments (congrArg Prod.fst read) asked stands given

end Native

/-! Integers in the arguments of calls. -/

namespace Attached

/-- An integer is stored in the bytes of its word where typed pointers are passed, and in a box of
its own where boxed values are. -/
theorem stored_of_standsFor {compiler : PlanCompiler} {draft : MethodDraft} {className : Document}
    {kind : MethodKind} {plan : MarshalingPlan}
    (compiles : compiler.Compiles draft className kind plan) {index : Nat} {step : ArgumentStep}
    (stands : plan.arguments[index]? = some step) {number : Int} {value : Value}
    (given : value.StandsFor number step.typeClass) (place : Attached name) :
    if plan.takesExtras then ∃ passed : Value, passed.IsInteger number ∧
      place.stored step value = place.inBox passed
    else place.stored step value = .ok (.bytes (Number.wordBytes number)) := by
  have same : plan.takesExtras = draft.takesExtras := by
    rw [MarshalingPlan.takesExtras, compiles.isVararg]
    rfl
  obtain ⟨argument, -, stepped⟩ := (exists_of_mapM_eq_ok compiles.arguments).2 index step stands
  obtain ⟨typeName, reference, -, rfl⟩ := PlanCompiler.step_of_stepOf stepped
  rw [PlanCompiler.typeClass_argumentStep] at given
  rw [same]
  generalize classified : compiler.classifier.classify typeName argument.metadata = typeClass
    at given ⊢
  cases given with
  | int metadata given =>
      cases TypeClassifier.eq_of_classify_primitive classified
      have crosses : CrossesAs "int" (.primitive "int" metadata) .word :=
        .word (by decide) (by decide) (by decide)
      cases draft.takesExtras with
      | true => exact ⟨value, given, stored_inBox crosses _ reference value place⟩
      | false => exact stored_word crosses _ reference given.integer? place
  | member base isBitfield given =>
      have crosses : CrossesAs typeName (.enumeration base isBitfield) .ordinal :=
        .ordinal (TypeClassifier.ne_stringType_of_classify_enumeration classified)
      cases draft.takesExtras with
      | true => exact ⟨value.ordinal, given, stored_inBox crosses _ reference value place⟩
      | false => exact stored_ordinal crosses _ reference given.integer? place

end Attached

namespace Bridge

/-- The form in which an integer is read by a callable. -/
def integerForm (takesExtras : Bool) : ReadForm :=
  if takesExtras then .variant else .int

/-- What is seen of an integer that is read in its form. -/
def integerSeen (takesExtras : Bool) (number : Int) : Seen :=
  if takesExtras then .variant GType.int.number (.int number) else .held (.int number)

/-- How an integer in an argument arrives: the call ends without entering its callable, or whatever
is entered and reads the argument in its form sees a number. -/
inductive Arrives (start : Attached name) (dispatcher : Dispatcher) (plan : MarshalingPlan)
    (arguments : CallArguments) (index : Nat) (number : Int) : Prop
  | refused {failure : Failure} {after : Attached name}
      (ran : runFrom (call dispatcher plan arguments) start.session =
        (.error failure, after.session))
      (calls : after.engine.calls = start.engine.calls)
  | entered {entrance : Entrance} {entered : Attached name} {scratch : List Resource}
      (ran : runFrom (call dispatcher plan arguments) start.session =
        runFrom (unwinding scratch (finish dispatcher plan entrance)) entered.session)
      (calls : entered.engine.calls = start.engine.calls)
      (seen : ∀ (script : NativeScript) (asVariants : Bool) (landing : Landing) (view : CallView),
        (Native.readForms script asVariants entrance.pointers)[index]? =
          some (integerForm plan.takesExtras) →
        (runFrom (Native.view script asVariants entrance.pointers landing) entered.engine).1 =
          .ok view →
        view.seen[index]? = some (integerSeen plan.takesExtras number))

section

variable {start entered : Attached name} {dispatcher : Dispatcher} {plan : MarshalingPlan}
  {arguments : CallArguments} {index : Nat} {step : ArgumentStep} {value : Value} {number : Int}

theorem getElem?_ofCall_declared (stands : plan.arguments[index]? = some step)
    (passed : arguments.declared[index]? = some value) :
    (Crossing.ofCall name plan.arguments arguments.declared arguments.extra)[index]? =
      some (Crossing.argument name step value) := by
  have zipped : (List.zipWith (Crossing.argument name) plan.arguments arguments.declared)[index]? =
      some (Crossing.argument name step value) := by
    rw [List.getElem?_zipWith, stands, passed]
  rw [Crossing.ofCall, List.getElem?_append_left (List.getElem?_eq_some_iff.mp zipped).1, zipped]

/-- The pointers stand in the order of the operands. -/
theorem pointer_of_getElem? {operands : List Operand} {pointers : List Pointer}
    (handed : Operand.pointers operands = .ok pointers) {operand : Operand}
    (stands : operands[index]? = some operand) :
    ∃ pointer, pointers[index]? = some pointer ∧ operand.pointer = .ok pointer := by
  obtain ⟨length, each⟩ := exists_of_mapM_eq_ok handed
  have bounded : index < pointers.length := by
    rw [length]
    exact (List.getElem?_eq_some_iff.mp stands).1
  obtain ⟨other, found, pointed⟩ := each index _ (List.getElem?_eq_getElem bounded)
  cases stands.symm.trans found
  exact ⟨_, List.getElem?_eq_getElem bounded, pointed⟩

/-- A pointer to a word is read as the number that the word holds. -/
theorem readArgument_of_word (number : Int) (engine : Engine) :
    (runFrom (Native.readArgument .int (.address (Number.wordBytes number))) engine).1 =
      .ok (.held (.int (Number.wrapSigned number))) := by
  rw [← Number.signedWordAt_wordBytes]
  rfl

/-- A pointer to a box that is live is read as what the box holds. -/
theorem readArgument_of_box {typeNumber slot : Int} {content : Held}
    (room : entered.engine.HasRoom 1) (has : entered.Has (.slot slot typeNumber content)) :
    (runFrom (Native.readArgument .variant (.address (Payload.mk typeNumber slot 0).bytes))
      entered.engine).1 = .ok (.variant typeNumber content) := by
  have word : Number.IsSignedWord slot := Attached.isSignedWord_of_has room has
  have held : entered.engine.content? (Payload.ofBytes (Payload.mk typeNumber slot 0).bytes).slot =
      some (typeNumber, content) := by
    rw [Payload.ofBytes_slot word]
    exact Engine.content?_of_slot? entered.numbered has
  exact congrArg Prod.fst (runFrom_bind_of_ok (Native.load_of_content held) _)

/-- A box that was stored for an integer holds the word that it wraps to. -/
theorem eq_boxed_of_inBox {place : Attached name} (given : value.IsInteger number) {stored : Stored}
    (boxed : place.inBox value = .ok stored) :
    stored = .boxed GType.int.number (.int (Number.wrapSigned number)) := by
  obtain ⟨content, held, made⟩ := exists_of_bind_eq_ok boxed
  rw [Attached.boxed_of_isInteger given] at held
  split at held
  · cases held
  · cases held
    cases made
    rfl

/-- An integer that is passed arrives as the word that it wraps to. -/
theorem arrives {compiler : PlanCompiler} {draft : MethodDraft} {className : Document}
    {kind : MethodKind} (compiled : (compiler.compile draft className kind).outcome = .ok plan)
    (bound : plan.isVirtual = false) (start : Attached name) (dispatcher : Dispatcher)
    (room : start.engine.HasRoom (2 * (arguments.declared.length + arguments.extra.length) + 1))
    (stands : plan.arguments[index]? = some step)
    (passed : arguments.declared[index]? = some value)
    (given : value.StandsFor number step.typeClass) :
    Arrives start dispatcher plan arguments index (Number.wrapSigned number) := by
  have whole := call_of_bound bound dispatcher arguments
  have refused : ∀ {failure : Failure} {after : Attached name} {numbers : Nat},
      Declines (prepared dispatcher plan arguments) start failure after numbers →
        Arrives start dispatcher plan arguments index (Number.wrapSigned number) :=
    fun declines => .refused (by rw [whole, declines.ran]) declines.quiet.calls
  rcases course start dispatcher plan arguments with
    @⟨failure, place, finds, search⟩ | ⟨finds, search, stops⟩ |
    ⟨finds, search, marshals, unpassed⟩ |
    @⟨found, place, entered, operands, scratch, pointers, finds, search, marshals, handed⟩
  · exact refused (declines_of_unfound search : Declines _ start _ place 0)
  · obtain ⟨last, declines⟩ := declines_of_stops search stops
    exact refused declines
  · obtain ⟨last, declines⟩ := declines_of_unpassed search marshals.prepares unpassed
    exact refused declines
  · have prepares := prepared_of_crossed search marshals.prepares handed
    obtain ⟨there, stored, slot, storing, operand, listed⟩ :=
      marshals.of_getElem? (getElem?_ofCall_declared stands passed)
    obtain ⟨pointer, placed, pointed⟩ := pointer_of_getElem? handed operand
    refine .entered (by rw [whole, prepares.ran]) prepares.quiet.calls
      fun script asVariants landing view asked viewed => ?_
    refine Native.seen_of_view viewed asked placed ?_
    change there.stored step value = .ok stored at storing
    have stores := Attached.stored_of_standsFor (PlanCompiler.compiles_of_compile compiled) stands
      given there
    cases takes : plan.takesExtras with
    | false =>
        rw [takes, if_neg nofun, storing] at stores
        cases stores
        cases pointed
        exact readArgument_of_word number entered.engine
    | true =>
        rw [takes, if_pos rfl] at stores
        obtain ⟨boxed, isInteger, boxing⟩ := stores
        rw [boxing] at storing
        cases eq_boxed_of_inBox isInteger storing
        cases pointed
        have has := Attached.has_of_leaves marshals.prepares.leaves
          (listed _ (List.mem_singleton_self _))
        have fits : 2 * (Crossing.ofCall name plan.arguments arguments.declared
            arguments.extra).length + 1 ≤
              2 * (arguments.declared.length + arguments.extra.length) + 1 := by
          have bound := @length_ofCall_le name plan.arguments arguments.declared arguments.extra
          omega
        exact readArgument_of_box (prepares.leaves.hasRoom (room.weaken fits)) has

end

theorem classify_int {classes : List String} (primitive : "int" ∉ classes) (metadata : Document) :
    (TypeClassifier.bundled classes).classify "int" metadata = .primitive "int" metadata := by
  have crosses : ∀ lead ∈ [TypeClassifier.enumLead, TypeClassifier.bitfieldLead,
      TypeClassifier.typedArrayLead], Text.after? lead "int" = none := by decide +kernel
  unfold TypeClassifier.classify TypeClassifier.classifyPlain
  rw [crosses _ (by simp), crosses _ (by simp), crosses _ (by simp)]
  have notClass : "int" ∉ (TypeClassifier.bundled classes).classes := primitive
  have notBuiltin : (TypeClassifier.bundled classes).sizes.get? "int" = none := rfl
  simp [notClass, notBuiltin, objectType]

/-- Whether an integer is observed as a number wherever it crosses, and the number is read back. -/
structure Observed (number seen : Int) : Prop where
  /-- A box of the integer holds the number, and its owner is read as that. -/
  boxed : ∀ {name : String} (place : Attached name) (value : Value), value.IsInteger number →
    place.engine.HasRoom 2 →
    place.engine.missing.contains (GType.int.number : Int) = false →
    ∃ (reference : Nat) (after : Attached name),
      runFrom (newVariant value) place.session = (.ok reference, after.session) ∧
      after.Holds reference ((GType.int.number : Int), .int seen) ∧
      after.Gives (readInt (livePayload reference)) (some seen)
  /-- Only an engine that cannot box integers at all refuses to. -/
  unboxed : ∀ {name : String} (place : Attached name) (value : Value), value.IsInteger number →
    place.engine.missing.contains (GType.int.number : Int) = true →
    (runFrom (newVariant value) place.session).1 =
      .error (.invariant (.noFromType GType.int.name))
  /-- A callable that is called with the integer sees the number. -/
  passed : ∀ {name : String} (start : Attached name) {compiler : PlanCompiler} {draft : MethodDraft}
    {className : Document} {kind : MethodKind} {plan : MarshalingPlan} (dispatcher : Dispatcher)
    (arguments : CallArguments) {index : Nat} {step : ArgumentStep} {value : Value},
    (compiler.compile draft className kind).outcome = .ok plan → plan.isVirtual = false →
    start.engine.HasRoom (2 * (arguments.declared.length + arguments.extra.length) + 1) →
    plan.arguments[index]? = some step → arguments.declared[index]? = some value →
    value.StandsFor number step.typeClass →
    Arrives start dispatcher plan arguments index seen
  /-- A word that holds the number is returned as the number. -/
  returned : ∀ {name : String} {start : Attached name} {classes : List String} {metadata : Document}
    {dispatcher : Dispatcher} {plan : MarshalingPlan} {arguments : CallArguments}
    {bytes : List UInt8} {engine : Engine}, "int" ∉ classes →
    Returns classes "int" metadata false dispatcher plan arguments start bytes engine →
    Number.signedWordAt bytes 0 = seen →
    (runFrom (call dispatcher plan arguments) start.session).1 = .ok (.int seen)
  /-- So is a box that holds the number. -/
  returnedInBox : ∀ {name : String} {start : Attached name} {classes : List String}
    {metadata : Document} {dispatcher : Dispatcher} {plan : MarshalingPlan}
    {arguments : CallArguments} {bytes : List UInt8} {engine : Engine}, "int" ∉ classes →
    Returns classes "int" metadata true dispatcher plan arguments start bytes engine →
    engine.content? (Payload.ofBytes bytes).slot = some ((GType.int.number : Int), .int seen) →
    start.engine.missing.contains (GType.int.number : Int) = false →
    (runFrom (call dispatcher plan arguments) start.session).1 = .ok (.int seen)

/-- Every integer is observed as the word that it wraps to, which is the integer itself exactly if
that is a signed word. -/
theorem integers_wrap (number : Int) :
    Observed number (Number.wrapSigned number) ∧
      (Number.wrapSigned number = number ↔ Number.IsSignedWord number) := by
  have word := Number.isSignedWord_wrapSigned number
  refine ⟨?_, Number.wrapSigned_eq_self_iff⟩
  exact {
    boxed := fun place value given room present => by
      obtain ⟨reference, after, made, missing, holds⟩ :=
        Attached.newVariant_of_isInteger given present room
      exact ⟨reference, after, made, holds,
        Attached.gives_readInt_of_holds (missing ▸ present) word holds⟩
    unboxed := fun place value given absent => Attached.newVariant_of_missing given absent
    passed := fun start _ _ _ _ _ dispatcher _ _ _ _ compiled bound room stands passed given =>
      arrives compiled bound start dispatcher room stands passed given
    returned := fun {_ _ _ metadata dispatcher _ _ _ _} primitive returns held =>
      call_of_native (classify_int primitive metadata) (.int metadata word) returns
        (congrArg Held.int held)
    returnedInBox := fun {_ _ _ metadata dispatcher _ _ _ _} primitive returns held present =>
      call_of_box (classify_int primitive metadata) (.int metadata word) returns held present }

/-! A method that is given an integer and a member of an enumeration, and that gives back what it
sees of the integer if it takes further arguments. -/

namespace Counting

/-- The first integer that is no signed word. -/
def number : Int := 2 ^ 63

def draft (takesExtras : Bool) : MethodDraft where
  name := .text "count"
  arguments := [⟨.text "start", .text "int", .text "uint64"⟩,
    ⟨.text "mode", .text "enum::Counter.Mode", .null⟩]
  returnValue := some ⟨.text "int", .null⟩
  isStatic := .bool true
  isVirtual := false
  isVararg := .bool takesExtras
  abiHash := .int 7

def compiled (takesExtras : Bool) : Except Failure MarshalingPlan :=
  ((PlanCompiler.mk (.bundled []) .none).compile (draft takesExtras) (.text "Counter")
    .classMethod).outcome

def script (takesExtras : Bool) : NativeScript where
  reads := [.int, .int]
  writes := [if takesExtras then .copyArgument 0 else .int number]
  isVararg := takesExtras
  failure := none
  error := .ok

def place (takesExtras : Bool) : Attached "engine" :=
  .ofMethod "engine" (.text "Counter", .text "count", .integer 7) (script takesExtras)

def arguments : CallArguments :=
  ⟨.nothing, [.int number, .enumerator "Mode" "LAST" number], []⟩

/-- Whether a content is a boxed integer, and that the one that is sought. -/
def holds (sought : Int) : Option (Int × Held) → Bool
  | some (typeNumber, .int held) => typeNumber == GType.int.number && held == sought
  | _ => false

theorem eq_of_holds {sought : Int} {content? : Option (Int × Held)}
    (same : holds sought content? = true) :
    content? = some ((GType.int.number : Int), .int sought) := by
  unfold holds at same
  split at same
  · obtain ⟨typed, held⟩ := Bool.and_eq_true_iff.mp same
    rw [eq_of_beq typed, eq_of_beq held]
  · cases same

def isLeast (bytes : List UInt8) (_ : Engine) : Bool :=
  Number.signedWordAt bytes 0 == -(2 ^ 63)

def isBoxedLeast (bytes : List UInt8) (engine : Engine) : Bool :=
  holds (-(2 ^ 63)) (engine.content? (Payload.ofBytes bytes).slot)

theorem storage_eq {takesExtras : Bool} {plan : MarshalingPlan}
    (planned : compiled takesExtras = .ok plan) :
    plan.returnStep.storage = if takesExtras then .variant else .value := by
  obtain ⟨_, _, classified, step⟩ := (PlanCompiler.compiles_of_compile planned).returned
  cases classified
  rw [step]
  cases takesExtras <;> rfl

/-- The classes of the declared arguments. -/
def typeClasses : List TypeClass :=
  [.primitive "int" (.text "uint64"), .enumeration "Counter.Mode" false]

theorem exists_step {takesExtras : Bool} {plan : MarshalingPlan}
    (planned : compiled takesExtras = .ok plan) {index : Nat} {typeClass : TypeClass}
    (listed : typeClasses[index]? = some typeClass) :
    ∃ step, plan.arguments[index]? = some step ∧ step.typeClass = typeClass := by
  have classes : (compiled takesExtras).map (fun plan => plan.arguments.map (·.typeClass)) =
      .ok typeClasses := by
    cases takesExtras <;> rfl
  rw [planned] at classes
  rw [← Except.ok.inj classes, List.getElem?_map] at listed
  exact Option.map_eq_some_iff.mp listed

theorem exists_returns (takesExtras : Bool) (sought : List UInt8 → Engine → Bool)
    (leaving :
      callLeaves (compiled takesExtras) arguments (place takesExtras) sought = true) :
    ∃ plan bytes engine, compiled takesExtras = .ok plan ∧
      Returns [] "int" .null takesExtras .default plan arguments (place takesExtras) bytes engine ∧
      sought bytes engine = true := by
  obtain ⟨plan, bytes, engine, planned, left, found⟩ := exists_left leaving
  have bound : Except.ok BindingState.bound = Except.ok plan.bindingState :=
    (PlanCompiler.compiles_of_compile planned).state
  have fits : (script takesExtras).Fits plan.returnStep.storage := by
    rw [storage_eq planned]
    cases takesExtras <;> exact ⟨by decide, by decide⟩
  have room : (place takesExtras).engine.HasRoom 6 := by
    cases takesExtras <;> decide
  exact ⟨plan, bytes, engine, planned, ⟨⟨_, _, _, _, planned, rfl, by cases takesExtras <;> rfl⟩,
    (Except.ok.inj bound).symm, Attached.fitsPlan_ofMethod fits, room, left⟩, found⟩

/-- Both arguments arrive as what is observed of the number. -/
theorem arrives_of_observed {seen : Int} (observed : Observed number seen) {takesExtras : Bool}
    {plan : MarshalingPlan} (planned : compiled takesExtras = .ok plan)
    (bound : plan.bindingState = .bound) {index : Nat} (listed : index < 2) :
    Arrives (place takesExtras) .default plan arguments index seen := by
  have room : (place takesExtras).engine.HasRoom 5 := by
    cases takesExtras <;> decide
  have virtual := MarshalingPlan.isVirtual_of_bound bound
  rcases index with _ | _ | index
  · obtain ⟨step, stands, typed⟩ := exists_step planned (rfl : typeClasses[0]? = _)
    exact observed.passed _ _ _ planned virtual room stands rfl (typed ▸ .int _ .int)
  · obtain ⟨step, stands, typed⟩ := exists_step planned (rfl : typeClasses[1]? = _)
    exact observed.passed _ _ _ planned virtual room stands rfl (typed ▸ .member _ _ .int)
  · omega

end Counting

theorem integers_wrap_of_counting : Number.wrapSigned Counting.number = -(2 ^ 63) ∧
    (∃ (reference : Nat) (after : Attached "engine"),
      runFrom (newVariant (.int Counting.number)) (Counting.place false).session =
        (.ok reference, after.session) ∧
      after.Gives (readInt (livePayload reference)) (some (-(2 ^ 63)))) ∧
    (runFrom (newVariant (.int Counting.number))
      (Attached.ofFresh "main" "Engine" [GType.int.number]).session).1 =
        .error (.invariant (.noFromType "INT")) ∧
    ∀ takesExtras, ∃ plan, Counting.compiled takesExtras = .ok plan ∧
      (∀ index < 2, Arrives (Counting.place takesExtras) .default plan Counting.arguments index
        (-(2 ^ 63))) ∧
      (runFrom (call .default plan Counting.arguments) (Counting.place takesExtras).session).1 =
        .ok (.int (-(2 ^ 63))) := by
  have wrapped : Number.wrapSigned Counting.number = -(2 ^ 63) := by decide
  have observed := (integers_wrap Counting.number).1
  rw [wrapped] at observed
  obtain ⟨reference, after, made, -, read⟩ :=
    observed.boxed (Counting.place false) _ .int (by decide) rfl
  refine ⟨wrapped, ⟨reference, after, made, read⟩, observed.unboxed _ _ .int rfl,
    fun takesExtras => ?_⟩
  cases takesExtras with
  | false =>
      obtain ⟨plan, bytes, engine, planned, returns, least⟩ :=
        Counting.exists_returns false Counting.isLeast (by decide +kernel)
      have given := observed.returned List.not_mem_nil returns (eq_of_beq least)
      exact ⟨plan, planned, fun _ => Counting.arrives_of_observed observed planned returns.bound,
        given⟩
  | true =>
      obtain ⟨plan, bytes, engine, planned, returns, least⟩ :=
        Counting.exists_returns true Counting.isBoxedLeast (by decide +kernel)
      have given := observed.returnedInBox List.not_mem_nil returns (Counting.eq_of_holds least) rfl
      exact ⟨plan, planned, fun _ => Counting.arrives_of_observed observed planned returns.bound,
        given⟩

/-- The first integer that is no signed word is boxed without a failure, and what is boxed and read
back is the least of them. -/
theorem boxed_integer_changes :
    let place := Attached.ofFresh "main" "Engine" []
    ∃ (reference : Nat) (after : Attached "main"),
      runFrom (newVariant (.int (2 ^ 63))) place.session = (.ok reference, after.session) ∧
      after.Holds reference ((GType.int.number : Int), .int (-(2 ^ 63))) ∧
      after.Gives (readInt (livePayload reference)) (some (-(2 ^ 63))) := by
  have given : (Value.int (2 ^ 63)).IsInteger (2 ^ 63) := .int
  have wrapped : Number.wrapSigned (2 ^ 63) = -(2 ^ 63) := by decide
  have fresh : (Attached.ofFresh "main" "Engine" []).engine.HasRoom 2 := by decide
  obtain ⟨reference, after, made, missing, holds⟩ :=
    Attached.newVariant_of_isInteger given rfl fresh
  rw [wrapped] at holds
  have word : Number.IsSignedWord (-(2 ^ 63)) := ⟨by decide, by decide⟩
  have present : after.engine.missing.contains (GType.int.number : Int) = false := by
    rw [missing]
    rfl
  exact ⟨reference, after, made, holds, Attached.gives_readInt_of_holds present word holds⟩

end Bridge

end EngineBridge
