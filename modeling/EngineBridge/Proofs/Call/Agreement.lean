import EngineBridge.Proofs.Call.Balance
import EngineBridge.Proofs.Session.Contents

/-!
Typed and boxed results.

A result comes back in its native form where a method is called with typed pointers, and as a boxed
value where it is called with boxed ones. `calls_agree` says that both are decoded to the same
value, and that a boxed value of another type is decoded as if nothing had been returned.
-/

namespace EngineBridge

open Bridge

variable {name : String}

/-- The classes of results that come back in both ways: the type of their boxed values, the content
that stands for a result, and what it is decoded to. -/
inductive Result (types : ResultTypes) :
    TypeClass → GType → Held → Except Failure Value → Prop
  | bool (metadata : Document) (value : Bool) :
      Result types (.primitive "bool" metadata) .bool (.bool value) (.ok (.bool value))
  | int (metadata : Document) {number : Int} (fits : Number.IsSignedWord number) :
      Result types (.primitive "int" metadata) .int (.int number) (.ok (.int number))
  | float (metadata : Document) (value : Float) :
      Result types (.primitive "float" metadata) .float (.float value) (.ok (.float value))
  | text (size : Size) (text : String) :
      Result types (.builtin stringType size) .string (.text text) (.ok (.text text))
  | member (base : String) (isBitfield : Bool) {number : Int} (fits : Number.IsSignedWord number) :
      Result types (.enumeration base isBitfield) .int (.int number) (types.member base number)
  | object (className : String) {handle : Nat} (fits : Number.IsUnsignedWord handle) :
      Result types (.classHandle className) .object (.int handle) (types.object handle className)

namespace ResultTypes

/-- What is returned where a boxed result is of another type: no member but that of zero, no object,
and the default of any other class. -/
def fallback (types : ResultTypes) : TypeClass → Except Failure Value
  | .enumeration base _ => types.member base 0
  | .classHandle _ => .ok .nothing
  | typeClass => .ok (Value.ofDocument typeClass.defaultValue)

end ResultTypes

namespace Bridge

/-- What a callable that has returned leaves in its landing, and the engine as it is then. -/
def returning (plan : MarshalingPlan) (entrance : Entrance) :
    Bridge (List UInt8 × Option Engine) := do
  let landing ← plan.returnStep.landing
  let (outcome, landed) ← invoke entrance.callable (plan.callStrategy.getD .directPointerCall)
    entrance.receiver entrance.pointers landing
  let _ ← outcome
  return (landed.getD [], (← get).engine?)

/-- A call of a compiled plan whose callable returns and leaves some bytes in its landing. -/
structure Returns (classes : List String) (typeName : String) (metadata : Document)
    (takesExtras : Bool) (dispatcher : Dispatcher) (plan : MarshalingPlan)
    (arguments : CallArguments) (start : Attached name) (bytes : List UInt8) (engine : Engine) :
    Prop where
  compiled : ∃ policy draft className kind,
    ((PlanCompiler.mk (.bundled classes) policy).compile draft className kind).outcome = .ok plan ∧
      draft.returnValue = some ⟨.text typeName, metadata⟩ ∧ draft.takesExtras = takesExtras
  bound : plan.bindingState = .bound
  suits : start.FitsPlan dispatcher plan
  room : start.engine.HasRoom (2 * (arguments.declared.length + arguments.extra.length) + 2)
  returned : (runFrom (prepared dispatcher plan arguments _ (returning plan)) start.session).1 =
    .ok (bytes, some engine)

section

variable {classes : List String} {typeName : String} {metadata : Document} {takesExtras : Bool}
  {dispatcher : Dispatcher} {plan : MarshalingPlan} {arguments : CallArguments}
  {start : Attached name} {bytes : List UInt8} {engine : Engine}

private theorem returnStep_of_returns
    (returns : Returns classes typeName metadata takesExtras dispatcher plan arguments start bytes
      engine) :
    plan.returnStep = PlanCompiler.returnStep takesExtras typeName
      ((TypeClassifier.bundled classes).classify typeName metadata) := by
  rcases returns.compiled with ⟨policy, draft, className, kind, compiled, given, takes⟩
  have returned := (PlanCompiler.compiles_of_compile compiled).returned
  unfold PlanCompiler.IsReturnStep at returned
  rw [given] at returned
  rcases returned with ⟨_, _, classified, step⟩
  cases classified
  rw [step, takes]

private theorem engine?_session (place : Attached name) :
    place.session.engine? = some place.engine := by
  rw [Session.engine?, place.installed]
  exact place.found

private theorem returning_of_error {entered last : Attached name} {entrance : Entrance}
    {landing landed : Landing} {left : List Resource} {failure : Failure}
    (opened : plan.returnStep.landing = .ok landing)
    (invokes : Invokes (invoke entrance.callable (plan.callStrategy.getD .directPointerCall)
      entrance.receiver entrance.pointers landing) plan.returnStep.storage entered
      (.error failure) landed last left) :
    runFrom (returning plan entrance) entered.session = (.error failure, last.session) := by
  unfold returning
  rw [runFrom_bind_of_ok (lift_of_eq opened _), runFrom_bind_of_ok invokes.ran]
  rfl

private theorem returning_of_ok {entered last : Attached name} {entrance : Entrance}
    {landing landed : Landing} {left : List Resource} {error : CallError}
    (opened : plan.returnStep.landing = .ok landing)
    (invokes : Invokes (invoke entrance.callable (plan.callStrategy.getD .directPointerCall)
      entrance.receiver entrance.pointers landing) plan.returnStep.storage entered (.ok error)
      landed last left) :
    runFrom (returning plan entrance) entered.session =
      (.ok (landed.getD [], some last.engine), last.session) := by
  unfold returning
  rw [runFrom_bind_of_ok (lift_of_eq opened _), runFrom_bind_of_ok invokes.ran,
    ← engine?_session last]
  rfl

/-- A call comes to what the bytes in its landing are decoded to. -/
theorem call_of_returns
    (returns : Returns classes typeName metadata takesExtras dispatcher plan arguments start bytes
      engine) :
    ∃ (entered told : Attached name) (left : List Resource), told.engine = engine ∧
      HasLanded plan.returnStep.storage bytes entered told left 1 ∧ told.engine.HasRoom 1 ∧
      told.engine.missing = start.engine.missing ∧
      (runFrom (call dispatcher plan arguments) start.session).1 =
        (runFrom (decode dispatcher.types plan.returnStep bytes) told.session).1 := by
  have returned := returns.returned
  rcases returns.compiled with ⟨policy, draft, className, kind, compiled, -, -⟩
  have treats := ReturnStep.treats_of_isReturnStep
    (PlanCompiler.compiles_of_compile compiled).returned
  rcases prepared_prepares start dispatcher plan arguments with
    ⟨entrance, entered, scratch, receiver, prepares, finds⟩ | ⟨failure, after, declines⟩
  case inr =>
    rw [declines.ran] at returned
    cases returned
  rcases returns.suits.of_finds finds prepares.leaves with ⟨own, fits⟩
  have room : entered.engine.HasRoom 2 := prepares.leaves.hasRoom returns.room
  rw [prepares.ran] at returned
  cases opened : plan.returnStep.landing with
  | error failure =>
      have stops : runFrom (returning plan entrance) entered.session =
          (.error failure, entered.session) :=
        runFrom_bind_of_error (lift_of_eq opened _) _
      have leaves : start.engine.Leaves entered.engine ([] ++ scratch) _ := prepares.leaves
      rcases exists_unwinds leaves with ⟨after, unwinds, -⟩
      rw [unwinds.ran stops] at returned
      cases returned
  | ok landing =>
      obtain ⟨result, landed, last, left, invokes⟩ := invoke_invokes own fits
        (ReturnStep.open_of_landing opened) (room.weaken (by omega))
        (plan.callStrategy.getD .directPointerCall) entrance.receiver entrance.pointers
      rcases exists_unwinds (prepares.leaves.trans invokes.leaves) with ⟨after, unwinds, -⟩
      cases result with
      | error failure =>
          rw [unwinds.ran (returning_of_error opened invokes)] at returned
          cases returned
      | ok error =>
          rw [unwinds.ran (returning_of_ok opened invokes)] at returned
          cases returned
          rcases finish_of_returned dispatcher opened invokes with ⟨told, same, hasLanded, finished⟩
          have toldRoom : told.engine.HasRoom 1 := by
            rw [same]
            exact invokes.leaves.hasRoom room
          rcases decode_disposes treats hasLanded toldRoom dispatcher.types
              with ⟨outcome, final, ran, disposed⟩
          rcases balanced_of_disposed prepares disposed with ⟨settled, taken?, unwound, -⟩
          refine ⟨entered, told, left, same, hasLanded, toldRoom, ?_, ?_⟩
          · rw [same, invokes.leaves.register.missing, prepares.leaves.register.missing]
          · rw [call_of_bound (MarshalingPlan.isVirtual_of_bound returns.bound),
              prepares.ran, unwound.ran (finished.trans ran), ran]

end

section

variable {types : ResultTypes} {typeName : String} {typeClass : TypeClass} {gtype : GType}
  {held : Held} {outcome : Except Failure Value} {classes : List String} {metadata : Document}

private theorem name_of_builtin {builtinName : String} {size : Size}
    (result : Result types (.builtin builtinName size) gtype held outcome) :
    builtinName = stringType := by
  cases result
  rfl

/-- The names that have steps of their own are those of other classes, but for that of texts. -/
private theorem names_of_result (result : Result types typeClass gtype held outcome)
    (classified : (TypeClassifier.bundled classes).classify typeName metadata = typeClass) :
    typeName ≠ variantType ∧ (typeName = stringType ↔ gtype = .string) := by
  constructor
  · rintro rfl
    rw [show (TypeClassifier.bundled classes).classify variantType metadata =
      .builtin variantType (.bytes 24) from rfl] at classified
    subst classified
    exact absurd (name_of_builtin result) (by decide)
  · constructor
    · rintro rfl
      rw [show (TypeClassifier.bundled classes).classify stringType metadata =
        .builtin stringType (.bytes 8) from rfl] at classified
      subst classified
      cases result
      rfl
    · rintro rfl
      cases result
      unfold TypeClassifier.classify TypeClassifier.classifyPlain at classified
      split at classified
      · cases classified
      · cases classified
      · cases classified
      · split at classified
        · cases classified
        · split at classified
          · cases classified
            rfl
          · split at classified <;> cases classified

private theorem decode_of_string {start told : Attached name} {bytes : List UInt8}
    {left : List Resource} {numbers : Nat}
    (landing : HasLanded .nativeString bytes start told left numbers) :
    (runFrom (do return Value.text (← takeString (Number.signedWordAt bytes 0))) told.session).1 =
      .ok (.text (told.engine.stringAt (Number.signedWordAt bytes 0))) := by
  rcases readString_yields told (Number.signedWordAt bytes 0) with ⟨middle, read⟩
  rcases landing.releasing read with ⟨after, released, -⟩
  exact congrArg Prod.fst (runFrom_bind_of_ok released _)

/-- A result in its native form is decoded to its value. -/
theorem decode_native (result : Result types typeClass gtype held outcome)
    (notVariant : typeName ≠ variantType) (isString : typeName = stringType ↔ gtype = .string)
    {start told : Attached name} {bytes : List UInt8} {left : List Resource} {numbers : Nat}
    (landing : HasLanded (PlanCompiler.returnStep false typeName typeClass).storage bytes start told
      left numbers)
    (native : Native.readTyped told.engine gtype bytes = held) :
    (runFrom (decode types (PlanCompiler.returnStep false typeName typeClass) bytes)
      told.session).1 = outcome := by
  unfold PlanCompiler.returnStep at landing ⊢
  dsimp only at landing ⊢
  rw [if_neg nofun, if_neg notVariant] at landing ⊢
  cases result with
  | text size text =>
      dsimp only at landing ⊢
      rw [if_pos (isString.mpr rfl)] at landing ⊢
      refine (decode_of_string landing).trans ?_
      cases native
      rfl
  | bool | float | object =>
      dsimp only at landing ⊢
      rw [if_neg fun named => by cases isString.mp named]
      cases native
      rfl
  | int | member =>
      dsimp only at landing ⊢
      rw [if_neg fun named => by cases isString.mp named]
      rw [Native.readTyped] at native
      rw [← Held.int.inj native]
      rfl

end

/-! A boxed value of the type that is wanted is read as its content. -/

section

variable {types : ResultTypes} {typeClass : TypeClass} {gtype : GType} {held : Held}
  {outcome : Except Failure Value} {told : Attached name} {payload : Payload}

private theorem readInt_same {number : Int} (fits : Number.IsSignedWord number)
    (present : told.engine.missing.contains (GType.int.number : Int) = false)
    (stored : told.engine.content? payload.slot = some ((GType.int.number : Int), .int number)) :
    ∃ after : Attached name,
      (readInt (pure payload)).Yields told (.ok (some number)) after [] 0 := by
  have written : ∀ engine, runFrom (Native.writeTyped .int (.int number)) engine =
      (.ok (Number.wordBytes number), engine) := fun _ => rfl
  obtain ⟨after, read⟩ := readAs_of_written (fun bytes => Number.signedWordAt bytes 0)
    isPlainType_int present (told.addresses_pure payload) stored written
  refine ⟨after, ?_⟩
  rw [← Number.wrapSigned_of_isSignedWord fits, ← Number.signedWordAt_wordBytes]
  exact read

private theorem readFloat_same {value : Float}
    (present : told.engine.missing.contains (GType.float.number : Int) = false)
    (stored : told.engine.content? payload.slot =
      some ((GType.float.number : Int), .float value)) :
    ∃ after : Attached name,
      (readFloat (pure payload)).Yields told (.ok (some value)) after [] 0 := by
  have written : ∀ engine, runFrom (Native.writeTyped .float (.float value)) engine =
      (.ok (Number.littleEndian 8 value.toBits.toNat), engine) := fun _ => rfl
  obtain ⟨after, read⟩ := readAs_of_written
    (fun bytes => Float.ofBits (Number.wordAt bytes 0).toUInt64) isPlainType_float present
    (told.addresses_pure payload) stored written
  refine ⟨after, ?_⟩
  rw [← Number.ofBits_wordAt_littleEndian value]
  exact read

private theorem convert_same {kind : PlainKind}
    (result : Result types typeClass gtype held outcome)
    (plain : typeClass.plainKind? = some kind) (room : told.engine.HasRoom 1)
    (present : told.engine.missing.contains (gtype.number : Int) = false)
    (stored : told.engine.content? payload.slot = some ((gtype.number : Int), held)) :
    ∃ (value : Value) (after : Attached name), outcome = .ok value ∧
      (convert kind (pure payload)).Yields told (.ok (some value)) after [] 1 := by
  cases result with
  | bool metadata value =>
      cases plain
      obtain ⟨after, read⟩ := readAs_of_written (fun bytes => Number.bytesAt bytes 1 != [0])
        isPlainType_bool present (told.addresses_pure payload) stored fun _ => rfl
      have converted := (read.map (Option.map Value.bool)).weaken (Nat.zero_le 1)
      cases value <;> exact ⟨_, after, rfl, converted⟩
  | int metadata fits =>
      cases plain
      rcases readInt_same fits present stored with ⟨after, read⟩
      exact ⟨_, after, rfl, (read.map (Option.map Value.int)).weaken (Nat.zero_le 1)⟩
  | float metadata value =>
      cases plain
      rcases readFloat_same present stored with ⟨after, read⟩
      exact ⟨_, after, rfl, (read.map (Option.map Value.float)).weaken (Nat.zero_le 1)⟩
  | text size text =>
      cases plain
      rcases readText_of_string present (told.addresses_pure payload) stored room with ⟨after, read⟩
      exact ⟨_, after, rfl, read.map (Option.map Value.text)⟩
  | member | object => cases plain

private theorem objectIn_same {className : String} {handle : Nat}
    (fits : Number.IsUnsignedWord handle)
    (present : told.engine.missing.contains (GType.object.number : Int) = false)
    (stored : told.engine.content? payload.slot =
      some ((GType.object.number : Int), .int handle)) :
    ∃ after : Attached name, (objectIn types className payload).Yields told
      (types.object handle className) after [] 0 := by
  rcases typeOf_yields (told.addresses_pure payload) stored with ⟨middle, typed⟩
  rw [typeNamed_number] at typed
  have still : middle.engine.missing.contains (GType.object.number : Int) = false := by
    rw [typed.leaves.register.missing, present]
  have written : ∀ engine, runFrom (Native.writeTyped .object (.int handle)) engine =
      (.ok (Number.wordBytes handle), engine) := fun _ => rfl
  obtain ⟨after, native⟩ := toNative_yields isPlainType_object.notNil isPlainType_object.notMax
    still (middle.addresses_pure payload) fun engine more => by
      refine ⟨_, Native.toType_of_written ?_ written⟩
      rw [Engine.content?_of_leaves more, Engine.content?_of_leaves typed.leaves, stored]
  have same : Number.wordAt (Number.wordBytes handle) 0 = handle := by
    have unsigned := Number.wrapUnsigned_of_isUnsignedWord fits
    rw [Number.wordAt_wordBytes]
    omega
  refine ⟨after, typed.nothing_bind ?_⟩
  rw [if_pos BEq.rfl]
  refine native.nothing_bind ?_
  rw [same]
  exact lift_yields after _

end

/-! A boxed value of another type gives nothing. -/

section

variable {types : ResultTypes} {typeClass : TypeClass} {gtype : GType} {held content : Held}
  {outcome : Except Failure Value} {told : Attached name} {payload : Payload} {typeNumber : Int}

private theorem typeNamed_ne (notNil : gtype ≠ .nil) (differs : typeNumber ≠ gtype.number) :
    typeNamed typeNumber ≠ gtype :=
  fun named => differs (number_of_typeNamed notNil named)

private theorem convert_other {kind : PlainKind}
    (result : Result types typeClass gtype held outcome)
    (plain : typeClass.plainKind? = some kind)
    (stored : told.engine.content? payload.slot = some (typeNumber, content))
    (differs : typeNumber ≠ gtype.number) :
    ∃ after : Attached name, (convert kind (pure payload)).Yields told (.ok none) after [] 0 := by
  have addresses := told.addresses_pure payload
  cases result with
  | bool =>
      cases plain
      rcases readAs_of_other addresses stored (typeNamed_ne isPlainType_bool.notNil differs)
          fun bytes => pure (Number.bytesAt bytes 1 != [0]) with ⟨after, read⟩
      exact ⟨after, read.map (Option.map Value.bool)⟩
  | int =>
      cases plain
      rcases readAs_of_other addresses stored (typeNamed_ne isPlainType_int.notNil differs)
          fun bytes => pure (Number.signedWordAt bytes 0) with ⟨after, read⟩
      exact ⟨after, read.map (Option.map Value.int)⟩
  | float =>
      cases plain
      rcases readAs_of_other addresses stored (typeNamed_ne isPlainType_float.notNil differs)
          fun bytes => pure (Float.ofBits (Number.wordAt bytes 0).toUInt64) with ⟨after, read⟩
      exact ⟨after, read.map (Option.map Value.float)⟩
  | text =>
      cases plain
      obtain ⟨after, read⟩ := readAs_of_other addresses stored (typeNamed_ne (by decide) differs)
        fun bytes => takeString (Number.signedWordAt bytes 0)
      exact ⟨after, read.map (Option.map Value.text)⟩
  | member | object => cases plain

private theorem objectIn_other (types : ResultTypes) (className : String)
    (stored : told.engine.content? payload.slot = some (typeNumber, content))
    (differs : typeNumber ≠ GType.object.number) :
    ∃ after : Attached name, (objectIn types className payload).Yields told (.ok .nothing) after
      [] 0 := by
  rcases typeOf_yields (told.addresses_pure payload) stored with ⟨middle, typed⟩
  refine ⟨middle, typed.nothing_bind ?_⟩
  rw [if_neg (by simpa using typeNamed_ne isPlainType_object.notNil differs)]
  exact .of_unchanged rfl

end

section

variable {types : ResultTypes} {typeClass : TypeClass} {gtype : GType} {held content : Held}
  {outcome : Except Failure Value} {start told : Attached name} {bytes : List UInt8}
  {left : List Resource} {numbers : Nat} {typeNumber : Int}

private theorem unbox_of_converted {kind : PlainKind} {value? : Option Value}
    {middle : Attached name} {more : Nat} (default : Value)
    (landing : HasLanded .variant bytes start told left numbers)
    (plain : typeClass.plainKind? = some kind)
    (converted : (convert kind (pure (Payload.ofBytes bytes))).Yields told (.ok value?) middle []
      more) :
    (runFrom (unbox types (some typeClass) default (Payload.ofBytes bytes)) told.session).1 =
      .ok (value?.getD default) := by
  rcases landing.releasing converted with ⟨after, released, -⟩
  have same : unbox types (some typeClass) default (Payload.ofBytes bytes) =
      unboxPlain typeClass.plainKind? default (Payload.ofBytes bytes) := by
    cases typeClass with
    | enumeration | classHandle => cases plain
    | _ => rfl
  rw [same, plain]
  exact congrArg Prod.fst (runFrom_bind_of_ok released _)

private theorem unbox_of_member {number? : Option Int} {middle : Attached name} (base : String)
    (isBitfield : Bool) (default : Value)
    (landing : HasLanded .variant bytes start told left numbers)
    (read : (readInt (pure (Payload.ofBytes bytes))).Yields told (.ok number?) middle [] 0) :
    (runFrom (unbox types (some (.enumeration base isBitfield)) default (Payload.ofBytes bytes))
      told.session).1 = types.member base (number?.getD 0) := by
  have taken : (do types.member base ((← readInt (pure (Payload.ofBytes bytes))).getD 0) :
      Bridge Value).Yields told (types.member base (number?.getD 0)) middle [] 0 :=
    read.nothing_bind (lift_yields middle _)
  rcases landing.releasing taken with ⟨after, released, -⟩
  exact congrArg Prod.fst released

/-- A boxed result of the type that is wanted is decoded to its value. -/
theorem unbox_same (result : Result types typeClass gtype held outcome) (default : Value)
    (landing : HasLanded .variant bytes start told left numbers) (room : told.engine.HasRoom 1)
    (present : told.engine.missing.contains (gtype.number : Int) = false)
    (stored : told.engine.content? (Payload.ofBytes bytes).slot =
      some ((gtype.number : Int), held)) :
    (runFrom (unbox types (some typeClass) default (Payload.ofBytes bytes)) told.session).1 =
      outcome := by
  cases plain : typeClass.plainKind? with
  | some kind =>
      rcases convert_same result plain room present stored with ⟨value, middle, rfl, converted⟩
      exact unbox_of_converted default landing plain converted
  | none =>
      cases result with
      | bool | int | float | text => cases plain
      | member base isBitfield fits =>
          rcases readInt_same fits present stored with ⟨middle, read⟩
          exact unbox_of_member base isBitfield default landing read
      | object className fits =>
          rcases objectIn_same fits present stored with ⟨middle, found⟩
          rcases landing.releasing found with ⟨after, released, -⟩
          exact congrArg Prod.fst released

/-- A boxed result of another type is decoded as if there were none. -/
theorem unbox_other (result : Result types typeClass gtype held outcome)
    (landing : HasLanded .variant bytes start told left numbers)
    (stored : told.engine.content? (Payload.ofBytes bytes).slot = some (typeNumber, content))
    (differs : typeNumber ≠ gtype.number) :
    (runFrom (unbox types (some typeClass) (Value.ofDocument typeClass.defaultValue)
      (Payload.ofBytes bytes)) told.session).1 = types.fallback typeClass := by
  cases plain : typeClass.plainKind? with
  | some kind =>
      rcases convert_other result plain stored differs with ⟨middle, converted⟩
      rw [unbox_of_converted _ landing plain converted]
      cases typeClass with
      | enumeration | classHandle => cases plain
      | _ => rfl
  | none =>
      cases result with
      | bool | int | float | text => cases plain
      | member base isBitfield fits =>
          rcases readAs_of_other (told.addresses_pure (Payload.ofBytes bytes)) stored
              (typeNamed_ne isPlainType_int.notNil differs)
              fun bytes => pure (Number.signedWordAt bytes 0) with ⟨middle, read⟩
          exact unbox_of_member base isBitfield _ landing read
      | object className fits =>
          rcases objectIn_other types className stored differs with ⟨middle, found⟩
          rcases landing.releasing found with ⟨after, released, -⟩
          exact congrArg Prod.fst released

end

/-- A boxed result is decoded by taking it out of its box, unless boxed values are what is
declared. -/
theorem returnStep_boxed {typeName : String} (notVariant : typeName ≠ variantType)
    (typeClass : TypeClass) :
    PlanCompiler.returnStep true typeName typeClass =
      ⟨some typeClass, .variant, .fromVariant, typeClass.defaultValue, false⟩ := by
  unfold PlanCompiler.returnStep
  dsimp only
  rw [if_pos rfl, if_neg notVariant]

section

variable {types : ResultTypes} {typeClass : TypeClass} {gtype : GType} {held : Held}
  {outcome : Except Failure Value} {classes : List String} {typeName : String}
  {metadata : Document} {directCache cache : CacheReference} {direct boxed : MarshalingPlan}
  {directly boxing : CallArguments} {origin start : Attached name} {native bytes : List UInt8}
  {wrote engine : Engine}

/-- A call whose result comes back in its native form gives its value. -/
theorem call_of_native
    (classified : (TypeClassifier.bundled classes).classify typeName metadata = typeClass)
    (result : Result types typeClass gtype held outcome)
    (returns : Returns classes typeName metadata false ⟨types, cache⟩ boxed boxing start bytes
      engine)
    (written : Native.readTyped engine gtype bytes = held) :
    (runFrom (call ⟨types, cache⟩ boxed boxing) start.session).1 = outcome := by
  rcases names_of_result result classified with ⟨notVariant, isString⟩
  rcases call_of_returns returns with ⟨entered, told, left, same, landing, -, -, ran⟩
  rw [returnStep_of_returns returns, classified] at landing ran
  rw [ran]
  exact decode_native result notVariant isString landing (same ▸ written)

private theorem call_of_boxed
    (notVariant : typeName ≠ variantType)
    (classified : (TypeClassifier.bundled classes).classify typeName metadata = typeClass)
    (returns : Returns classes typeName metadata true ⟨types, cache⟩ boxed boxing start bytes
      engine) :
    ∃ (entered told : Attached name) (left : List Resource), told.engine = engine ∧
      HasLanded .variant bytes entered told left 1 ∧ told.engine.HasRoom 1 ∧
      told.engine.missing = start.engine.missing ∧
      (runFrom (call ⟨types, cache⟩ boxed boxing) start.session).1 =
        (runFrom (unbox types (some typeClass) (Value.ofDocument typeClass.defaultValue)
          (Payload.ofBytes bytes)) told.session).1 := by
  rcases call_of_returns returns with ⟨entered, told, left, same, landing, room, missing, ran⟩
  rw [returnStep_of_returns returns, classified, returnStep_boxed notVariant] at landing ran
  exact ⟨entered, told, left, same, landing, room, missing, ran⟩

/-- A call whose result comes back in a box of its type gives its value. -/
theorem call_of_box
    (classified : (TypeClassifier.bundled classes).classify typeName metadata = typeClass)
    (result : Result types typeClass gtype held outcome)
    (returns : Returns classes typeName metadata true ⟨types, cache⟩ boxed boxing start bytes engine)
    (stored : engine.content? (Payload.ofBytes bytes).slot = some ((gtype.number : Int), held))
    (present : start.engine.missing.contains (gtype.number : Int) = false) :
    (runFrom (call ⟨types, cache⟩ boxed boxing) start.session).1 = outcome := by
  rcases call_of_boxed (names_of_result result classified).1 classified returns
    with ⟨entered, told, left, same, landing, room, missing, ran⟩
  rw [ran]
  exact unbox_same result _ landing room (missing ▸ present) (same ▸ stored)

/-- A result that comes back in its native form and one that comes back in a box are the same
value, and a boxed value of another type, such as the nil that stands where nothing was written,
gives the default. -/
theorem calls_agree
    (classified : (TypeClassifier.bundled classes).classify typeName metadata = typeClass)
    (result : Result types typeClass gtype held outcome)
    (directs : Returns classes typeName metadata false ⟨types, directCache⟩ direct directly origin
      native wrote)
    (written : Native.readTyped wrote gtype native = held)
    (boxes : Returns classes typeName metadata true ⟨types, cache⟩ boxed boxing start bytes engine)
    (stored : engine.content? (Payload.ofBytes bytes).slot = some ((gtype.number : Int), held))
    (present : start.engine.missing.contains (gtype.number : Int) = false) :
    (runFrom (call ⟨types, directCache⟩ direct directly) origin.session).1 = outcome ∧
    (runFrom (call ⟨types, cache⟩ boxed boxing) start.session).1 = outcome ∧
    ∀ {plan arguments} {other : Attached name} {left last typeNumber content},
      Returns classes typeName metadata true ⟨types, cache⟩ plan arguments other left last →
      last.content? (Payload.ofBytes left).slot = some (typeNumber, content) →
      typeNumber ≠ gtype.number →
      (runFrom (call ⟨types, cache⟩ plan arguments) other.session).1 =
        types.fallback typeClass := by
  rcases names_of_result result classified with ⟨notVariant, -⟩
  refine ⟨call_of_native classified result directs written,
    call_of_box classified result boxes stored present, ?_⟩
  intro plan arguments other left last typeNumber content returns found differs
  rcases call_of_boxed notVariant classified returns
    with ⟨entered, told, _, same, landing, -, -, ran⟩
  rw [ran]
  exact unbox_other result landing (same ▸ found) differs

end

/-! What a call is seen to leave when it is carried out. -/

/-- Whether the call of a plan returns and leaves what is sought. -/
def callLeaves (planned : Except Failure MarshalingPlan) (arguments : CallArguments)
    (place : Attached name) (sought : List UInt8 → Engine → Bool) : Bool :=
  match planned with
  | .error _ => false
  | .ok plan =>
      match (runFrom (prepared .default plan arguments _ (returning plan)) place.session).1 with
      | .ok (bytes, some engine) => sought bytes engine
      | _ => false

theorem exists_left {planned : Except Failure MarshalingPlan} {arguments : CallArguments}
    {place : Attached name} {sought : List UInt8 → Engine → Bool}
    (leaving : callLeaves planned arguments place sought = true) :
    ∃ plan bytes engine, planned = .ok plan ∧
      (runFrom (prepared .default plan arguments _ (returning plan)) place.session).1 =
        .ok (bytes, some engine) ∧ sought bytes engine = true := by
  cases planned with
  | error failure => cases leaving
  | ok plan =>
      unfold callLeaves at leaving
      dsimp only at leaving
      split at leaving
      case h_1 bytes engine left => exact ⟨plan, bytes, engine, rfl, left, leaving⟩
      case h_2 => cases leaving

/-! Methods that tell a text, some of which take further arguments. -/

namespace Telling

def draft (takesExtras : Bool) : MethodDraft where
  name := .text "tell"
  arguments := []
  returnValue := some ⟨.text "String", .null⟩
  isStatic := .bool true
  isVirtual := false
  isVararg := .bool takesExtras
  abiHash := .int 7

def compiled (takesExtras : Bool) : Except Failure MarshalingPlan :=
  ((PlanCompiler.mk (.bundled []) .none).compile (draft takesExtras) (.text "Teller")
    .classMethod).outcome

def script (takesExtras : Bool) (writes : List WriteForm) : NativeScript where
  reads := []
  writes := writes
  isVararg := takesExtras
  failure := none
  error := .ok

def place (takesExtras : Bool) (writes : List WriteForm) : Attached "engine" :=
  .ofMethod "engine" (.text "Teller", .text "tell", .integer 7) (script takesExtras writes)

def arguments : CallArguments := ⟨.nothing, [], []⟩

def isSea (bytes : List UInt8) (engine : Engine) : Bool :=
  engine.stringAt (Number.signedWordAt bytes 0) == "sea"

def holdsSea : Option (Int × Held) → Bool
  | some (typeNumber, .text text) => typeNumber == GType.string.number && text == "sea"
  | _ => false

theorem eq_of_holdsSea {content? : Option (Int × Held)} (sea : holdsSea content? = true) :
    content? = some ((GType.string.number : Int), .text "sea") := by
  unfold holdsSea at sea
  split at sea
  · rcases Bool.and_eq_true_iff.mp sea with ⟨typed, same⟩
    rw [eq_of_beq typed, eq_of_beq same]
  · cases sea

def isBoxedSea (bytes : List UInt8) (engine : Engine) : Bool :=
  holdsSea (engine.content? (Payload.ofBytes bytes).slot)

def isNothing (bytes : List UInt8) (_ : Engine) : Bool :=
  bytes == Payload.zeroed.bytes

theorem storage_eq {takesExtras : Bool} {plan : MarshalingPlan}
    (planned : compiled takesExtras = .ok plan) :
    plan.returnStep.storage = if takesExtras then .variant else .nativeString := by
  rcases (PlanCompiler.compiles_of_compile planned).returned with ⟨_, _, classified, step⟩
  cases classified
  rw [step]
  cases takesExtras <;> rfl

theorem exists_returns (takesExtras : Bool) (writes : List WriteForm)
    (fits : (script takesExtras writes).Fits (if takesExtras then .variant else .nativeString))
    (sought : List UInt8 → Engine → Bool)
    (leaving : callLeaves (compiled takesExtras) arguments (place takesExtras writes) sought = true) :
    ∃ plan bytes engine, Returns [] "String" .null takesExtras .default plan arguments
      (place takesExtras writes) bytes engine ∧ sought bytes engine = true := by
  rcases exists_left leaving with ⟨plan, bytes, engine, planned, left, found⟩
  have bound : Except.ok BindingState.bound = Except.ok plan.bindingState :=
    (PlanCompiler.compiles_of_compile planned).state
  have suits : (place takesExtras writes).FitsPlan .default plan :=
    Attached.fitsPlan_ofMethod (storage_eq planned ▸ fits)
  have room : (place false []).engine.HasRoom 2 := by decide
  exact ⟨plan, bytes, engine, ⟨⟨_, _, _, _, planned, rfl, by cases takesExtras <;> rfl⟩,
    (Except.ok.inj bound).symm, suits, room, left⟩, found⟩

end Telling

theorem calls_agree_of_telling : ∃ direct boxed plan,
    (runFrom (call .default direct Telling.arguments)
      (Telling.place false [.string "sea"]).session).1 = .ok (.text "sea") ∧
    (runFrom (call .default boxed Telling.arguments)
      (Telling.place true [.variant 4 (.text "sea")]).session).1 = .ok (.text "sea") ∧
    (runFrom (call .default plan Telling.arguments) (Telling.place true []).session).1 =
      .ok (.text "") := by
  rcases Telling.exists_returns false [.string "sea"] ⟨by decide, by decide⟩ Telling.isSea
      (by decide +kernel) with ⟨direct, native, wrote, directs, told⟩
  rcases Telling.exists_returns true [.variant 4 (.text "sea")] ⟨by decide, by decide⟩
      Telling.isBoxedSea (by decide +kernel) with ⟨boxed, bytes, engine, boxes, sea⟩
  rcases Telling.exists_returns true [] ⟨by decide, by decide⟩ Telling.isNothing (by decide +kernel)
      with ⟨plan, left, last, returns, zeros⟩
  have written : Native.readTyped wrote .string native = .text "sea" :=
    congrArg Held.text (eq_of_beq told)
  have nothing : last.content? (Payload.ofBytes left).slot =
      some ((GType.nil.number : Int), .nothing) := by
    rw [eq_of_beq zeros]
    rfl
  rcases calls_agree rfl (.text (.bytes 8) "sea") directs written boxes (Telling.eq_of_holdsSea sea)
      rfl with ⟨directly, boxing, other⟩
  exact ⟨direct, boxed, plan, directly, boxing, other returns nothing (by decide)⟩

end Bridge

end EngineBridge
