import EngineBridge.Proofs.Session.Currency
import EngineBridge.Proofs.Session.Operations

/-!
Every operation keeps a session current, and all but a call are silent.

What holds of the parts of an operation holds of the operation. What is done with owners and what a
call does is built of actions in engines, of tables and callables that are looked up, and of changes
of the owners. A call looks up its callable and enters it; what it does after the look-up looks up
no other. `Footprint` is all that has to be known of a relation for it to hold before and after
every operation.
-/

namespace EngineBridge

namespace Bridge

variable {α : Type}

theorem destroyPayload_silent (payload : Payload) : Silent (destroyPayload payload) :=
  native_silent (Native.destroy_silent payload)

theorem readString_silent (string : Int) : Silent (readString string) := by
  refine .bind (native_silent (Native.stringRead_silent string false 0)) fun _ => ?_
  dsimp only
  split
  · exact .pure _
  · exact .bind (native_silent (Native.stringRead_silent string true _)) fun _ => .lift _

theorem takeString_silent (string : Int) : Silent (takeString string) :=
  (readString_silent string).releasing
    (native_silent (Native.stringDestroy_silent string))

theorem withString_silent (text : String) {operation : Int → Bridge α}
    (silent : ∀ string, Silent (operation string)) :
    Silent (withString text operation) :=
  .bind (native_silent (Native.stringNew_silent _)) fun string =>
    (silent string).releasing (native_silent (Native.stringDestroy_silent string))

theorem newString_silent (text : String) : Silent (newString text) :=
  .bind (native_silent (Native.stringNew_silent _)) fun _ session =>
    session.silence_with ..

theorem stringCell_silent (reference : Nat) : Silent (stringCell reference) := by
  refine .bind .get fun session => ?_
  cases session.strings[reference]? with
  | some cell => exact .pure cell
  | none => exact .throw _

theorem liveString_silent (reference : Nat) : Silent (liveString reference) := by
  refine .bind (stringCell_silent reference) fun cell => ?_
  split
  · exact .pure _
  · exact .throw _

theorem stringDescription_silent (reference : Nat) : Silent (stringDescription reference) :=
  .bind (liveString_silent reference) readString_silent

theorem destroyString_silent (reference : Nat) : Silent (destroyString reference) :=
  .bind (liveString_silent reference) fun string =>
    .bind (native_silent (Native.stringDestroy_silent string)) fun _ session =>
      session.silence_with ..

theorem shownString_silent (reference : Nat) : Silent (shownString reference) := by
  refine .bind (stringCell_silent reference) fun cell => ?_
  split
  · exact .bind (stringDescription_silent reference) fun _ => .pure _
  · exact .pure _

theorem usingString_silent (reference : Nat) {operation : Bridge α}
    (silent : Silent operation) : Silent (usingString reference operation) := by
  refine silent.releasing (.bind (stringCell_silent reference) fun cell => ?_)
  split
  · exact destroyString_silent reference
  · exact .pure _

theorem variantCell_silent (reference : Nat) : Silent (variantCell reference) := by
  refine .bind .get fun session => ?_
  cases session.variants[reference]? with
  | some cell => exact .pure cell
  | none => exact .throw _

theorem livePayload_silent (reference : Nat) : Silent (livePayload reference) := by
  refine .bind (variantCell_silent reference) fun cell => ?_
  split
  · exact .pure _
  · exact .throw _

theorem construct_silent (tables : FunctionTables) (gtype : GType) (source : List UInt8) :
    Silent (construct tables gtype source) :=
  .bind (.lift _) fun _ => nativeOn_silent (Native.fromType_silent _ source) _

theorem typedSource_silent (value : Value) : Silent (typedSource value) := by
  unfold typedSource
  split
  · exact .pure _
  · exact .pure _
  · exact .pure _
  · exact .pure _
  · exact .pure _
  · exact .bind (liveString_silent _) fun _ => .pure _
  · exact .pure _
  · exact .bind (.lift _) fun _ => .pure _
  · split
    · exact .pure _
    · exact .throw _
  · exact .throw _

theorem box_silent (value : Value) : Silent (box value) := by
  refine .bind .installedEngine fun _ => ?_
  split
  · exact native_silent Native.newNil_silent
  · exact .bind (livePayload_silent _) fun payload =>
      native_silent (Native.newCopy_silent payload)
  · exact functionTables_silent.bind fun tables => withString_silent _ fun string =>
      construct_silent tables .string _
  · exact functionTables_silent.bind fun tables => .bind (typedSource_silent _) fun typed =>
      construct_silent tables typed.1 typed.2

theorem adopt_silent (payload : Payload) : Silent (adopt payload) :=
  fun session => session.silence_with ..

theorem newVariant_silent (value : Value) : Silent (newVariant value) :=
  .bind (box_silent value) adopt_silent

theorem destroyVariant_silent (reference : Nat) : Silent (destroyVariant reference) := by
  refine .bind (variantCell_silent reference) fun cell => ?_
  split
  · exact .bind (destroyPayload_silent _) fun _ session => session.silence_with ..
  · exact .throw _

theorem usingVariant_silent (reference : Nat) {operation : Bridge α}
    (silent : Silent operation) : Silent (usingVariant reference operation) := by
  refine silent.releasing (.bind (variantCell_silent reference) fun cell => ?_)
  split
  · exact destroyVariant_silent reference
  · exact .pure _

section

variable {address : Bridge Payload}

theorem typeOf_silent (given : Silent address) : Silent (typeOf address) :=
  .bind .installedEngine fun _ => given.bind fun payload =>
    .bind (native_silent (Native.getType_silent payload)) fun _ => .pure _

theorem toNative_silent (typeNumber : Int) (given : Silent address) :
    Silent (toNative typeNumber address) :=
  functionTables_silent.bind fun _ => .bind (.lift _) fun _ => given.bind fun payload =>
    nativeOn_silent (Native.toType_silent _ payload) _

theorem readAs_silent (gtype : GType) (given : Silent address)
    {decode : List UInt8 → Bridge α} (silent : ∀ bytes, Silent (decode bytes)) :
    Silent (readAs gtype address decode) := by
  refine (typeOf_silent given).bind fun found => ?_
  split
  · exact (toNative_silent _ given).bind fun bytes => (silent bytes).bind fun _ => .pure _
  · exact .pure _

theorem readText_silent (given : Silent address) : Silent (readText address) :=
  readAs_silent .string given fun _ => takeString_silent _

theorem readPlain_silent (gtype : GType) (given : Silent address)
    (decode : List UInt8 → α) :
    Silent (readAs gtype address fun bytes => return decode bytes) :=
  readAs_silent gtype given fun _ => .pure _

theorem convert_silent (kind : PlainKind) (given : Silent address) :
    Silent (convert kind address) := by
  cases kind with
  | bool => exact (readPlain_silent _ given _).bind fun _ => .pure _
  | int => exact (readPlain_silent _ given _).bind fun _ => .pure _
  | float => exact (readPlain_silent _ given _).bind fun _ => .pure _
  | text => exact (readText_silent given).bind fun _ => .pure _

theorem display_silent (given : Silent address) : Silent (display address) :=
  .bind .installedEngine fun _ => given.bind fun payload =>
    .bind (native_silent (Native.stringify_silent payload)) takeString_silent

theorem hash_silent (given : Silent address) : Silent (hash address) :=
  .bind .installedEngine fun _ => given.bind fun payload =>
    native_silent (Native.hash_silent payload)

theorem equalVariants_silent {other : Bridge Payload} (given : Silent address)
    (another : Silent other) : Silent (equalVariants address other) := by
  refine .bind .installedEngine fun _ => given.bind fun left => another.bind fun right =>
    .bind (native_silent (Native.evaluateEqual_silent left right)) fun compared => ?_
  refine .releasing ?_ (destroyPayload_silent _)
  split
  · exact (readPlain_silent _ (.pure _) _).bind fun _ => .pure _
  · exact .pure _

end

theorem shownVariant_silent (reference : Nat) : Silent (shownVariant reference) := by
  refine .bind (variantCell_silent reference) fun cell => ?_
  split
  · exact (typeOf_silent (livePayload_silent reference)).bind fun _ =>
      (display_silent (livePayload_silent reference)).bind fun _ => .pure _
  · exact .pure _

/-- Only where both values are boxed is anything asked. -/
theorem equalValues_silent (reference : Nat) (other : Value) :
    Silent (equalValues (.variant reference) other) := by
  cases other with
  | variant otherReference =>
      simp only [equalValues]
      exact equalVariants_silent (livePayload_silent reference)
        (livePayload_silent otherReference)
  | _ =>
      simp only [equalValues]
      exact .pure _

/-! Results of calls -/

theorem objectIn_silent (types : ResultTypes) (className : String) (payload : Payload) :
    Silent (objectIn types className payload) := by
  refine (typeOf_silent (.pure payload)).bind fun found => ?_
  split
  · exact (toNative_silent _ (.pure payload)).bind fun _ => .lift _
  · exact .pure _

theorem unbox_silent (types : ResultTypes) (typeClass : Option TypeClass) (default : Value)
    (payload : Payload) : Silent (unbox types typeClass default payload) := by
  unfold unbox
  split
  · refine .releasing ?_ (destroyPayload_silent payload)
    exact (readPlain_silent _ (.pure payload) _).bind fun _ => .lift _
  · exact (objectIn_silent types _ payload).releasing (destroyPayload_silent payload)
  · split
    · exact ((convert_silent _ (.pure payload)).releasing
        (destroyPayload_silent payload)).bind fun _ => .pure _
    · exact (adopt_silent payload).bind fun _ => .pure _

theorem identityValue_silent (step : ReturnStep) (bytes : List UInt8) :
    Silent (identityValue step bytes) := by
  unfold identityValue
  split
  · exact (adopt_silent _).bind fun _ => .pure _
  · exact .pure _
  · split
    · exact .pure _
    · exact .throw _
  · exact .throw _

theorem decode_silent (types : ResultTypes) (step : ReturnStep) (bytes : List UInt8) :
    Silent (decode types step bytes) := by
  unfold decode
  split
  · exact .pure _
  · exact unbox_silent types _ _ _
  · exact .pure _
  · exact (takeString_silent _).bind fun _ => .pure _
  · exact .lift _
  · exact .lift _
  · exact identityValue_silent step bytes
  · exact .throw _

theorem releaseLanding_silent (storage : ReturnStorage) (bytes : List UInt8) :
    Silent (releaseLanding storage bytes) := by
  unfold releaseLanding
  split
  · exact destroyPayload_silent _
  · exact native_silent (Native.stringDestroy_silent _)
  · exact .pure _

/-! Arguments of calls. What is done with an argument is given, and may enter a callable but look up
none. -/

theorem contentBytes_silent (value : Value) : Silent (contentBytes value) := by
  unfold contentBytes
  split
  · exact .bind (variantCell_silent _) fun _ => .pure _
  · exact .bind (stringCell_silent _) fun _ => .pure _
  · split
    · exact .pure _
    · exact .throw _

theorem crossingText_silent (value : Value) : Silent (crossingText value) := by
  unfold crossingText
  split
  · exact .pure _
  · exact stringDescription_silent _
  · exact .throw _

theorem withBoxed_continuing (value : Value) {operation : Payload → Bridge α}
    (continuing : ∀ payload, Continuing (operation payload)) :
    Continuing (withBoxed value operation) :=
  .bind (box_silent value).continuing fun payload =>
    (continuing payload).releasing (destroyPayload_silent payload).continuing

theorem withAddress_continuing (typeClass : TypeClass) (value : Value) {use : Operand → Bridge α}
    (continuing : ∀ operand, Continuing (use operand)) :
    Continuing (withAddress typeClass value use) := by
  unfold withAddress
  split
  · exact .bind (.lift _) fun _ => continuing _
  · split
    · exact .bind (livePayload_silent _).continuing fun _ => continuing _
    · exact .bind (contentBytes_silent _).continuing fun _ => continuing _
  · split
    · exact withBoxed_continuing _ fun _ => continuing _
    · exact .bind (contentBytes_silent _).continuing fun _ => continuing _
  · exact .bind (contentBytes_silent _).continuing fun _ => continuing _

theorem withArgument_continuing (step : ArgumentStep) (value : Value) {use : Operand → Bridge α}
    (continuing : ∀ operand, Continuing (use operand)) :
    Continuing (withArgument step value use) := by
  unfold withArgument
  split
  · exact withBoxed_continuing _ fun _ => continuing _
  · exact .bind (crossingText_silent value).continuing fun _ =>
      .bind (native_silent (Native.stringNew_silent _)).continuing fun string =>
        (continuing _).releasing (native_silent (Native.stringDestroy_silent string)).continuing
  · exact .bind (.lift _) fun _ => continuing _
  · split
    · exact continuing _
    · exact .bind (.lift _) fun _ => continuing _
  · exact withAddress_continuing _ _ continuing

theorem withArguments_continuing (steps : List ArgumentStep) (values : List Value)
    {use : List Operand → Bridge α} (continuing : ∀ operands, Continuing (use operands)) :
    Continuing (withArguments steps values use) := by
  induction steps generalizing values use with
  | nil => exact continuing []
  | cons step steps induction =>
      cases values with
      | nil => exact continuing []
      | cons value values =>
          exact withArgument_continuing step value fun operand =>
            induction values fun operands => continuing (operand :: operands)

theorem withExtras_continuing (values : List Value) {use : List Operand → Bridge α}
    (continuing : ∀ operands, Continuing (use operands)) :
    Continuing (withExtras values use) := by
  induction values generalizing use with
  | nil => exact continuing []
  | cons value values induction =>
      exact withBoxed_continuing value fun payload => induction fun operands => continuing _

/-! Calls -/

theorem invoke_continuing (callable : Callable) (strategy : CallStrategy) (receiver : Document)
    (pointers : List Pointer) (landing : Landing) :
    Continuing (invoke callable strategy receiver pointers landing) := by
  unfold invoke
  split
  · exact .bind .installedEngine fun name =>
      runOn_continuing (Native.pointerCall_continues _ receiver pointers landing) name
  · exact .bind .installedEngine fun name =>
      runOn_continuing (Native.variantCall_continues _ receiver pointers landing) name
  · exact runOn_continuing (Native.utilityCall_continues _ _ pointers landing) _

theorem invokeChecked_continuing (target : CallTarget) (callable : Callable) (plan : MarshalingPlan)
    (receiver : Document) (pointers : List Pointer) :
    Continuing (invokeChecked target callable plan receiver pointers) := by
  refine .bind (.lift _) fun landing =>
    .bind (invoke_continuing callable _ receiver pointers landing) fun invoked => ?_
  dsimp only
  split
  · exact .bind (releaseLanding_silent _ _).continuing fun _ => .throw _
  · split
    · exact .bind (emit_silent _).continuing fun _ => .pure _
    · exact .pure _

/-- What a call does once its callable is known. -/
def callResolved (types : ResultTypes) (plan : MarshalingPlan) (arguments : CallArguments)
    (target : CallTarget) (callable : Callable) : Bridge Value := do
  let receiver ← plan.receiverHandle arguments.receiver
  withArguments plan.arguments arguments.declared fun declared =>
    withExtras arguments.extra fun extra => do
      let pointers ← Operand.pointers (declared ++ extra)
      let bytes ← invokeChecked target callable plan ((← get).document receiver) pointers
      decode types plan.returnStep bytes

theorem call_of_resolved {plan : MarshalingPlan} (bound : plan.isVirtual = false)
    (dispatcher : Dispatcher) (arguments : CallArguments) :
    call dispatcher plan arguments = (do
      plan.checkArguments arguments
      let _ ← installedEngine
      let target ← CallTarget.ofPlan plan
      let callable ← resolve dispatcher.cache target
      callResolved dispatcher.types plan arguments target callable) := by
  unfold call
  rw [if_neg (by simp [bound])]
  rfl

theorem callResolved_continuing (types : ResultTypes) (plan : MarshalingPlan)
    (arguments : CallArguments) (target : CallTarget) (callable : Callable) :
    Continuing (callResolved types plan arguments target callable) :=
  .bind (.lift _) fun _ => withArguments_continuing _ _ fun _ =>
    withExtras_continuing _ fun _ => .bind (.lift _) fun pointers => .bind .get fun _ =>
      .bind (invokeChecked_continuing target callable plan _ pointers) fun bytes =>
        (decode_silent _ _ bytes).continuing

/-- What holds between the sessions before and after each look-up of a callable, and wherever none
was looked up. -/
structure Footprint (relation : Session → Session → Prop) : Prop where
  continues : ∀ {before after : Session}, before.Continues after → relation before after
  resolve : ∀ reference target, Advances relation (resolve reference target)

namespace Footprint

variable {relation : Session → Session → Prop} (footprint : Footprint relation)

include footprint

theorem continuing {operation : Bridge α} (continuing : Continuing operation) :
    Advances relation operation :=
  fun session => footprint.continues (continuing session)

theorem call [IsPreorder Session relation] (dispatcher : Dispatcher) (plan : MarshalingPlan)
    (arguments : CallArguments) : Advances relation (call dispatcher plan arguments) := by
  cases bound : plan.isVirtual with
  | true =>
      rw [call_of_virtual bound]
      exact .pure _
  | false =>
      rw [call_of_resolved bound]
      exact .bind (.lift _) fun _ => .bind .installedEngine fun _ => .bind (.lift _) fun target =>
        .bind (footprint.resolve _ target) fun callable =>
          footprint.continuing (callResolved_continuing _ plan arguments target callable)

end Footprint

theorem footprint_stays (heard : Nat) : Footprint (Session.Stays heard) where
  continues continues := continues.stays heard
  resolve := resolve_stays heard

end Bridge

namespace Operation

open Bridge

theorem forget_silent {α : Type} {operation : Bridge α} (silent : Silent operation) :
    Silent (forget operation) :=
  silent.bind fun _ => .pure _

theorem perform_silent (operation : Operation) : Silent operation.perform := by
  cases operation with
  | box value => exact forget_silent (newVariant_silent value)
  | copy reference => exact forget_silent (newVariant_silent _)
  | destroy reference => exact destroyVariant_silent reference
  | leave reference => exact usingVariant_silent reference (.pure _)
  | address reference => exact forget_silent (livePayload_silent reference)
  | typeOf reference =>
      exact forget_silent (typeOf_silent (livePayload_silent reference))
  | readBool reference =>
      exact forget_silent (readPlain_silent _ (livePayload_silent reference) _)
  | readInt reference =>
      exact forget_silent (readPlain_silent _ (livePayload_silent reference) _)
  | readFloat reference =>
      exact forget_silent (readPlain_silent _ (livePayload_silent reference) _)
  | readText reference =>
      exact forget_silent (readText_silent (livePayload_silent reference))
  | convert kind reference =>
      exact forget_silent (convert_silent kind (livePayload_silent reference))
  | equal reference other => exact forget_silent (equalValues_silent reference other)
  | hash reference => exact forget_silent (hash_silent (livePayload_silent reference))
  | display reference =>
      exact forget_silent (display_silent (livePayload_silent reference))
  | shown reference => exact forget_silent (shownVariant_silent reference)
  | newString text => exact forget_silent (newString_silent text)
  | describe reference => exact forget_silent (stringDescription_silent reference)
  | shownString reference => exact forget_silent (shownString_silent reference)
  | destroyString reference => exact destroyString_silent reference
  | leaveString reference => exact usingString_silent reference (.pure _)

end Operation

end EngineBridge
