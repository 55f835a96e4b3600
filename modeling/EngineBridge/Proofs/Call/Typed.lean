import EngineBridge.Proofs.Call.Arguments
import EngineBridge.Proofs.Plan.Compiled
import EngineBridge.Proofs.Session.Contents
import EngineBridge.Proofs.TypeClass.Bundled

/-!
What the engine gets for an argument of a declared type.

`Attached.WellTyped` says which values may be passed as a declared type, and `Attached.Passes` what
the pointer that is handed over for such a value leads to. The step that is compiled for an argument
stores every value of its type in such a way.
-/

namespace EngineBridge

variable {name : String} {numbers : Nat}

namespace CrossingForm

/-- The value that crosses: for a member of an enumeration this is its number. -/
def passed (form : CrossingForm) (value : Value) : Value :=
  if form = .ordinal then value.ordinal else value

end CrossingForm

namespace Attached

/-- The text of a text, or of a native string that is live. -/
inductive Reads (place : Attached name) : Value → String → Prop
  | text (text : String) : Reads place (.text text) text
  | nativeString {reference : Nat} {string : Int} {text : String}
      (live : place.session.liveString reference = .ok string)
      (found : place.engine.strings.lookup string = some text) :
      Reads place (.nativeString reference) text

/-- Whether a value may be passed in a form. A method that takes extra arguments gets boxed values
only, and any other one gets each value in the form of its declared type. -/
inductive WellTyped (place : Attached name) : Bool → CrossingForm → Value → Prop
  | inBox {form : CrossingForm} {value : Value} {typeNumber : Int} {content : Held}
      (boxable : place.Boxable (form.passed value) typeNumber content) :
      WellTyped place true form value
  | truth (value : Value) : WellTyped place false .truth value
  | real {value : Value} {real : Float} (given : value.toReal = .ok real) :
      WellTyped place false .real value
  | word {value : Value} {number : Int} (given : value.integer? = some number)
      (fits : Number.IsSignedWord number) : WellTyped place false .word value
  | ordinal {value : Value} {number : Int} (given : value.ordinal.integer? = some number)
      (fits : Number.IsSignedWord number) : WellTyped place false .ordinal value
  | text {value : Value} {text : String} (reads : place.Reads value text) :
      WellTyped place false .text value
  | boxed {value : Value} {typeNumber : Int} {content : Held}
      (boxable : place.Boxable value typeNumber content) : WellTyped place false .boxed value
  | content {value : Value} {bytes : List UInt8} (given : value.content? = some bytes) :
      WellTyped place false .content value
  | nothing : WellTyped place false .handle .nothing
  | object {className : Document} {handle : Value} {number : Int}
      (given : handle.integer? = some number) (fits : Number.IsUnsignedWord number) :
      WellTyped place false .handle (.object className handle)

/-- Whether bytes are those of a boxed value that was made since for a value, and is live. -/
structure HoldsBox (before entered : Attached name) (value : Value) (bytes : List UInt8) :
    Prop where
  live : ∃ typeNumber content, before.Boxable value typeNumber content ∧
    entered.engine.slot? (Payload.ofBytes bytes).slot = some (typeNumber, content)
  made : before.engine.next ≤ (Payload.ofBytes bytes).slot
  length : bytes.length = Payload.byteCount

/-- What a pointer leads to that is handed over for a value. -/
inductive Passes (before entered : Attached name) :
    Bool → CrossingForm → Value → Pointer → Prop
  | inBox {form : CrossingForm} {value : Value} {bytes : List UInt8}
      (holds : before.HoldsBox entered (form.passed value) bytes) :
      Passes before entered true form value (.address bytes)
  | truth (value : Value) :
      Passes before entered false .truth value (.address [if value.isTruthy then 1 else 0])
  | real {value : Value} {real : Float} {bytes : List UInt8} (given : value.toReal = .ok real)
      (held : Float.ofBits (Number.wordAt bytes 0).toUInt64 = real) (length : bytes.length = 8) :
      Passes before entered false .real value (.address bytes)
  | word {value : Value} {number : Int} {bytes : List UInt8}
      (given : value.integer? = some number) (held : Number.signedWordAt bytes 0 = number)
      (length : bytes.length = 8) : Passes before entered false .word value (.address bytes)
  | ordinal {value : Value} {number : Int} {bytes : List UInt8}
      (given : value.ordinal.integer? = some number)
      (held : Number.signedWordAt bytes 0 = number) (length : bytes.length = 8) :
      Passes before entered false .ordinal value (.address bytes)
  | text {value : Value} {text : String} {bytes : List UInt8} (reads : before.Reads value text)
      (live : entered.engine.strings.lookup (Number.signedWordAt bytes 0) = some text)
      (length : bytes.length = 8) : Passes before entered false .text value (.address bytes)
  /-- An owner's own value is passed, and not a copy. -/
  | owner {reference : Nat} {payload : Payload} {content : Int × Held}
      (live : before.session.livePayload reference = .ok payload)
      (held : before.engine.content? payload.slot = some content)
      (still : entered.engine.content? payload.slot = some content) :
      Passes before entered false .boxed (.variant reference) (.address payload.bytes)
  | boxed {value : Value} {bytes : List UInt8} (holds : before.HoldsBox entered value bytes) :
      Passes before entered false .boxed value (.address bytes)
  | content {value : Value} {bytes : List UInt8} (given : value.content? = some bytes) :
      Passes before entered false .content value (.address bytes)
  | nothing : Passes before entered false .handle .nothing (.word 0)
  | object {className : Document} {handle : Value} {word : Nat}
      (given : handle.integer? = some (word : Int)) :
      Passes before entered false .handle (.object className handle) (.word word)

/-- Whether a resource is live. -/
def Has (place : Attached name) : Resource → Prop
  | .slot number typeNumber content => place.engine.slot? number = some (typeNumber, content)
  | .string number text => place.engine.strings.lookup number = some text

theorem has_of_leaves {before after : Attached name} {left : List Resource}
    (leaves : before.engine.Leaves after.engine left numbers) {resource : Resource}
    (mem : resource ∈ left) : after.Has resource := by
  cases resource with
  | slot number typeNumber content => exact leaves.slot?_of_mem mem
  | string number text => exact leaves.string_of_mem mem

theorem isSignedWord_of_has {place : Attached name} (room : place.engine.HasRoom 1)
    {resource : Resource} (has : place.Has resource) : Number.IsSignedWord resource.number := by
  have next := room.isSignedWord place.numbered
  have bounds : 0 < resource.number ∧ resource.number < place.engine.next := by
    cases resource with
    | slot number typeNumber content => exact place.numbered.lt_of_slot? has
    | string number text => exact place.numbered.lt_of_string has
  unfold Number.IsSignedWord at next ⊢
  omega

theorem Reaches.hasRoom {before after : Attached name} {more : Nat}
    (reached : before.Reaches after numbers) (room : before.engine.HasRoom (numbers + more)) :
    after.engine.HasRoom more := by
  rcases reached.leaves with ⟨left, leaves⟩
  exact leaves.hasRoom room

end Attached

/-- Something that crosses is certainly stored in one way, wherever a call has come to, and then
the pointer for it is as it should be. -/
structure Crossing.Certain (crossing : Crossing name) (before : Attached name) (numbers : Nat)
    (suits : Attached name → Pointer → Prop) (stored : Stored) : Prop where
  stays : ∀ later, before.Reaches later numbers → crossing.stored later = .ok stored
  suits : ∀ number entered, before.Reaches entered numbers →
    (∀ resource ∈ stored.scratch number, entered.Has resource ∧
      before.engine.next ≤ resource.number) →
    ∃ pointer, (stored.operand number).pointer = .ok pointer ∧ suits entered pointer

theorem Crossing.Certain.mono {crossing : Crossing name} {before : Attached name}
    {suits fits : Attached name → Pointer → Prop} {stored : Stored}
    (certain : crossing.Certain before numbers suits stored)
    (weaker : ∀ entered pointer, suits entered pointer → fits entered pointer) :
    crossing.Certain before numbers fits stored where
  stays := certain.stays
  suits number entered reached has := by
    rcases certain.suits number entered reached has with ⟨pointer, pointed, suited⟩
    exact ⟨pointer, pointed, weaker entered pointer suited⟩

section

variable {before : Attached name} {value : Value} {typeNumber : Int} {content : Held}

open Attached

private theorem holdsBox_of_has {entered : Attached name} {number : Int}
    (boxable : before.Boxable value typeNumber content) (room : entered.engine.HasRoom 1)
    (has : entered.Has (.slot number typeNumber content)) (made : before.engine.next ≤ number) :
    before.HoldsBox entered value (Payload.mk typeNumber number 0).bytes := by
  have word := isSignedWord_of_has room has
  have slot : (Payload.ofBytes (Payload.mk typeNumber number 0).bytes).slot = number :=
    Payload.ofBytes_slot word
  exact ⟨⟨typeNumber, content, boxable, by rw [slot]; exact has⟩, by rw [slot]; exact made,
    Payload.length_bytes _⟩

private theorem inBox_of_boxable (boxable : before.Boxable value typeNumber content)
    (room : before.engine.HasRoom 1) : before.inBox value = .ok (.boxed typeNumber content) := by
  simp only [inBox, boxed_of_boxable boxable room, bind, Except.bind]
  rfl

/-- An extra argument crosses in a box of its own. -/
theorem Crossing.certain_extra (boxable : before.Boxable value typeNumber content)
    (room : before.engine.HasRoom (numbers + 1)) :
    (Crossing.extra name value).Certain before numbers
      (fun entered pointer => ∃ bytes, pointer = .address bytes ∧
        before.HoldsBox entered value bytes) (.boxed typeNumber content) where
  stays later reached := inBox_of_boxable (boxable.later reached) (reached.hasRoom room)
  suits number entered reached has := by
    rcases has _ (List.mem_singleton_self _) with ⟨live, made⟩
    exact ⟨_, rfl, _, rfl, holdsBox_of_has boxable (reached.hasRoom room) live made⟩

private theorem toInt_of_integer? {number : Int} (given : value.integer? = some number) :
    value.toInt = .ok number := by
  cases value <;> simp_all [Value.integer?, Value.scalar?, Value.toInt, Document.number?]

private theorem isEnumeration_of_crossesAs {typeName : String} {typeClass : TypeClass}
    {form : CrossingForm} (crosses : CrossesAs typeName typeClass form) :
    typeClass.isEnumeration = decide (form = .ordinal) := by
  cases crosses <;> rfl

/-- An argument of a method that takes extra arguments is stored in a box. -/
theorem stored_inBox {typeName : String} {typeClass : TypeClass} {form : CrossingForm}
    (crosses : CrossesAs typeName typeClass form) (argumentName reference : Document)
    (value : Value) (later : Attached name) :
    later.stored (PlanCompiler.argumentStep true argumentName reference typeName typeClass) value =
      later.inBox (form.passed value) := by
  have crossing : (PlanCompiler.argumentStep true argumentName reference typeName
      typeClass).crossing value = form.passed value := by
    rw [ArgumentStep.crossing, CrossingForm.passed]
    change (if typeClass.isEnumeration = true then _ else _) = _
    rw [isEnumeration_of_crossesAs crosses]
    simp only [decide_eq_true_eq]
  change later.inBox (ArgumentStep.crossing _ value) = _
  rw [crossing]

private theorem certain_of_inBox {typeName : String} {typeClass : TypeClass} {form : CrossingForm}
    (crosses : CrossesAs typeName typeClass form) (argumentName reference : Document)
    (boxable : before.Boxable (form.passed value) typeNumber content)
    (room : before.engine.HasRoom (numbers + 1)) :
    (Crossing.argument name (PlanCompiler.argumentStep true argumentName reference typeName
      typeClass) value).Certain before numbers
      (fun entered pointer => before.Passes entered true form value pointer)
      (.boxed typeNumber content) where
  stays later reached := (stored_inBox crosses argumentName reference value later).trans
    (inBox_of_boxable (boxable.later reached) (reached.hasRoom room))
  suits number entered reached has := by
    rcases has _ (List.mem_singleton_self _) with ⟨live, made⟩
    exact ⟨_, rfl, .inBox (holdsBox_of_has boxable (reached.hasRoom room) live made)⟩

/-- An integer is stored in the bytes of a word. -/
theorem stored_word {typeName : String} {typeClass : TypeClass}
    (crosses : CrossesAs typeName typeClass .word) (argumentName reference : Document)
    {number : Int} (given : value.integer? = some number) (later : Attached name) :
    later.stored (PlanCompiler.argumentStep false argumentName reference typeName typeClass)
      value = .ok (.bytes (Number.wordBytes number)) := by
  cases crosses with
  | @word metadata notString notBool notFloat =>
      unfold PlanCompiler.argumentStep
      dsimp only
      rw [if_neg nofun, if_neg notString]
      split
      · change (do return Stored.bytes (Number.wordBytes (← value.toInt)) :
          Except Failure Stored) = _
        rw [toInt_of_integer? given]
        rfl
      · change (do return Stored.bytes (← nativeBytes (TypeClass.primitiveForm typeName) value) :
          Except Failure Stored) = _
        rw [TypeClass.primitiveForm, if_neg notBool, if_neg notFloat]
        simp only [nativeBytes, Value.exactInt, given]
        rfl

/-- How values of a form are stored. Integers are stored in one of two ways that are the same. -/
private def storage? : CrossingForm → Option ArgumentStorage
  | .truth | .real | .boxed | .content => some .address
  | .ordinal => some .scratchCopy
  | .text => some .nativeString
  | .handle => some .handle
  | .word => none

private theorem storage_argumentStep {typeName : String} {typeClass : TypeClass}
    {form : CrossingForm} (crosses : CrossesAs typeName typeClass form)
    (argumentName reference : Document) {storage : ArgumentStorage}
    (known : storage? form = some storage) :
    (PlanCompiler.argumentStep false argumentName reference typeName typeClass).storage =
      storage := by
  unfold PlanCompiler.argumentStep
  dsimp only
  rw [if_neg nofun]
  cases crosses with
  | truth named | real named =>
      cases known
      subst named
      rfl
  | word => cases known
  | ordinal notString =>
      cases known
      rw [if_neg notString]
      rfl
  | text named =>
      cases known
      rw [if_pos named]
  | boxed named =>
      cases known
      subst named
      rfl
  | builtin notString notVariant =>
      cases known
      rw [if_neg notString]
      rfl
  | typedArray notString =>
      cases known
      rw [if_neg notString]
      rfl
  | handle notString =>
      cases known
      rw [if_neg notString]
      rfl

/-- So is the number of a member of an enumeration. -/
theorem stored_ordinal {typeName : String} {typeClass : TypeClass}
    (crosses : CrossesAs typeName typeClass .ordinal) (argumentName reference : Document)
    {number : Int} (given : value.ordinal.integer? = some number) (later : Attached name) :
    later.stored (PlanCompiler.argumentStep false argumentName reference typeName typeClass)
      value = .ok (.bytes (Number.wordBytes number)) := by
  unfold stored
  rw [storage_argumentStep crosses argumentName reference rfl]
  have crossing : (PlanCompiler.argumentStep false argumentName reference typeName
      typeClass).crossing value = value.ordinal := by
    rw [ArgumentStep.crossing, PlanCompiler.typeClass_argumentStep, isEnumeration_of_crossesAs crosses]
    rfl
  dsimp only
  rw [crossing, toInt_of_integer? given]
  rfl

/-- Bytes that are passed as they are. -/
private theorem certain_of_bytes {crossing : Crossing name} {bytes : List UInt8}
    {suits : Attached name → Pointer → Prop}
    (stays : ∀ later, before.Reaches later numbers →
      crossing.stored later = .ok (.bytes bytes))
    (suited : ∀ entered, before.Reaches entered numbers → suits entered (.address bytes)) :
    crossing.Certain before numbers suits (.bytes bytes) :=
  ⟨stays, fun _ entered reached _ => ⟨_, rfl, suited entered reached⟩⟩

section

variable {typeName : String} {typeClass : TypeClass} {form : CrossingForm}
  {argumentName reference : Document}

/-- What is certain of an argument that is stored in one of its own forms. -/
private def CertainIn (typeName : String) (typeClass : TypeClass)
    (argumentName reference : Document)
    (before : Attached name) (numbers : Nat) (form : CrossingForm) (value : Value) : Prop :=
  ∃ stored, (Crossing.argument name (PlanCompiler.argumentStep false argumentName reference
    typeName typeClass) value).Certain before numbers
      (fun entered pointer => before.Passes entered false form value pointer) stored

private theorem certain_text (crosses : CrossesAs typeName typeClass .text) {text : String}
    (reads : before.Reads value text) (room : before.engine.HasRoom (numbers + 1)) :
    CertainIn typeName typeClass argumentName reference before numbers .text value := by
  refine ⟨.string text, ⟨fun later reached => ?_, fun number entered reached has => ?_⟩⟩
  · change later.stored _ value = _
    unfold stored
    rw [storage_argumentStep crosses argumentName reference rfl]
    change (do return Stored.string (← later.crossingText value) : Except Failure Stored) = _
    cases reads with
    | text => rfl
    | nativeString live found =>
        rw [← reached.keeps.liveString] at live
        simp only [crossingText, live, bind, Except.bind, Engine.stringAt,
          string_of_reaches reached found]
        rfl
  · rcases has _ (List.mem_singleton_self _) with ⟨live, -⟩
    have word : Number.IsSignedWord number := isSignedWord_of_has (reached.hasRoom room) live
    refine ⟨_, rfl, .text reads ?_ (Number.length_wordBytes number)⟩
    rw [Number.signedWordAt_wordBytes, Number.wrapSigned_of_isSignedWord word]
    exact live

private theorem certain_boxed (crosses : CrossesAs typeName typeClass .boxed)
    (boxable : before.Boxable value typeNumber content)
    (room : before.engine.HasRoom (numbers + 1)) :
    CertainIn typeName typeClass argumentName reference before numbers .boxed value := by
  have addresses : ∀ later : Attached name, later.stored (PlanCompiler.argumentStep false
      argumentName reference typeName typeClass) value = later.addressed typeClass value := by
    intro later
    unfold stored
    rw [storage_argumentStep crosses argumentName reference rfl, PlanCompiler.typeClass_argumentStep]
  cases crosses with
  | boxed named =>
      by_cases owned : ∃ owner, value = .variant owner
      · rcases owned with ⟨owner, rfl⟩
        cases boxable with
        | typed available typed => cases typed
        | @variant _ payload _ _ live held =>
            refine ⟨.bytes payload.bytes, certain_of_bytes (fun later reached => ?_)
              fun entered reached => .owner live held (content?_of_reaches reached held)⟩
            rw [← reached.keeps.livePayload] at live
            refine (addresses later).trans ?_
            simp only [addressed, if_pos named, live, bind, Except.bind]
            rfl
      · refine ⟨.boxed typeNumber content, ⟨fun later reached => ?_,
          fun number entered reached has => ?_⟩⟩
        · refine (addresses later).trans ?_
          have inBox := inBox_of_boxable (boxable.later reached) (reached.hasRoom room)
          cases value with
          | variant owner => exact absurd ⟨owner, rfl⟩ owned
          | _ =>
              rw [← inBox]
              exact if_pos named
        · rcases has _ (List.mem_singleton_self _) with ⟨live, made⟩
          exact ⟨_, rfl, .boxed (holdsBox_of_has boxable (reached.hasRoom room) live made)⟩

private theorem certain_native (crosses : CrossesAs typeName typeClass form)
    (addressed : storage? form = some .address) {bytes : List UInt8}
    (primitive : ∃ metadata, typeClass = .primitive typeName metadata)
    (given : nativeBytes (TypeClass.primitiveForm typeName) value = .ok bytes)
    (passes : ∀ entered, before.Passes entered false form value (.address bytes)) :
    CertainIn typeName typeClass argumentName reference before numbers form value := by
  rcases primitive with ⟨metadata, rfl⟩
  refine ⟨.bytes bytes, certain_of_bytes (fun later reached => ?_) fun entered _ => passes entered⟩
  change later.stored _ value = _
  unfold stored
  rw [storage_argumentStep crosses argumentName reference addressed, PlanCompiler.typeClass_argumentStep]
  change (do return Stored.bytes (← nativeBytes (TypeClass.primitiveForm typeName) value) :
    Except Failure Stored) = _
  rw [given]
  rfl

private theorem certain_truth (crosses : CrossesAs typeName typeClass .truth) :
    CertainIn typeName typeClass argumentName reference before numbers .truth value := by
  refine certain_native crosses rfl ?_ ?_ fun _ => .truth value
  · cases crosses with
    | truth named => exact ⟨_, rfl⟩
  · cases crosses with
    | truth named =>
        rw [named]
        rfl

private theorem certain_real {real : Float} (given : value.toReal = .ok real)
    (crosses : CrossesAs typeName typeClass .real) :
    CertainIn typeName typeClass argumentName reference before numbers .real value := by
  refine certain_native crosses rfl ?_ ?_ fun _ => .real given
    (Number.ofBits_wordAt_littleEndian real) (Number.length_littleEndian 8 _)
  · cases crosses with
    | real named => exact ⟨_, rfl⟩
  · cases crosses with
    | real named =>
        rw [named]
        change (do return Number.littleEndian 8 (← value.toReal).toBits.toNat :
          Except Failure (List UInt8)) = _
        rw [given]
        rfl

private theorem certain_word {number : Int} (given : value.integer? = some number)
    (fits : Number.IsSignedWord number) (crosses : CrossesAs typeName typeClass .word) :
    CertainIn typeName typeClass argumentName reference before numbers .word value := by
  refine ⟨.bytes (Number.wordBytes number), certain_of_bytes
    (fun later _ => stored_word crosses argumentName reference given later) fun entered _ => ?_⟩
  refine .word given ?_ (Number.length_wordBytes number)
  rw [Number.signedWordAt_wordBytes, Number.wrapSigned_of_isSignedWord fits]

private theorem certain_ordinal {number : Int} (given : value.ordinal.integer? = some number)
    (fits : Number.IsSignedWord number) (crosses : CrossesAs typeName typeClass .ordinal) :
    CertainIn typeName typeClass argumentName reference before numbers .ordinal value := by
  refine ⟨.bytes (Number.wordBytes number), certain_of_bytes
    (fun later _ => stored_ordinal crosses argumentName reference given later)
    fun entered _ => .ordinal given ?_ (Number.length_wordBytes number)⟩
  rw [Number.signedWordAt_wordBytes, Number.wrapSigned_of_isSignedWord fits]

private theorem certain_content {bytes : List UInt8} (given : value.content? = some bytes)
    (crosses : CrossesAs typeName typeClass .content) :
    CertainIn typeName typeClass argumentName reference before numbers .content value := by
  refine ⟨.bytes bytes, certain_of_bytes (fun later _ => ?_) fun _ _ => .content given⟩
  have held : later.contentBytes value = .ok bytes := by
    cases value with
    | opaqueValue | typedArray =>
        cases given
        rfl
    | _ => cases given
  change later.stored _ value = _
  unfold stored
  rw [storage_argumentStep crosses argumentName reference rfl, PlanCompiler.typeClass_argumentStep]
  cases crosses with
  | builtin notString notVariant =>
      cases value with
      | opaqueValue | typedArray =>
          simp only [addressed, if_neg notVariant, held, bind, Except.bind]
          rfl
      | _ => cases given
  | typedArray notString =>
      simp only [addressed, held, bind, Except.bind]
      rfl

private theorem certain_handle (crosses : CrossesAs typeName typeClass .handle)
    {given : Value} (handed : (match value with
      | .nothing => .ok (.handle .nothing)
      | other => do return .handle (← other.handle) : Except Failure Stored) = .ok (.handle given))
    {pointer : Pointer} (pointed : (Operand.handle given).pointer = .ok pointer)
    (passes : ∀ entered, before.Passes entered false .handle value pointer) :
    CertainIn typeName typeClass argumentName reference before numbers .handle value := by
  refine ⟨.handle given, fun later _ => ?_, fun _ entered _ _ => ⟨pointer, pointed, passes entered⟩⟩
  change later.stored _ value = _
  unfold stored
  rw [storage_argumentStep crosses argumentName reference rfl]
  exact handed

private theorem certain_nothing (crosses : CrossesAs typeName typeClass .handle) :
    CertainIn typeName typeClass argumentName reference before numbers .handle .nothing :=
  certain_handle crosses rfl rfl fun _ => .nothing

private theorem certain_object {className : Document} {handle : Value} {number : Int}
    (given : handle.integer? = some number) (fits : Number.IsUnsignedWord number)
    (crosses : CrossesAs typeName typeClass .handle) :
    CertainIn typeName typeClass argumentName reference before numbers .handle
      (.object className handle) := by
  have word := Number.wrapUnsigned_of_isUnsignedWord fits
  have pointed : (Operand.handle handle).pointer = .ok (.word (Number.wrapUnsigned number)) := by
    cases handle with
    | nothing => cases given
    | _ =>
        simp only [Operand.pointer, Value.exactInt, given]
        rfl
  exact certain_handle crosses rfl pointed fun _ => .object (by rw [word, given])

end

/-- An argument that is well typed crosses as its declared type says. -/
theorem Crossing.certain_argument {classes : List String} {policy : BindingPolicy}
    (primitive : ∀ typeName ∈ ["bool", "int", "float"], typeName ∉ classes)
    {takesExtras : Bool} {argument : Argument} {step : ArgumentStep}
    (stepped : (PlanCompiler.mk (.bundled classes) policy).stepOf takesExtras
      (.ofArgument argument) = .ok step)
    (typed : before.WellTyped takesExtras (crossingForm classes argument.typeName) value)
    (room : before.engine.HasRoom (numbers + 1)) :
    ∃ stored, (Crossing.argument name step value).Certain before numbers
      (fun entered pointer => before.Passes entered takesExtras
        (crossingForm classes argument.typeName) value pointer) stored := by
  rcases PlanCompiler.step_of_stepOf stepped with ⟨typeName, reference, named, rfl⟩
  cases named
  have crosses := TypeClassifier.crossesAs_classify primitive argument.typeName
    (ArgumentDraft.ofArgument argument).metadata
  generalize crossingForm classes argument.typeName = form at typed crosses
  cases typed with
  | inBox boxable => exact ⟨_, certain_of_inBox crosses _ reference boxable room⟩
  | truth => exact certain_truth crosses
  | real given => exact certain_real given crosses
  | word given fits => exact certain_word given fits crosses
  | ordinal given fits => exact certain_ordinal given fits crosses
  | text reads => exact certain_text crosses reads room
  | boxed boxable => exact certain_boxed crosses boxable room
  | content given => exact certain_content given crosses
  | nothing => exact certain_nothing crosses
  | object given fits => exact certain_object given fits crosses

end

end EngineBridge
