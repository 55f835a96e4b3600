import EngineBridge.Plan.Basic
import EngineBridge.Proofs.Engine.Actions

/-!
What entering a callable leaves in the engine.

A callable only looks at its arguments. What it creates is what it writes, and a callable that
writes at most one result of the kind that is expected creates at most one resource, whose number
then stands where the result has landed.
-/

namespace EngineBridge

namespace ReturnStorage

/-- Whether a result that lands there has to be released. -/
def isOwned (storage : ReturnStorage) : Bool :=
  storage == .variant || storage == .nativeString

/-- What a callable may write where a result of a kind is expected. Without an address for a result
nothing is written, whatever the callable would write. -/
def accepts : ReturnStorage → WriteForm → Bool
  | _, .refused _ | .none, _ => true
  | .variant, .variant .. | .variant, .nil | .variant, .copyArgument _ => true
  | .nativeString, .string _ => true
  | .typedArray, form | .handle, form | .intEnum, form | .value, form =>
      match form with
      | .int _ | .bool _ | .float _ | .handle _ | .hex _ => true
      | _ => false
  | _, _ => false

/-- How the bytes of a result belong to what the callable left: an owned result that was written
holds the number of its resource, and one that was not holds zero. -/
inductive Landed : ReturnStorage → List UInt8 → List Resource → Prop
  | slot {bytes : List UInt8} {number typeNumber : Int} {content : Held}
      (held : (Payload.ofBytes bytes).slot = number) :
      Landed .variant bytes [.slot number typeNumber content]
  | noSlot {bytes : List UInt8} (held : (Payload.ofBytes bytes).slot = 0) :
      Landed .variant bytes []
  | string {bytes : List UInt8} {number : Int} {text : String}
      (held : Number.signedWordAt bytes 0 = number) :
      Landed .nativeString bytes [.string number text]
  | noString {bytes : List UInt8} (held : Number.signedWordAt bytes 0 = 0) :
      Landed .nativeString bytes []
  | plain {storage : ReturnStorage} {bytes : List UInt8} (plain : storage.isOwned = false) :
      Landed storage bytes []

/-- The bytes of a result before a call. -/
def IsBlank : ReturnStorage → List UInt8 → Prop
  | .variant, bytes => bytes = Payload.zeroed.bytes
  | .nativeString, bytes => bytes = Number.wordBytes 0
  | _, _ => True

theorem IsBlank.landed {storage : ReturnStorage} {bytes : List UInt8}
    (blank : storage.IsBlank bytes) : storage.Landed bytes [] := by
  cases storage with
  | variant =>
      rw [show bytes = _ from blank]
      exact .noSlot (by decide)
  | nativeString =>
      rw [show bytes = _ from blank]
      exact .noString (by decide)
  | _ => exact .plain rfl

end ReturnStorage

namespace NativeScript

/-- Whether a callable writes at most one result, and that of the kind that is expected. -/
structure Fits (script : NativeScript) (storage : ReturnStorage) : Prop where
  single : script.writes.length ≤ 1
  accepted : ∀ form ∈ script.writes, storage.accepts form = true

end NativeScript

namespace Native

/-! Looking at arguments changes nothing. -/

theorem load_unchanged (payload : Payload) (engine : Engine) :
    ∃ outcome, runFrom (load payload) engine = (outcome, engine) := by
  cases found : engine.content? payload.slot with
  | some content => exact ⟨_, load_of_content found⟩
  | none => exact ⟨_, load_of_none found⟩

theorem readArgument_unchanged (form : ReadForm) (pointer : Pointer) (engine : Engine) :
    ∃ outcome, runFrom (readArgument form pointer) engine = (outcome, engine) := by
  cases pointer with
  | word value => cases form <;> exact ⟨_, rfl⟩
  | address content =>
      cases form with
      | variant =>
          rcases load_unchanged (Payload.ofBytes content) engine with ⟨outcome, loaded⟩
          unfold readArgument
          cases outcome with
          | ok value => exact ⟨_, runFrom_bind_of_ok loaded _⟩
          | error failure => exact ⟨_, runFrom_bind_of_error loaded _⟩
      | _ => exact ⟨_, rfl⟩

theorem readArguments_unchanged (forms : List ReadForm) (pointers : List Pointer)
    (engine : Engine) :
    ∃ outcome, runFrom (readArguments forms pointers) engine = (outcome, engine) := by
  induction forms generalizing pointers with
  | nil => exact ⟨_, rfl⟩
  | cons form forms induction =>
      cases pointers with
      | nil => exact ⟨_, rfl⟩
      | cons pointer pointers =>
          rcases readArgument_unchanged form pointer engine with ⟨first, firstRan⟩
          rcases induction pointers with ⟨rest, restRan⟩
          unfold readArguments
          cases first with
          | error failure => exact ⟨_, runFrom_bind_of_error firstRan _⟩
          | ok seen =>
              rw [runFrom_bind_of_ok firstRan]
              cases rest with
              | error failure => exact ⟨_, runFrom_bind_of_error restRan _⟩
              | ok others => exact ⟨_, runFrom_bind_of_ok restRan _⟩

theorem view_unchanged (script : NativeScript) (asVariants : Bool) (pointers : List Pointer)
    (landing : Landing) (engine : Engine) :
    ∃ outcome, runFrom (view script asVariants pointers landing) engine = (outcome, engine) := by
  rcases readArguments_unchanged (readForms script asVariants pointers) pointers engine
      with ⟨outcome, ran⟩
  unfold view
  cases outcome with
  | ok seen => exact ⟨_, runFrom_bind_of_ok ran _⟩
  | error failure => exact ⟨_, runFrom_bind_of_error ran _⟩

/-! What is written has landed. -/

variable {α : Type}

private theorem landed_payload {payload : Payload} {typeNumber : Int} {content : Held}
    (room : Number.IsSignedWord payload.slot) {blank : List UInt8}
    (isBlank : ReturnStorage.variant.IsBlank blank) :
    ReturnStorage.variant.Landed (Number.overwrite blank payload.bytes)
      [.slot payload.slot typeNumber content] := by
  rw [show blank = _ from isBlank, Number.overwrite_of_length_eq (by simp)]
  exact .slot (Payload.ofBytes_slot room)

private theorem landed_string {string : Int} {text : String}
    (room : Number.IsSignedWord string) {blank : List UInt8}
    (isBlank : ReturnStorage.nativeString.IsBlank blank) :
    ReturnStorage.nativeString.Landed (Number.overwrite blank (Number.wordBytes string))
      [.string string text] := by
  rw [show blank = _ from isBlank, Number.overwrite_of_length_eq (by simp)]
  apply ReturnStorage.Landed.string
  rw [Number.signedWordAt_wordBytes, Number.wrapSigned_of_isSignedWord room]

/-- A write where an owned result is expected leaves one resource, or it fails. -/
theorem writtenBytes_yields {storage : ReturnStorage} {form : WriteForm}
    (accepted : storage.accepts form = true) (owned : storage.isOwned = true)
    (pointers : List Pointer) {engine : Engine} (room : Number.IsSignedWord engine.next) :
    (∃ bytes after resource, (writtenBytes pointers form).Yields engine (.ok bytes) after
      [resource] 1 ∧ ∀ blank, storage.IsBlank blank →
        storage.Landed (Number.overwrite blank bytes) [resource]) ∨
    ∃ failure, (writtenBytes pointers form).Yields engine (.error failure) engine [] 0 := by
  cases storage with
  | variant =>
      cases form with
      | refused failure => exact .inr ⟨failure, .of_unchanged rfl⟩
      | variant typeNumber content =>
          refine .inl ⟨_, _, .slot engine.next typeNumber content, ⟨rfl, ?_, ?_⟩, fun blank =>
            landed_payload room⟩
          · exact (Engine.Leaves.newSlot engine typeNumber content).noted rfl
          · exact (engine.quiet_withSlot typeNumber content).trans (Engine.quiet_noted _ rfl rfl)
      | nil =>
          exact .inl ⟨_, _, _, (newNil_yields engine).bind (.of_unchanged rfl), fun blank =>
            landed_payload room⟩
      | copyArgument index =>
          cases named : Pointer.at? pointers index with
          | none =>
              refine .inr ⟨.indexOutOfRange, .of_unchanged ?_⟩
              simp only [writtenBytes, named]
              rfl
          | some pointer =>
              rw [show writtenBytes pointers (.copyArgument index) =
                (newCopy (Payload.ofBytes (pointer.content?.getD [])) >>= fun payload =>
                  pure payload.bytes) by simp only [writtenBytes, named]]
              cases found : engine.content? (Payload.ofBytes (pointer.content?.getD [])).slot with
              | none => exact .inr ⟨_, (newCopy_of_none found).bind_error⟩
              | some content =>
                  exact .inl ⟨_, _, _, (newCopy_yields found).bind (.of_unchanged rfl),
                    fun blank => landed_payload room⟩
      | _ => cases accepted
  | nativeString =>
      cases form with
      | refused failure => exact .inr ⟨failure, .of_unchanged rfl⟩
      | string text =>
          refine .inl ⟨_, _, .string engine.next text, ⟨rfl, ?_, ?_⟩, fun blank =>
            landed_string room⟩
          · exact (Engine.Leaves.newString engine text).noted rfl
          · exact (engine.quiet_withString text).trans (Engine.quiet_noted _ rfl rfl)
      | _ => cases accepted
  | _ => cases owned

/-- A write where any other result is expected leaves nothing. -/
theorem writtenBytes_unchanged {storage : ReturnStorage} {form : WriteForm}
    (accepted : storage.accepts form = true) (plain : storage.isOwned = false)
    (expected : storage ≠ .none) (pointers : List Pointer) (engine : Engine) :
    ∃ outcome, runFrom (writtenBytes pointers form) engine = (outcome, engine) := by
  cases storage with
  | none => exact absurd rfl expected
  | variant | nativeString => cases plain
  | _ =>
      cases form with
      | string | variant | nil | copyArgument => cases accepted
      | _ => exact ⟨_, rfl⟩

theorem writeAll_nil (pointers : List Pointer) (landing : List UInt8) (engine : Engine) :
    (writeAll pointers [] landing).run engine = (⟨.ok (), landing⟩, engine) := rfl

theorem writeAll_of_ok {pointers : List Pointer} {form : WriteForm} {engine after : Engine}
    {bytes : List UInt8}
    (written : runFrom (writtenBytes pointers form) engine = (.ok bytes, after))
    (forms : List WriteForm) (landing : List UInt8) :
    (writeAll pointers (form :: forms) landing).run engine =
      (writeAll pointers forms (Number.overwrite landing bytes)).run after := by
  change (writtenBytes pointers form).run.run engine = _ at written
  rw [writeAll, StateT.run_bind, written]
  rfl

theorem writeAll_of_error {pointers : List Pointer} {form : WriteForm} {engine after : Engine}
    {failure : Failure}
    (written : runFrom (writtenBytes pointers form) engine = (.error failure, after))
    (forms : List WriteForm) (landing : List UInt8) :
    (writeAll pointers (form :: forms) landing).run engine =
      (⟨.error failure, landing⟩, after) := by
  change (writtenBytes pointers form).run.run engine = _ at written
  rw [writeAll, StateT.run_bind, written]
  rfl

/-- A callable that fits leaves what has landed, and nothing else. -/
theorem writeAll_lands {script : NativeScript} {storage : ReturnStorage}
    (fits : script.Fits storage) (expected : storage ≠ .none) {blank : List UInt8}
    (isBlank : storage.IsBlank blank) (pointers : List Pointer) {engine : Engine}
    (room : Number.IsSignedWord engine.next) :
    ∃ written after left, (writeAll pointers script.writes blank).run engine = (written, after) ∧
      engine.Leaves after left 1 ∧ engine.Quiet after ∧ storage.Landed written.landing left := by
  rcases fits with ⟨single, accepted⟩
  rcases writes : script.writes with _ | ⟨form, _ | ⟨second, rest⟩⟩
  · exact ⟨_, _, [], writeAll_nil pointers blank engine,
      (Engine.Leaves.refl engine).weaken (by omega), .refl engine, isBlank.landed⟩
  · have formAccepted := accepted form (by simp [writes])
    cases owned : storage.isOwned with
    | true =>
        rcases writtenBytes_yields formAccepted owned pointers room with
          ⟨bytes, after, resource, yields, landed⟩ | ⟨failure, yields⟩
        · exact ⟨_, after, [resource], writeAll_of_ok yields.ran [] blank, yields.leaves,
            yields.quiet, landed blank isBlank⟩
        · exact ⟨_, engine, [], writeAll_of_error yields.ran [] blank,
            yields.leaves.weaken (by omega), yields.quiet, isBlank.landed⟩
    | false =>
        rcases writtenBytes_unchanged formAccepted owned expected pointers engine
            with ⟨outcome, ran⟩
        have unchanged : engine.Leaves engine [] 1 := (Engine.Leaves.refl engine).weaken (by omega)
        cases outcome with
        | ok bytes =>
            exact ⟨_, engine, [], writeAll_of_ok ran [] blank, unchanged, .refl engine,
              .plain owned⟩
        | error failure =>
            exact ⟨_, engine, [], writeAll_of_error ran [] blank, unchanged, .refl engine,
              .plain owned⟩
  · rw [writes] at single
    simp at single

end Native

namespace ReturnStorage

/-- The address of a result before a call: there is one unless nothing is to be returned. -/
structure Open (storage : ReturnStorage) (landing : Landing) : Prop where
  none_iff : landing = Option.none ↔ storage = .none
  blank : ∀ bytes, landing = some bytes → storage.IsBlank bytes

/-- What has landed, where there is an address. -/
def Lands (storage : ReturnStorage) (landing : Landing) (left : List Resource) : Prop :=
  storage.Landed (landing.getD []) left

theorem Open.lands {storage : ReturnStorage} {landing : Landing} (opened : storage.Open landing) :
    storage.Lands landing [] := by
  cases landing with
  | none => exact opened.none_iff.mp rfl ▸ .plain rfl
  | some blank => exact (opened.blank blank rfl).landed

end ReturnStorage

namespace Native

/-- What a callable comes to once it has written. -/
def concluded (script : NativeScript) (written : Except Failure Unit) : Except Failure Unit :=
  match written, script.failure with
  | .ok (), some message => .error (.engineFailure message)
  | outcome, _ => outcome

theorem perform_none (script : NativeScript) (pointers : List Pointer) (engine : Engine) :
    (perform script pointers none).run engine =
      ((concluded script (.ok ()), none), engine) := by
  unfold perform concluded
  cases script.failure <;> rfl

theorem perform_some {script : NativeScript} {pointers : List Pointer} {bytes : List UInt8}
    {engine after : Engine} {written : Written Unit}
    (wrote : (writeAll pointers script.writes bytes).run engine = (written, after)) :
    (perform script pointers (some bytes)).run engine =
      ((concluded script written.outcome, some written.landing), after) := by
  unfold perform concluded
  simp only [pure_bind, StateT.run_bind, wrote]
  rcases written with ⟨_ | _, landing⟩ <;> cases script.failure <;> rfl

/-- Work that comes to an outcome and a landing, with the resources that it leaves. -/
structure Settles (work : StateM Engine (Except Failure α × Landing)) (storage : ReturnStorage)
    (before : Engine) (outcome : Except Failure α) (landed : Landing) (after : Engine)
    (left : List Resource) : Prop where
  ran : work.run before = ((outcome, landed), after)
  leaves : before.Leaves after left 1
  nils : after.releases 0 = before.releases 0
  landed : storage.Lands landed left

section

variable {script : NativeScript} {storage : ReturnStorage} {pointers : List Pointer}
  {landing : Landing} {engine : Engine}

theorem perform_settles (fits : script.Fits storage) (opened : storage.Open landing)
    (pointers : List Pointer) (room : Number.IsSignedWord engine.next) :
    ∃ outcome landed after left,
      Settles (perform script pointers landing) storage engine outcome landed after left := by
  cases landing with
  | none =>
      exact ⟨_, none, engine, [], perform_none script pointers engine,
        (Engine.Leaves.refl engine).weaken (by omega), rfl, opened.lands⟩
  | some blank =>
      have expected : storage ≠ .none := fun nothing => by cases opened.none_iff.mpr nothing
      rcases writeAll_lands fits expected (opened.blank blank rfl) pointers room
          with ⟨written, after, left, wrote, leaves, quiet, landed⟩
      exact ⟨_, _, after, left, perform_some wrote, leaves, quiet.nils, landed⟩

theorem enter_of_view {asVariants : Bool} {event : CallView → Event} {seen : CallView}
    (looked : runFrom (view script asVariants pointers landing) engine = (.ok seen, engine)) :
    (enter script asVariants pointers landing event).run engine =
      (perform script pointers landing).run (engine.noted (event seen)) := by
  change (view script asVariants pointers landing).run.run engine = _ at looked
  rw [enter, StateT.run_bind, looked]
  rfl

theorem enter_of_blind {asVariants : Bool} {event : CallView → Event} {failure : Failure}
    (looked : runFrom (view script asVariants pointers landing) engine =
      (.error failure, engine)) :
    (enter script asVariants pointers landing event).run engine =
      ((.error failure, landing), engine) := by
  change (view script asVariants pointers landing).run.run engine = _ at looked
  rw [enter, StateT.run_bind, looked]
  rfl

/-- Entering a callable leaves what has landed, whether it comes to writing or not. -/
theorem enter_settles (fits : script.Fits storage) (opened : storage.Open landing)
    (pointers : List Pointer) (room : Number.IsSignedWord engine.next) (asVariants : Bool)
    (event : CallView → Event)
    (keeps : ∀ seen, (event seen).released? = none) :
    ∃ outcome landed after left,
      Settles (enter script asVariants pointers landing event) storage engine outcome landed after
        left := by
  rcases view_unchanged script asVariants pointers landing engine with ⟨looked, viewed⟩
  cases looked with
  | error failure =>
      exact ⟨_, _, engine, [], enter_of_blind viewed,
        (Engine.Leaves.refl engine).weaken (by omega), rfl, opened.lands⟩
  | ok seen =>
      have noted : engine.Leaves (engine.noted (event seen)) [] 0 :=
        (Engine.Leaves.refl engine).noted (keeps seen)
      have nils : (engine.noted (event seen)).releases 0 = engine.releases 0 := by
        rw [Engine.releases_noted, keeps seen, if_neg (by simp), Nat.add_zero]
      have still : Number.IsSignedWord (engine.noted (event seen)).next := room
      rcases perform_settles fits opened pointers still
          with ⟨outcome, landed, after, left, performed⟩
      exact ⟨outcome, landed, after, left, {
        ran := (enter_of_view viewed).trans performed.ran
        leaves := by simpa using noted.trans performed.leaves
        nils := performed.nils.trans nils
        landed := performed.landed }⟩

/-! The three ways of calling a callable differ in what they report, and not in what they do. -/

/-- The outcome and the landing of entering a callable, with what is reported in a success. -/
def reported {β : Type} (report : β)
    (entered : (Except Failure Unit × Landing) × Engine) : (Except Failure β × Landing) × Engine :=
  ((entered.1.1.map fun _ => report, entered.1.2), entered.2)

/-- The call error that a callable reports, where it can. -/
def reportedError (script : NativeScript) : CallError where
  error := Number.wrapSignedShort script.error.error
  argument := Number.wrapSignedShort script.error.argument
  expected := Number.wrapSignedShort script.error.expected

theorem pointerCall_run {bind : Nat} (found : engine.scripts.lookup bind = some script)
    (target : Document) (pointers : List Pointer) (landing : Landing) :
    (pointerCall bind target pointers landing).run engine =
      reported CallError.ok
        ((enter script false pointers landing (.pointerCall bind target)).run engine) := by
  simp only [pointerCall, StateT.run_bind, StateT.run_get, pure_bind, found]
  rfl

theorem variantCall_run {bind : Nat} (found : engine.scripts.lookup bind = some script)
    (target : Document) (pointers : List Pointer) (landing : Landing) :
    (variantCall bind target pointers landing).run engine =
      reported (reportedError script)
        ((enter script true pointers landing (.variantCall bind target pointers.length)).run
          engine) := by
  simp only [variantCall, StateT.run_bind, StateT.run_get, pure_bind, found]
  rfl

theorem pointerCall_of_none {bind : Nat} (unknown : engine.scripts.lookup bind = none)
    (target : Document) (pointers : List Pointer) (landing : Landing) :
    (pointerCall bind target pointers landing).run engine =
      ((.error .noSuchKey, landing), engine) := by
  simp only [pointerCall, StateT.run_bind, StateT.run_get, pure_bind, unknown]
  rfl

theorem variantCall_of_none {bind : Nat} (unknown : engine.scripts.lookup bind = none)
    (target : Document) (pointers : List Pointer) (landing : Landing) :
    (variantCall bind target pointers landing).run engine =
      ((.error .noSuchKey, landing), engine) := by
  simp only [variantCall, StateT.run_bind, StateT.run_get, pure_bind, unknown]
  rfl

theorem utilityCall_run (name : Document) (script : NativeScript) (pointers : List Pointer)
    (landing : Landing) (engine : Engine) :
    (utilityCall name script pointers landing).run engine =
      reported CallError.ok
        ((enter script script.isVararg pointers landing
          (.utilityCall name pointers.length)).run engine) := rfl

theorem Settles.reported {work : StateM Engine (Except Failure Unit × Landing)} {β : Type}
    {report : β} {other : StateM Engine (Except Failure β × Landing)} {before after : Engine}
    {outcome : Except Failure Unit} {landed : Landing} {left : List Resource}
    (settles : Settles work storage before outcome landed after left)
    (ran : other.run before = reported report (work.run before)) :
    Settles other storage before (outcome.map fun _ => report) landed after left where
  ran := by
    rw [ran, settles.ran]
    rfl
  leaves := settles.leaves
  nils := settles.nils
  landed := settles.landed

end

end Native

end EngineBridge
