import EngineBridge.Proofs.Engine.Calls

/-!
What every action of an engine leaves as it is.

An action may make and release slots and strings, but what an engine answers to look-ups stays as it
is, and what it was asked for is never forgotten. Only the look-ups of callables ask for callables,
and only calls enter them: any other action leaves silence.
-/

namespace EngineBridge

/-- Whether an engine was asked for a callable. -/
def Event.isLookup : Event → Bool
  | .methodLookup .. | .utilityLookup .. => true
  | _ => false

namespace Engine

/-- The look-ups of callables so far. -/
def lookups (engine : Engine) : List Event :=
  engine.events.filter Event.isLookup

/-- Whether an engine answers to look-ups as before and remembers what it was asked for. -/
structure Grows (before after : Engine) : Prop where
  register : before.SameRegister after
  events : before.events <+: after.events

/-- Whether an engine has grown and was asked for no callable. -/
structure Continues (before after : Engine) : Prop extends before.Grows after where
  lookups : after.lookups = before.lookups

/-- Silence between two states of an engine: it has grown, it was asked for no callable, and none
was entered in it. -/
structure Silence (before after : Engine) : Prop extends before.Continues after where
  calls : after.calls = before.calls

/-- What an engine holds and counts may change freely. -/
theorem silence_holding (engine : Engine) (slots : List (Int × Int × Held))
    (strings : List (Int × String)) (next : Int) (fromLookups toLookups : Nat) :
    engine.Silence { engine with slots, strings, next, fromLookups, toLookups } where
  register := ⟨rfl, rfl, rfl, rfl, rfl⟩
  events := List.prefix_rfl
  lookups := rfl
  calls := rfl

theorem grows_noted (engine : Engine) (event : Event) : engine.Grows (engine.noted event) :=
  ⟨⟨rfl, rfl, rfl, rfl, rfl⟩, List.prefix_append _ _⟩

theorem lookups_noted (engine : Engine) (event : Event) :
    (engine.noted event).lookups = engine.lookups ++ [event].filter Event.isLookup :=
  List.filter_append _ _

theorem continues_noted (engine : Engine) {event : Event} (other : event.isLookup = false) :
    engine.Continues (engine.noted event) where
  toGrows := engine.grows_noted event
  lookups := by simp [lookups_noted, other]

theorem silence_noted (engine : Engine) {event : Event} (other : event.isLookup = false)
    (stays : event.isCall = false) : engine.Silence (engine.noted event) where
  toContinues := engine.continues_noted other
  calls := by simp [calls, noted, stays]

instance : IsPreorder Engine Grows where
  refl engine := ⟨.refl engine, List.prefix_rfl⟩
  trans _ _ _ left right :=
    ⟨left.register.trans right.register, left.events.trans right.events⟩

instance : IsPreorder Engine Continues where
  refl engine := ⟨refl_of Grows engine, rfl⟩
  trans _ _ _ left right :=
    ⟨trans_of Grows left.toGrows right.toGrows, right.lookups.trans left.lookups⟩

instance : IsPreorder Engine Silence where
  refl engine := ⟨refl_of Continues engine, rfl⟩
  trans _ _ _ left right :=
    ⟨trans_of Continues left.toContinues right.toContinues, right.calls.trans left.calls⟩

end Engine

namespace Native

/-- Whether an action only adds to what an engine has. -/
def Growing {α : Type} (action : Native α) : Prop :=
  Advances Engine.Grows action

/-- Whether an action besides asks for no callable and enters none. -/
def Silent {α : Type} (action : Native α) : Prop :=
  Advances Engine.Silence action

theorem happen_growing (event : Event) : Growing (happen event) :=
  .modify fun engine => engine.grows_noted event

theorem happen_silent {event : Event} (other : event.isLookup = false)
    (stays : event.isCall = false) : Silent (happen event) :=
  .modify fun engine => engine.silence_noted other stays

theorem lookUpMethod_growing (className methodName key : Document) :
    Growing (lookUpMethod className methodName key) :=
  .bind (.lift _) fun _ => .bind (.lift _) fun _ => .bind (.lift _) fun _ => .bind .get fun _ =>
    .bind (happen_growing _) fun _ => .pure _

theorem lookUpUtility_growing (name key : Document) : Growing (lookUpUtility name key) :=
  .bind .get fun _ => .bind (.lift _) fun _ => .bind (.lift _) fun _ =>
    .bind (happen_growing _) fun _ => .pure _

/-! Every other action is silent, but for calls. -/

theorem newSlot_silent (typeNumber : Int) (content : Held) :
    Silent (newSlot typeNumber content) :=
  fun engine => engine.silence_holding ..

theorem newString_silent (text : String) : Silent (newString text) :=
  fun engine => engine.silence_holding ..

theorem load_silent (payload : Payload) : Silent (load payload) := by
  unfold load
  split
  · exact .pure _
  · refine .bind .get fun engine => ?_
    cases engine.slot? payload.slot with
    | some content => exact .pure content
    | none => exact .throw _

theorem newNil_silent : Silent newNil :=
  .bind (newSlot_silent _ _) fun _ => .bind (happen_silent rfl rfl) fun _ => .pure _

theorem newCopy_silent (source : Payload) : Silent (newCopy source) :=
  .bind (load_silent source) fun _ => .bind (newSlot_silent _ _) fun _ =>
    .bind (happen_silent rfl rfl) fun _ => .pure _

theorem destroy_silent (payload : Payload) : Silent (destroy payload) := by
  refine .bind (happen_silent rfl rfl) fun _ => ?_
  split
  · exact .pure _
  · refine .bind .get fun engine => ?_
    split
    · exact .modify fun engine => engine.silence_holding ..
    · exact .throw _

theorem stringDestroy_silent (string : Int) : Silent (stringDestroy string) := by
  refine .bind (happen_silent rfl rfl) fun _ => ?_
  split
  · exact .pure _
  · refine .bind .get fun engine => ?_
    split
    · exact .modify fun engine => engine.silence_holding ..
    · exact .throw _

theorem getType_silent (payload : Payload) : Silent (getType payload) :=
  .bind (happen_silent rfl rfl) fun _ => .bind (load_silent payload) fun _ => .pure _

theorem evaluateEqual_silent (left right : Payload) :
    Silent (evaluateEqual left right) := by
  refine .bind (load_silent left) fun _ => .bind (load_silent right) fun _ =>
    .bind .get fun _ => .bind (newSlot_silent _ _) fun _ =>
      .bind (happen_silent rfl rfl) fun _ => ?_
  split
  · exact .pure _
  · exact .throw _

theorem hash_silent (payload : Payload) : Silent (hash payload) :=
  .bind (happen_silent rfl rfl) fun _ => .bind (load_silent payload) fun _ => .pure _

theorem stringify_silent (payload : Payload) : Silent (stringify payload) :=
  .bind (load_silent payload) fun _ => .bind (newString_silent _) fun _ =>
    .bind (happen_silent rfl rfl) fun _ => .pure _

theorem stringNew_silent (data : List UInt8) : Silent (stringNew data) :=
  .bind (.lift _) fun text => .bind (newString_silent text) fun _ =>
    .bind (happen_silent rfl rfl) fun _ => .pure _

theorem stringRead_silent (string : Int) (hasBuffer : Bool) (maxLength : Nat) :
    Silent (stringRead string hasBuffer maxLength) :=
  .bind (happen_silent rfl rfl) fun _ => .bind .get fun _ => .pure _

theorem fromType_silent (gtype : GType) (source : List UInt8) :
    Silent (fromType gtype source) :=
  .bind .get fun _ => .bind (newSlot_silent _ _) fun _ =>
    .bind (happen_silent rfl rfl) fun _ => .pure _

theorem writeTyped_silent (gtype : GType) (content : Held) :
    Silent (writeTyped gtype content) := by
  unfold writeTyped
  split
  · exact .bind (.lift _) fun _ => .pure _
  · exact .lift _
  · split
    · exact .pure _
    · split
      · exact .bind (.lift _) fun _ => .pure _
      · exact .throw _
  · exact .bind (newString_silent _) fun _ => .pure _
  · split
    · exact .pure _
    · exact .lift _
  · split
    · exact .pure _
    · exact .throw _

theorem toType_silent (gtype : GType) (payload : Payload) :
    Silent (toType gtype payload) := by
  refine .bind (load_silent payload) fun found => .bind (happen_silent rfl rfl) fun _ => ?_
  split
  · exact writeTyped_silent gtype found.2
  · exact .pure _

theorem lookUpConstructors_silent : Silent lookUpConstructors :=
  .bind (happen_silent rfl rfl) fun _ =>
    .bind (.modify fun engine => engine.silence_holding ..) fun _ =>
      .bind .get fun _ => .pure _

theorem writtenBytes_silent (pointers : List Pointer) (form : WriteForm) :
    Silent (writtenBytes pointers form) := by
  unfold writtenBytes
  split
  · exact .pure _
  · exact .pure _
  · exact .pure _
  · exact .bind (newString_silent _) fun _ => .bind (happen_silent rfl rfl) fun _ => .pure _
  · exact .pure _
  · exact .pure _
  · exact .bind (newSlot_silent _ _) fun _ => .bind (happen_silent rfl rfl) fun _ => .pure _
  · exact .bind newNil_silent fun _ => .pure _
  · split
    · exact .bind (newCopy_silent _) fun _ => .pure _
    · exact .throw _
  · exact .throw _

/-! What is run for its state alone. -/

theorem writeAll_silence (pointers : List Pointer) (forms : List WriteForm) (landing : List UInt8)
    (engine : Engine) : engine.Silence ((writeAll pointers forms landing).run engine).2 := by
  induction forms generalizing landing engine with
  | nil => exact refl_of Engine.Silence engine
  | cons form forms induction =>
      have kept := writtenBytes_silent pointers form engine
      rcases ran : runFrom (writtenBytes pointers form) engine with ⟨outcome, after⟩
      rw [ran] at kept
      cases outcome with
      | ok bytes =>
          rw [writeAll_of_ok ran]
          exact trans_of Engine.Silence kept (induction _ after)
      | error failure =>
          rw [writeAll_of_error ran]
          exact kept

theorem perform_silence (script : NativeScript) (pointers : List Pointer) (landing : Landing)
    (engine : Engine) : engine.Silence ((perform script pointers landing).run engine).2 := by
  cases landing with
  | none =>
      rw [perform_none]
      exact refl_of Engine.Silence engine
  | some bytes =>
      have kept := writeAll_silence pointers script.writes bytes engine
      rcases wrote : (writeAll pointers script.writes bytes).run engine with ⟨written, after⟩
      rw [wrote] at kept
      rw [perform_some wrote]
      exact kept

theorem enter_continues (script : NativeScript) (asVariants : Bool) (pointers : List Pointer)
    (landing : Landing) {event : CallView → Event}
    (other : ∀ seen, (event seen).isLookup = false) (engine : Engine) :
    engine.Continues ((enter script asVariants pointers landing event).run engine).2 := by
  rcases view_unchanged script asVariants pointers landing engine with ⟨looked, viewed⟩
  cases looked with
  | error failure =>
      rw [enter_of_blind viewed]
      exact refl_of Engine.Continues engine
  | ok seen =>
      rw [enter_of_view viewed]
      exact trans_of Engine.Continues (engine.continues_noted (other seen))
        (perform_silence script pointers landing _).toContinues

theorem pointerCall_continues (bind : Nat) (target : Document) (pointers : List Pointer)
    (landing : Landing) (engine : Engine) :
    engine.Continues ((pointerCall bind target pointers landing).run engine).2 := by
  cases found : engine.scripts.lookup bind with
  | none =>
      rw [pointerCall_of_none found]
      exact refl_of Engine.Continues engine
  | some script =>
      rw [pointerCall_run found]
      exact enter_continues script false pointers landing (fun _ => rfl) engine

theorem variantCall_continues (bind : Nat) (target : Document) (pointers : List Pointer)
    (landing : Landing) (engine : Engine) :
    engine.Continues ((variantCall bind target pointers landing).run engine).2 := by
  cases found : engine.scripts.lookup bind with
  | none =>
      rw [variantCall_of_none found]
      exact refl_of Engine.Continues engine
  | some script =>
      rw [variantCall_run found]
      exact enter_continues script true pointers landing (fun _ => rfl) engine

theorem utilityCall_continues (name : Document) (script : NativeScript) (pointers : List Pointer)
    (landing : Landing) (engine : Engine) :
    engine.Continues ((utilityCall name script pointers landing).run engine).2 :=
  enter_continues script script.isVararg pointers landing (fun _ => rfl) engine

end Native

end EngineBridge
