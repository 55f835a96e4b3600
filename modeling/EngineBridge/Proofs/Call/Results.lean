import EngineBridge.Proofs.Call.Prepared
import EngineBridge.Proofs.Plan.Compiled
import EngineBridge.Proofs.Session.Readers

/-!
What becomes of a result.

A result that has to be released is released exactly once, whether its call failed or its value was
taken from it, unless it is adopted as it is.
-/

namespace EngineBridge

open Bridge

variable {α : Type} {name : String}

namespace Engine

variable {before after : Engine} {left : List Resource} {numbers : Nat}

/-- Releasing number zero counts, but it takes nothing out. -/
theorem Leaves.notedNil (leaves : before.Leaves after left numbers) {event : Event}
    (nil : event.released? = some 0) : before.Leaves (after.noted event) left numbers where
  slots := leaves.slots
  strings := leaves.strings
  rising := leaves.rising
  bounded := leaves.bounded
  distinct := leaves.distinct
  created := leaves.created
  released number nonzero := by
    rw [releases_noted, nil, if_neg (by simpa using nonzero.symm)]
    exact leaves.released number nonzero
  log := leaves.log.trans (List.prefix_append _ _)
  register := leaves.register.trans ⟨rfl, rfl, rfl, rfl, rfl⟩

end Engine

namespace ReturnStorage

/-- The number that an owned result holds; zero if it was not written. -/
def heldNumber? : ReturnStorage → List UInt8 → Option Int
  | .variant, bytes => some (Payload.ofBytes bytes).slot
  | .nativeString, bytes => some (Number.signedWordAt bytes 0)
  | _, _ => Option.none

theorem heldNumber?_of_plain {storage : ReturnStorage} (plain : storage.isOwned = false)
    (bytes : List UInt8) : storage.heldNumber? bytes = Option.none := by
  cases storage with
  | variant | nativeString => cases plain
  | _ => rfl

end ReturnStorage

namespace ReturnStep

/-- What becomes of a result: it is adopted as it is, something is taken from it and it is released,
or there is nothing to release. -/
inductive Treats (step : ReturnStep) : Prop
  | adopted (storage : step.storage = .variant) (conversion : step.conversion = .identity)
  | unboxed (storage : step.storage = .variant) (conversion : step.conversion = .fromVariant)
  | described (storage : step.storage = .nativeString)
      (conversion : step.conversion = .stringDescription)
  | plain (storage : step.storage.isOwned = false) (notUnboxed : step.conversion ≠ .fromVariant)
      (notDescribed : step.conversion ≠ .stringDescription)

theorem treats_returnStep (takesExtras : Bool) (typeName : String) (typeClass : TypeClass) :
    (PlanCompiler.returnStep takesExtras typeName typeClass).Treats := by
  unfold PlanCompiler.returnStep
  cases takesExtras with
  | true =>
      by_cases boxed : typeName = variantType
      · simp only [if_pos boxed]
        exact .adopted rfl rfl
      · simp only [if_neg boxed]
        exact .unboxed rfl rfl
  | false =>
      by_cases boxed : typeName = variantType
      · simp only [if_pos boxed]
        exact .adopted rfl rfl
      · simp only [if_neg boxed]
        cases typeClass with
        | typedArray element size => exact .plain rfl nofun nofun
        | _ =>
            by_cases text : typeName = stringType
            · simp only [if_pos text]
              exact .described rfl rfl
            · simp only [if_neg text]
              exact .plain rfl nofun nofun

/-- A compiled step treats its result in one of these ways. -/
theorem treats_of_isReturnStep {compiler : PlanCompiler} {draft : MethodDraft} {step : ReturnStep}
    (compiled : compiler.IsReturnStep draft step) : step.Treats := by
  unfold PlanCompiler.IsReturnStep at compiled
  cases given : draft.returnValue with
  | none =>
      rw [given] at compiled
      rw [compiled]
      exact .plain rfl nofun nofun
  | some result =>
      rw [given] at compiled
      rcases compiled with ⟨typeName, typeClass, -, rfl⟩
      exact treats_returnStep draft.takesExtras typeName typeClass

private theorem open_some {storage : ReturnStorage} {bytes : List UInt8}
    (expected : storage ≠ .none) (blank : storage.IsBlank bytes) : storage.Open (some bytes) where
  none_iff := ⟨nofun, fun nothing => absurd nothing expected⟩
  blank other same := by
    cases same
    exact blank

/-- The address of a result before a call is as its storage wants it. -/
theorem open_of_landing {step : ReturnStep} {landing : Landing}
    (opened : step.landing = .ok landing) : step.storage.Open landing := by
  rcases step with ⟨typeClass, storage, conversion, default, passContent⟩
  cases storage with
  | none =>
      cases opened
      exact ⟨⟨fun _ => rfl, fun _ => rfl⟩, nofun⟩
  | variant | nativeString | handle | intEnum =>
      cases opened
      exact open_some nofun (by trivial)
  | typedArray =>
      rcases typeClass with _ | typeClass
      · cases opened
      · cases typeClass with
        | typedArray element size =>
            rcases exists_of_bind_eq_ok opened with ⟨bytes, -, opened⟩
            cases opened
            exact open_some nofun trivial
        | _ => cases opened
  | value =>
      rcases typeClass with _ | typeClass
      · cases opened
      · cases typeClass with
        | builtin typeName size =>
            rcases exists_of_bind_eq_ok opened with ⟨bytes, -, opened⟩
            cases opened
            exact open_some nofun trivial
        | primitive | enumeration =>
            cases opened
            exact open_some nofun trivial
        | _ => cases opened

end ReturnStep

namespace Bridge

/-- A release of what has landed. -/
structure ReleasesLanding (storage : ReturnStorage) (bytes : List UInt8)
    (start last after : Attached name) (numbers : Nat) : Prop where
  ran : runFrom (releaseLanding storage bytes) last.session = (.ok (), after.session)
  leaves : start.engine.Leaves after.engine [] numbers
  nils : after.engine.releases 0 =
    last.engine.releases 0 + if storage.heldNumber? bytes = some 0 then 1 else 0
  rising : last.engine.next ≤ after.engine.next
  keeps : last.session.Keeps after.session name

section

variable {start last : Attached name} {storage : ReturnStorage} {bytes : List UInt8}
  {left : List Resource} {numbers : Nat}

private theorem releasesLanding_of_resource {resource : Resource} {after : Attached name}
    (leaves : start.engine.Leaves last.engine ([] ++ resource :: []) numbers)
    (released : Releases (releaseLanding storage bytes) resource last after)
    (held : storage.heldNumber? bytes = some resource.number) :
    ReleasesLanding storage bytes start last after numbers where
  ran := released.ran
  leaves := by
    rw [released.engine]
    exact leaves.release start.numbered
  nils := by
    have nonzero := number_ne_zero leaves (List.mem_singleton_self resource)
    rw [held, if_neg (by simpa using nonzero), released.engine]
    exact (Engine.quiet_without _ nonzero).nils
  rising := by
    rw [released.engine]
    cases resource <;> exact Int.le_refl _
  keeps := released.keeps

private theorem releasesLanding_of_nil {action : Native Unit} {event : Event}
    (leaves : start.engine.Leaves last.engine [] numbers)
    (ran : runFrom action last.engine = (.ok (), last.engine.noted event))
    (nil : event.released? = some 0) (same : releaseLanding storage bytes = native action)
    (held : storage.heldNumber? bytes = some 0) :
    ∃ after : Attached name, ReleasesLanding storage bytes start last after numbers := by
  have noted := leaves.notedNil nil
  have numbered := noted.numbered start.numbered
  refine ⟨last.advance _ numbered rfl, ?_, noted, ?_, Int.le_refl _,
    last.keeps_advance _ numbered rfl⟩
  · rw [same]
    unfold native nativeOn
    rw [runFrom_bind_of_ok (installedEngine_run last),
      runFrom_bind_of_ok (runOn_run last action.run ran)]
    rfl
  · rw [held, if_pos rfl]
    exact (Engine.releases_noted last.engine event 0).trans (by rw [nil, if_pos rfl])

/-- Whatever has landed can be released. -/
theorem releaseLanding_releases (landed : storage.Landed bytes left)
    (leaves : start.engine.Leaves last.engine left numbers) :
    ∃ after : Attached name, ReleasesLanding storage bytes start last after numbers := by
  cases landed with
  | @slot _ number typeNumber content held =>
      subst held
      have placed : start.engine.Leaves last.engine
        ([] ++ .slot (Payload.ofBytes bytes).slot typeNumber content :: []) numbers := leaves
      rcases destroySlot_releases placed with ⟨after, released⟩
      exact ⟨after, releasesLanding_of_resource placed released
        (by rw [ReturnStorage.heldNumber?, Resource.number])⟩
  | noSlot held =>
      exact releasesLanding_of_nil leaves (Native.destroy_of_zero held) rfl rfl
        (by rw [ReturnStorage.heldNumber?, held])
  | @string _ number text held =>
      subst held
      have placed : start.engine.Leaves last.engine
        ([] ++ .string (Number.signedWordAt bytes 0) text :: []) numbers := leaves
      rcases destroyString_releases placed with ⟨after, released⟩
      exact ⟨after, releasesLanding_of_resource placed released
        (by rw [ReturnStorage.heldNumber?, Resource.number])⟩
  | noString held =>
      have zero : runFrom (Native.stringDestroy (Number.signedWordAt bytes 0)) last.engine =
          (.ok (), last.engine.noted (.stringDestroy 0)) := by
        rw [held]
        exact Native.stringDestroy_of_zero last.engine
      exact releasesLanding_of_nil leaves zero rfl rfl
        (by rw [ReturnStorage.heldNumber?, held])
  | plain plain =>
      refine ⟨last, ?_, leaves, ?_, Int.le_refl _, .refl last.session name⟩
      · cases storage with
        | variant | nativeString => cases plain
        | _ => rfl
      · rw [ReturnStorage.heldNumber?_of_plain plain, if_neg (by simp)]
        rfl

end

/-- How things stand when a result is gone: nothing of it is left, and if it was number zero this
was released once. -/
structure Gone (start : Attached name) (held? : Option Int) (after : Attached name)
    (numbers : Nat) : Prop where
  leaves : start.engine.Leaves after.engine [] numbers
  nils : after.engine.releases 0 =
    start.engine.releases 0 + if held? = some 0 then 1 else 0
  held : ∀ number, held? = some number →
    number = 0 ∨ (start.engine.next ≤ number ∧ number < after.engine.next)
  keeps : start.session.Keeps after.session name

/-- How things stand when a result has been adopted by a new owner. -/
structure Adopted (start : Attached name) (payload : Payload) (after : Attached name)
    (left : List Resource) (numbers : Nat) : Prop where
  leaves : start.engine.Leaves after.engine left numbers
  only : (payload.slot = 0 ∧ left = []) ∨
    ∃ typeNumber content, left = [.slot payload.slot typeNumber content]
  nils : after.engine.releases 0 = start.engine.releases 0
  variants : after.session.variants = start.session.variants ++ [⟨payload, true⟩]
  strings : after.session.strings = start.session.strings
  others : ∀ other, other ≠ name →
    after.session.engines.get? other = start.session.engines.get? other

/-- What has become of a result that held a number: it is gone, or the value that is returned owns
it. -/
inductive Disposed (start : Attached name) (held? : Option Int) (after : Attached name)
    (numbers : Nat) : Except Failure Value → Prop
  | gone {outcome : Except Failure Value} (gone : Gone start held? after numbers) :
      Disposed start held? after numbers outcome
  | adopted {payload : Payload} {left : List Resource} (held : held? = some payload.slot)
      (adopted : Adopted start payload after left numbers) :
      Disposed start held? after numbers (.ok (.variant start.session.variants.length))

theorem Disposed.weaken {start after : Attached name} {held? : Option Int} {numbers more : Nat}
    {outcome : Except Failure Value} (disposed : Disposed start held? after numbers outcome)
    (fits : numbers ≤ more) : Disposed start held? after more outcome := by
  cases disposed with
  | gone gone => exact .gone { gone with leaves := gone.leaves.weaken fits }
  | adopted held adopted =>
      exact .adopted held { adopted with leaves := adopted.leaves.weaken fits }

section

variable {start last : Attached name} {storage : ReturnStorage} {bytes : List UInt8}
  {left : List Resource} {numbers more : Nat}

/-- A session in which a result has landed since another. -/
structure HasLanded (storage : ReturnStorage) (bytes : List UInt8) (start last : Attached name)
    (left : List Resource) (numbers : Nat) : Prop where
  landed : storage.Landed bytes left
  leaves : start.engine.Leaves last.engine left numbers
  nils : last.engine.releases 0 = start.engine.releases 0
  keeps : start.session.Keeps last.session name

/-- What has landed is number zero, or it was made on the way. -/
theorem HasLanded.held (landing : HasLanded storage bytes start last left numbers) {number : Int}
    (held : storage.heldNumber? bytes = some number) :
    number = 0 ∨ (start.engine.next ≤ number ∧ number < last.engine.next) := by
  rcases landing with ⟨landed, leaves, nils, keeps⟩
  cases landed with
  | slot same =>
      rw [ReturnStorage.heldNumber?, same, Option.some.injEq] at held
      exact .inr (held ▸ leaves.created _ (List.mem_singleton_self _))
  | noSlot same =>
      rw [ReturnStorage.heldNumber?, same, Option.some.injEq] at held
      exact .inl held.symm
  | string same =>
      rw [ReturnStorage.heldNumber?, same, Option.some.injEq] at held
      exact .inr (held ▸ leaves.created _ (List.mem_singleton_self _))
  | noString same =>
      rw [ReturnStorage.heldNumber?, same, Option.some.injEq] at held
      exact .inl held.symm
  | plain plain =>
      rw [ReturnStorage.heldNumber?_of_plain plain] at held
      cases held

theorem HasLanded.release (landing : HasLanded storage bytes start last left numbers) :
    ∃ after : Attached name,
      runFrom (releaseLanding storage bytes) last.session = (.ok (), after.session) ∧
        Gone start (storage.heldNumber? bytes) after numbers := by
  rcases releaseLanding_releases landing.landed landing.leaves with ⟨after, released⟩
  refine ⟨after, released.ran, released.leaves, released.nils.trans (by rw [landing.nils]), ?_,
    landing.keeps.trans released.keeps⟩
  intro number held
  have rising := released.rising
  rcases landing.held held with zero | created
  · exact .inl zero
  · exact .inr (by omega)

theorem HasLanded.later (landing : HasLanded storage bytes start last left numbers)
    {operation : Bridge α} {outcome : Except Failure α} {middle : Attached name}
    (yields : operation.Yields last outcome middle [] more) :
    HasLanded storage bytes start middle left (numbers + more) where
  landed := landing.landed
  leaves := landing.leaves.trans yields.leaves
  nils := yields.quiet.nils.trans landing.nils
  keeps := landing.keeps.trans yields.keeps

/-- Taking something from a result and then releasing it leaves nothing. -/
theorem HasLanded.releasing (landing : HasLanded storage bytes start last left numbers)
    {operation : Bridge α} {outcome : Except Failure α} {middle : Attached name}
    (yields : operation.Yields last outcome middle [] more) :
    ∃ after : Attached name,
      runFrom (releasing operation (releaseLanding storage bytes)) last.session =
        (outcome, after.session) ∧
        Gone start (storage.heldNumber? bytes) after (numbers + more) := by
  rcases (landing.later yields).release with ⟨after, released, gone⟩
  exact ⟨after, runFrom_releasing yields.ran released, gone⟩

end

/-- A result that is not owned leaves nothing in any case. -/
theorem HasLanded.gone {start last : Attached name} {storage : ReturnStorage}
    {bytes : List UInt8} {left : List Resource} {numbers : Nat}
    (landing : HasLanded storage bytes start last left numbers)
    (plain : storage.isOwned = false) :
    Gone start (storage.heldNumber? bytes) last numbers := by
  have held : ∀ number, storage.heldNumber? bytes = some number → _ := fun _ => landing.held
  rcases landing with ⟨landed, leaves, nils, keeps⟩
  cases landed with
  | plain =>
      rw [ReturnStorage.heldNumber?_of_plain plain] at held ⊢
      exact ⟨leaves, nils, held, keeps⟩
  | _ => cases plain

/-- What has landed as a boxed value can be read. -/
theorem HasLanded.content {start last : Attached name} {bytes : List UInt8}
    {left : List Resource} {numbers : Nat}
    (landing : HasLanded .variant bytes start last left numbers) :
    ∃ typeNumber content,
      last.engine.content? (Payload.ofBytes bytes).slot = some (typeNumber, content) := by
  rcases landing with ⟨landed, leaves, nils, keeps⟩
  cases landed with
  | @slot _ number typeNumber content held =>
      subst held
      exact ⟨typeNumber, content, Engine.content?_of_slot? last.numbered
        (leaves.slot?_of_mem (List.mem_singleton_self _))⟩
  | noSlot held => exact ⟨0, .nothing, by rw [Engine.content?, if_pos held]; rfl⟩
  | plain plain => cases plain

/-! Taking something from a boxed result leaves nothing, whatever it comes to. -/

section

variable {place : Attached name} {payload : Payload} {typeNumber : Int} {content : Held}

theorem toNative_unchanged {gtype : GType} (plain : IsPlainType gtype)
    (found : place.engine.content? payload.slot = some ((gtype.number : Int), content)) :
    ∃ (outcome : Except Failure (List UInt8)) (after : Attached name),
      (toNative gtype.number (pure payload)).Yields place outcome after [] 0 := by
  cases present : place.engine.missing.contains (gtype.number : Int) with
  | true => exact ⟨_, toNative_of_missing plain.notNil plain.notMax present⟩
  | false =>
      rcases Native.writeTyped_unchanged plain.notString content with ⟨outcome, -, written⟩
      refine ⟨outcome, toNative_yields plain.notNil plain.notMax present
        (place.addresses_pure payload) fun engine leaves => ?_⟩
      rw [← Engine.content?_of_leaves leaves] at found
      exact ⟨_, Native.toType_of_written found written⟩

theorem objectIn_yields (types : ResultTypes) (className : String)
    (found : place.engine.content? payload.slot = some (typeNumber, content)) :
    ∃ (outcome : Except Failure Value) (after : Attached name),
      (objectIn types className payload).Yields place outcome after [] 0 := by
  rcases typeOf_yields (place.addresses_pure payload) found with ⟨middle, typed⟩
  unfold objectIn
  by_cases named : typeNamed typeNumber = .object
  · rw [number_of_typeNamed (by decide) named,
      ← Engine.content?_of_leaves typed.leaves] at found
    rcases toNative_unchanged isPlainType_object found with ⟨outcome, after, native⟩
    cases outcome with
    | error failure =>
        refine ⟨.error failure, after, typed.nothing_bind ?_⟩
        rw [named, if_pos BEq.rfl]
        exact native.bind_error
    | ok bytes =>
        refine ⟨types.object (Number.wordAt bytes 0) className, after, typed.nothing_bind ?_⟩
        rw [named, if_pos BEq.rfl]
        exact native.nothing_bind (lift_yields after _)
  · refine ⟨.ok .nothing, middle, typed.nothing_bind ?_⟩
    rw [if_neg (by simpa using named)]
    exact .of_unchanged rfl

theorem memberIn_yields (types : ResultTypes) (base : String)
    (found : place.engine.content? payload.slot = some (typeNumber, content)) :
    ∃ (outcome : Except Failure Value) (after : Attached name),
      (do types.member base ((← readInt (pure payload)).getD 0) : Bridge Value).Yields place
        outcome after [] 0 := by
  rcases readInt_yields (place.addresses_pure payload) found with ⟨outcome, after, -, read⟩
  cases outcome with
  | error failure => exact ⟨_, after, read.bind_error⟩
  | ok number? => exact ⟨_, after, read.nothing_bind (lift_yields after _)⟩

end

section

variable {start last : Attached name} {bytes : List UInt8} {left : List Resource} {numbers : Nat}

/-- A boxed result is taken over by a new owner. -/
theorem adopt_disposes (landing : HasLanded .variant bytes start last left numbers) :
    ∃ after : Attached name,
      runFrom (do return Value.variant (← adopt (Payload.ofBytes bytes))) last.session =
        (.ok (.variant start.session.variants.length), after.session) ∧
        Disposed start (some (Payload.ofBytes bytes).slot) after numbers
          (.ok (.variant start.session.variants.length)) := by
  rcases landing with ⟨landed, leaves, nils, keeps⟩
  have only : ((Payload.ofBytes bytes).slot = 0 ∧ left = []) ∨
      ∃ typeNumber content,
        left = [.slot (Payload.ofBytes bytes).slot typeNumber content] := by
    cases landed with
    | slot held => exact .inr ⟨_, _, by rw [held]⟩
    | noSlot held => exact .inl ⟨held, rfl⟩
    | plain plain => cases plain
  refine ⟨last.withOwner ⟨Payload.ofBytes bytes, true⟩, ?_, .adopted rfl
    ⟨leaves, only, nils, ?_, keeps.strings, keeps.others⟩⟩
  · rw [← keeps.variants]
    rfl
  · exact congrArg (· ++ [_]) keeps.variants

private theorem disposes_of_releasing (landing : HasLanded .variant bytes start last left numbers)
    {operation : Bridge Value} {outcome : Except Failure Value} {middle : Attached name}
    {more : Nat} (yields : operation.Yields last outcome middle [] more) (fits : more ≤ 1) :
    ∃ outcome after,
      runFrom (releasing operation (destroyPayload (Payload.ofBytes bytes))) last.session =
        (outcome, after.session) ∧
        Disposed start (some (Payload.ofBytes bytes).slot) after (numbers + 1) outcome := by
  rcases landing.releasing (yields.weaken fits) with ⟨after, ran, gone⟩
  exact ⟨outcome, after, ran, .gone gone⟩

/-- Decoding a boxed result of a class that is neither a handle nor an enumeration. -/
def unboxPlain (kind? : Option PlainKind) (default : Value) (payload : Payload) : Bridge Value :=
  match kind? with
  | some kind => do
      let converted ← releasing (convert kind (pure payload)) (destroyPayload payload)
      return converted.getD default
  | none => do return .variant (← adopt payload)

private theorem unboxPlain_disposes
    (landing : HasLanded .variant bytes start last left numbers) (room : last.engine.HasRoom 1)
    (kind? : Option PlainKind) (default : Value) :
    ∃ outcome after,
      runFrom (unboxPlain kind? default (Payload.ofBytes bytes)) last.session =
        (outcome, after.session) ∧
        Disposed start (some (Payload.ofBytes bytes).slot) after (numbers + 1) outcome := by
  cases kind? with
  | none =>
      rcases adopt_disposes landing with ⟨after, ran, adopted⟩
      exact ⟨_, after, ran, adopted.weaken (Nat.le_succ numbers)⟩
  | some kind =>
      rcases landing.content with ⟨typeNumber, content, found⟩
      rcases convert_yields kind (last.addresses_pure (Payload.ofBytes bytes)) found room
          with ⟨outcome, middle, -, converted⟩
      rcases landing.releasing converted with ⟨after, released, gone⟩
      cases outcome with
      | ok value => exact ⟨_, after, runFrom_bind_of_ok released _, .gone gone⟩
      | error failure => exact ⟨_, after, runFrom_bind_of_error released _, .gone gone⟩

/-- A boxed result is released once something was taken from it, or it is adopted. -/
theorem unbox_disposes (landing : HasLanded .variant bytes start last left numbers)
    (room : last.engine.HasRoom 1) (types : ResultTypes) (typeClass : Option TypeClass)
    (default : Value) :
    ∃ outcome after,
      runFrom (unbox types typeClass default (Payload.ofBytes bytes)) last.session =
        (outcome, after.session) ∧
        Disposed start (some (Payload.ofBytes bytes).slot) after (numbers + 1) outcome := by
  rcases landing.content with ⟨typeNumber, content, found⟩
  rcases typeClass with _ | typeClass
  · exact unboxPlain_disposes landing room none default
  · cases typeClass with
    | enumeration base isBitfield =>
        rcases memberIn_yields types base found with ⟨outcome, after, taken⟩
        exact disposes_of_releasing landing taken (Nat.zero_le 1)
    | classHandle className =>
        rcases objectIn_yields types className found with ⟨outcome, after, taken⟩
        exact disposes_of_releasing landing taken (Nat.zero_le 1)
    | primitive typeName metadata =>
        exact unboxPlain_disposes landing room (TypeClass.primitive typeName metadata).plainKind?
          default
    | builtin typeName size =>
        exact unboxPlain_disposes landing room (TypeClass.builtin typeName size).plainKind? default
    | typedArray element size => exact unboxPlain_disposes landing room none default

private theorem takeString_disposes
    (landing : HasLanded .nativeString bytes start last left numbers) :
    ∃ outcome after,
      runFrom (do return Value.text (← takeString (Number.signedWordAt bytes 0))) last.session =
        (outcome, after.session) ∧
        Disposed start (some (Number.signedWordAt bytes 0)) after numbers outcome := by
  rcases readString_yields last (Number.signedWordAt bytes 0) with ⟨middle, read⟩
  rcases landing.releasing read with ⟨after, released, gone⟩
  exact ⟨_, after, runFrom_bind_of_ok released _, .gone gone⟩

private theorem decode_unchanged (types : ResultTypes) {step : ReturnStep}
    (plain : step.storage.isOwned = false) (notUnboxed : step.conversion ≠ .fromVariant)
    (notDescribed : step.conversion ≠ .stringDescription) (bytes : List UInt8)
    (session : Session) :
    ∃ outcome, runFrom (decode types step bytes) session = (outcome, session) := by
  rcases step with ⟨typeClass, storage, conversion, default, passContent⟩
  cases conversion with
  | fromVariant => exact absurd rfl notUnboxed
  | stringDescription => exact absurd rfl notDescribed
  | none => exact ⟨_, rfl⟩
  | wrapTypedArray | lookupObject | enumRawValue =>
      rcases typeClass with _ | typeClass
      · exact ⟨_, rfl⟩
      · cases typeClass <;> exact ⟨_, rfl⟩
  | identity =>
      cases storage with
      | variant => cases plain
      | _ =>
          rcases typeClass with _ | typeClass
          · exact ⟨_, rfl⟩
          · cases typeClass <;> exact ⟨_, rfl⟩

/-- Decoding a result disposes of it. -/
theorem decode_disposes {step : ReturnStep} (treats : step.Treats)
    (landing : HasLanded step.storage bytes start last left numbers)
    (room : last.engine.HasRoom 1) (types : ResultTypes) :
    ∃ outcome after, runFrom (decode types step bytes) last.session = (outcome, after.session) ∧
      Disposed start (step.storage.heldNumber? bytes) after (numbers + 1) outcome := by
  rcases step with ⟨typeClass, storage, conversion, default, passContent⟩
  cases treats with
  | adopted storage conversion =>
      cases storage
      cases conversion
      rcases adopt_disposes landing with ⟨after, ran, adopted⟩
      exact ⟨_, after, ran, adopted.weaken (Nat.le_succ numbers)⟩
  | unboxed storage conversion =>
      cases storage
      cases conversion
      exact unbox_disposes landing room types typeClass _
  | described storage conversion =>
      cases storage
      cases conversion
      rcases takeString_disposes landing with ⟨outcome, after, ran, disposed⟩
      exact ⟨outcome, after, ran, disposed.weaken (Nat.le_succ numbers)⟩
  | plain plain notUnboxed notDescribed =>
      rcases decode_unchanged types plain notUnboxed notDescribed bytes last.session
          with ⟨outcome, ran⟩
      have gone := landing.gone plain
      exact ⟨outcome, last, ran, (Disposed.gone gone).weaken (Nat.le_succ numbers)⟩

end

end Bridge

end EngineBridge
