import EngineBridge.Proofs.Session.Boxes

/-!
What boxed values are read as.

A boxed value is asked for its type first, and only if that is the one that is wanted for its native
form. Whatever a reader comes to, it leaves nothing in the engine.
-/

namespace EngineBridge

open Bridge

variable {α β : Type} {name : String}

namespace Engine

/-- What is left of nothing leaves every content where it was. -/
theorem content?_of_leaves {before after : Engine} {numbers : Nat}
    (leaves : before.Leaves after [] numbers) (number : Int) :
    after.content? number = before.content? number := by
  have same : after.slots = before.slots := leaves.slots
  rw [content?, slot?, same, content?, slot?]

end Engine

namespace Attached

/-- Whether an address gives a payload, as long as the owners of the session stay as they are. -/
def Addresses (place : Attached name) (address : Bridge Payload) (payload : Payload) : Prop :=
  ∀ later, place.session.Keeps later name → runFrom address later = (.ok payload, later)

theorem addresses_pure (place : Attached name) (payload : Payload) :
    place.Addresses (pure payload) payload :=
  fun _ _ => rfl

theorem addresses_livePayload {place : Attached name} {reference : Nat} {payload : Payload}
    (live : place.session.livePayload reference = .ok payload) :
    place.Addresses (livePayload reference) payload := by
  intro later keeps
  rw [livePayload_run, keeps.livePayload, live]

theorem Addresses.later {place later : Attached name} {address : Bridge Payload}
    {payload : Payload} (addresses : place.Addresses address payload)
    (keeps : place.session.Keeps later.session name) : later.Addresses address payload :=
  fun last more => addresses last (keeps.trans more)

theorem Addresses.yields {place : Attached name} {address : Bridge Payload} {payload : Payload}
    (addresses : place.Addresses address payload) :
    address.Yields place (.ok payload) place [] 0 :=
  .of_unchanged (addresses place.session (.refl place.session name))

end Attached

namespace Bridge

variable {place : Attached name} {address : Bridge Payload} {payload : Payload} {gtype : GType}
  {typeNumber : Int} {content : Held}

/-- The type as which a number counts. -/
def typeNamed (typeNumber : Int) : GType :=
  (GType.ofNumber? typeNumber).getD .nil

theorem typeOf_yields (addresses : place.Addresses address payload)
    (found : place.engine.content? payload.slot = some (typeNumber, content)) :
    ∃ after : Attached name, (typeOf address).Yields place (.ok (typeNamed typeNumber)) after
      [] 0 := by
  rcases native_yields (Native.getType_yields found) with ⟨after, -, asked⟩
  refine ⟨after, (installedEngine_yields place).nothing_bind (addresses.yields.nothing_bind ?_)⟩
  exact asked.bind_nothing (.of_unchanged rfl)

section

variable (notNil : gtype ≠ .nil) (notMax : gtype ≠ .max)

include notNil notMax

theorem toNative_of_missing (missing : place.engine.missing.contains (gtype.number : Int) = true) :
    ∃ after : Attached name, (toNative gtype.number address).Yields place
      (.error (.invariant (.noToType gtype.name))) after [] 0 := by
  rcases functionTables_yields place with ⟨after, known⟩
  refine ⟨after, known.nothing_bind ?_⟩
  apply Yields.bind_error
  apply Yields.of_unchanged
  rw [runFrom_lift, Engine.toRoutine_number notNil notMax, if_pos missing]

/-- Where there is a routine it acts on the payload as soon as the tables are known. -/
theorem toNative_yields (present : place.engine.missing.contains (gtype.number : Int) = false)
    (addresses : place.Addresses address payload) {outcome : Except Failure (List UInt8)}
    {left : List Resource} {numbers : Nat}
    (acts : ∀ engine, place.engine.Leaves engine [] 0 → ∃ changed,
      (Native.toType gtype payload).Yields engine outcome changed left numbers) :
    ∃ after : Attached name, (toNative gtype.number address).Yields place outcome after left
      numbers := by
  rcases functionTables_yields place with ⟨middle, known⟩
  rcases acts middle.engine known.leaves with ⟨engine, acted⟩
  rcases nativeOn_yields acted with ⟨after, -, given⟩
  refine ⟨after, known.nothing_bind ?_⟩
  have looked : (liftM ((place.engine.functionTables name).toRoutine gtype.number) :
      Bridge Routine).Yields middle (.ok ⟨name, gtype⟩) middle [] 0 := by
    apply Yields.of_unchanged
    rw [runFrom_lift, Engine.toRoutine_number notNil notMax, present, if_neg (by decide)]
  exact looked.nothing_bind ((addresses.later known.keeps).yields.nothing_bind given)

end

/-- A reader of another type gives nothing. -/
theorem readAs_of_other (addresses : place.Addresses address payload)
    (found : place.engine.content? payload.slot = some (typeNumber, content))
    (differs : typeNamed typeNumber ≠ gtype) (decode : List UInt8 → Bridge β) :
    ∃ after : Attached name, (readAs gtype address decode).Yields place (.ok none) after [] 0 := by
  rcases typeOf_yields addresses found with ⟨after, typed⟩
  refine ⟨after, typed.nothing_bind ?_⟩
  rw [if_neg (by simpa using differs)]
  exact .of_unchanged rfl

theorem typeNamed_number (gtype : GType) : typeNamed gtype.number = gtype := by
  rw [typeNamed, GType.ofNumber?_number]
  rfl

theorem number_of_typeNamed (notNil : gtype ≠ .nil) (named : typeNamed typeNumber = gtype) :
    typeNumber = gtype.number := by
  unfold typeNamed at named
  cases found : GType.ofNumber? typeNumber with
  | none =>
      rw [found] at named
      exact absurd named.symm notNil
  | some other =>
      rw [found] at named
      cases named
      exact GType.number_of_ofNumber? found

/-- A reader of the type itself goes on with the native form. -/
theorem readAs_of_same (decode : List UInt8 → Bridge β)
    (addresses : place.Addresses address payload)
    (found : place.engine.content? payload.slot = some ((gtype.number : Int), content)) :
    ∃ middle : Attached name, place.engine.Leaves middle.engine [] 0 ∧
      place.session.Keeps middle.session name ∧
      ∀ {outcome : Except Failure β} {after : Attached name} {left : List Resource}
        {numbers : Nat}, (toNative gtype.number address >>= decode).Yields middle outcome after left
          numbers → (readAs gtype address decode).Yields place (outcome.map some) after left
            numbers := by
  rcases typeOf_yields addresses found with ⟨middle, typed⟩
  refine ⟨middle, typed.leaves, typed.keeps, fun yields => typed.nothing_bind ?_⟩
  rw [typeNamed_number, if_pos BEq.rfl, ← bind_assoc]
  exact yields.map some

/-- The types whose readers give what stands in the native form. -/
structure IsPlainType (gtype : GType) : Prop where
  notNil : gtype ≠ .nil
  notMax : gtype ≠ .max
  notString : gtype ≠ .string

theorem isPlainType_bool : IsPlainType .bool := ⟨by decide, by decide, by decide⟩

theorem isPlainType_int : IsPlainType .int := ⟨by decide, by decide, by decide⟩

theorem isPlainType_float : IsPlainType .float := ⟨by decide, by decide, by decide⟩

theorem isPlainType_object : IsPlainType .object := ⟨by decide, by decide, by decide⟩

theorem readAs_of_written (decode : List UInt8 → β) (plain : IsPlainType gtype)
    (present : place.engine.missing.contains (gtype.number : Int) = false)
    (addresses : place.Addresses address payload)
    (found : place.engine.content? payload.slot = some ((gtype.number : Int), content))
    {outcome : Except Failure (List UInt8)}
    (written : ∀ engine, runFrom (Native.writeTyped gtype content) engine = (outcome, engine)) :
    ∃ after : Attached name, (readAs gtype address fun bytes => pure (decode bytes)).Yields place
      ((outcome.map decode).map some) after [] 0 := by
  rcases readAs_of_same (fun bytes => pure (decode bytes)) addresses found
      with ⟨middle, leaves, keeps, continues⟩
  have still : middle.engine.missing.contains (gtype.number : Int) = false := by
    rw [leaves.register.missing, present]
  obtain ⟨after, native⟩ := toNative_yields plain.notNil plain.notMax still (addresses.later keeps)
    fun engine more => by
      refine ⟨_, Native.toType_of_written ?_ written⟩
      rw [Engine.content?_of_leaves more, Engine.content?_of_leaves leaves, found]
  exact ⟨after, continues (native.map decode)⟩

theorem readAs_of_missing (decode : List UInt8 → Bridge β) (notNil : gtype ≠ .nil)
    (notMax : gtype ≠ .max)
    (missing : place.engine.missing.contains (gtype.number : Int) = true)
    (addresses : place.Addresses address payload)
    (found : place.engine.content? payload.slot = some ((gtype.number : Int), content)) :
    ∃ after : Attached name, (readAs gtype address decode).Yields place
      (.error (.invariant (.noToType gtype.name))) after [] 0 := by
  rcases readAs_of_same decode addresses found with ⟨middle, leaves, keeps, continues⟩
  have still : middle.engine.missing.contains (gtype.number : Int) = true := by
    rw [leaves.register.missing, missing]
  rcases toNative_of_missing notNil notMax still with ⟨after, refused⟩
  exact ⟨after, continues refused.bind_error⟩

/-- A reader that only decodes leaves nothing, whatever it comes to. -/
theorem readAs_plain (decode : List UInt8 → β) (plain : IsPlainType gtype)
    (addresses : place.Addresses address payload)
    (found : place.engine.content? payload.slot = some (typeNumber, content)) :
    ∃ (outcome : Except Failure (Option β)) (after : Attached name), Sound outcome ∧
      (readAs gtype address fun bytes => pure (decode bytes)).Yields place outcome after [] 0 := by
  by_cases named : typeNamed typeNumber = gtype
  · rw [number_of_typeNamed plain.notNil named] at found
    cases present : place.engine.missing.contains (gtype.number : Int) with
    | true =>
        obtain ⟨after, refused⟩ := readAs_of_missing (fun bytes => pure (decode bytes))
          plain.notNil plain.notMax present addresses found
        exact ⟨_, after, .error rfl, refused⟩
    | false =>
        rcases Native.writeTyped_unchanged plain.notString content with ⟨outcome, sound, written⟩
        rcases readAs_of_written decode plain present addresses found written with ⟨after, read⟩
        exact ⟨_, after, (sound.map decode).map some, read⟩
  · rcases readAs_of_other addresses found named fun bytes => pure (decode bytes)
        with ⟨after, other⟩
    exact ⟨_, after, .ok none, other⟩

theorem readBool_yields (addresses : place.Addresses address payload)
    (found : place.engine.content? payload.slot = some (typeNumber, content)) :
    ∃ (outcome : Except Failure (Option Bool)) (after : Attached name), Sound outcome ∧
      (readBool address).Yields place outcome after [] 0 :=
  readAs_plain (fun bytes => Number.bytesAt bytes 1 != [0]) isPlainType_bool addresses found

theorem readInt_yields (addresses : place.Addresses address payload)
    (found : place.engine.content? payload.slot = some (typeNumber, content)) :
    ∃ (outcome : Except Failure (Option Int)) (after : Attached name), Sound outcome ∧
      (readInt address).Yields place outcome after [] 0 :=
  readAs_plain (fun bytes => Number.signedWordAt bytes 0) isPlainType_int addresses found

theorem readFloat_yields (addresses : place.Addresses address payload)
    (found : place.engine.content? payload.slot = some (typeNumber, content)) :
    ∃ (outcome : Except Failure (Option Float)) (after : Attached name), Sound outcome ∧
      (readFloat address).Yields place outcome after [] 0 :=
  readAs_plain (fun bytes => Float.ofBits (Number.wordAt bytes 0).toUInt64) isPlainType_float
    addresses found

/-- A text comes in a native string of its own, which is released once it is read. -/
theorem readText_of_string
    (present : place.engine.missing.contains (GType.string.number : Int) = false)
    (addresses : place.Addresses address payload)
    (found : place.engine.content? payload.slot = some ((GType.string.number : Int), content))
    (room : place.engine.HasRoom 1) :
    ∃ after : Attached name, (readText address).Yields place (.ok (some content.display)) after
      [] 1 := by
  rcases readAs_of_same (fun bytes => takeString (Number.signedWordAt bytes 0)) addresses found
      with ⟨middle, leaves, keeps, continues⟩
  have still : middle.engine.missing.contains (GType.string.number : Int) = false := by
    rw [leaves.register.missing, present]
  obtain ⟨last, native⟩ := toNative_yields (by decide) (by decide) still (addresses.later keeps)
    fun engine more => by
      have same : engine.content? payload.slot = some ((GType.string.number : Int), content) := by
        rw [Engine.content?_of_leaves more, Engine.content?_of_leaves leaves, found]
      have next : engine.next = place.engine.next := more.next_eq.trans leaves.next_eq
      have made := Native.toType_of_string same
      rw [next] at made
      exact ⟨_, made⟩
  have word : Number.signedWordAt (Number.wordBytes place.engine.next) 0 = place.engine.next := by
    rw [Number.signedWordAt_wordBytes,
      Number.wrapSigned_of_isSignedWord (room.isSignedWord place.numbered)]
  have made : (toNative GType.string.number address).Yields middle
      (.ok (Number.wordBytes place.engine.next)) last
      [.string (Number.signedWordAt (Number.wordBytes place.engine.next) 0) content.display] 1 := by
    rw [word]
    exact native
  rcases takeString_yields (fun bytes => Number.signedWordAt bytes 0) made with ⟨after, taken⟩
  exact ⟨after, continues taken⟩

/-- The reader of texts leaves nothing, whatever it comes to. -/
theorem readText_yields (addresses : place.Addresses address payload)
    (found : place.engine.content? payload.slot = some (typeNumber, content))
    (room : place.engine.HasRoom 1) :
    ∃ (outcome : Except Failure (Option String)) (after : Attached name), Sound outcome ∧
      (readText address).Yields place outcome after [] 1 := by
  by_cases named : typeNamed typeNumber = .string
  · rw [number_of_typeNamed (by decide) named] at found
    cases present : place.engine.missing.contains (GType.string.number : Int) with
    | true =>
        obtain ⟨after, refused⟩ := readAs_of_missing (fun bytes =>
          takeString (Number.signedWordAt bytes 0)) (by decide) (by decide) present addresses found
        exact ⟨_, after, .error rfl, refused.weaken (Nat.zero_le 1)⟩
    | false =>
        rcases readText_of_string present addresses found room with ⟨after, read⟩
        exact ⟨_, after, .ok _, read⟩
  · obtain ⟨after, other⟩ := readAs_of_other addresses found named fun bytes =>
      takeString (Number.signedWordAt bytes 0)
    exact ⟨_, after, .ok none, other.weaken (Nat.zero_le 1)⟩

/-- Converting a boxed value leaves nothing, whatever it comes to. -/
theorem convert_yields (kind : PlainKind) (addresses : place.Addresses address payload)
    (found : place.engine.content? payload.slot = some (typeNumber, content))
    (room : place.engine.HasRoom 1) :
    ∃ (outcome : Except Failure (Option Value)) (after : Attached name), Sound outcome ∧
      (convert kind address).Yields place outcome after [] 1 := by
  cases kind with
  | bool =>
      rcases readBool_yields addresses found with ⟨outcome, after, sound, read⟩
      exact ⟨_, after, sound.map _, (read.map (Option.map Value.bool)).weaken (Nat.zero_le 1)⟩
  | int =>
      rcases readInt_yields addresses found with ⟨outcome, after, sound, read⟩
      exact ⟨_, after, sound.map _, (read.map (Option.map Value.int)).weaken (Nat.zero_le 1)⟩
  | float =>
      rcases readFloat_yields addresses found with ⟨outcome, after, sound, read⟩
      exact ⟨_, after, sound.map _, (read.map (Option.map Value.float)).weaken (Nat.zero_le 1)⟩
  | text =>
      rcases readText_yields addresses found room with ⟨outcome, after, sound, read⟩
      exact ⟨_, after, sound.map _, read.map (Option.map Value.text)⟩

/-- What the owner of a native string reads. -/
theorem stringDescription_yields {reference : Nat} {string : Int}
    (live : place.session.liveString reference = .ok string) :
    ∃ after : Attached name, (stringDescription reference).Yields place
      (.ok (place.engine.stringAt string)) after [] 0 := by
  have looked : (liveString reference).Yields place (.ok string) place [] 0 :=
    .of_unchanged (by rw [liveString_run, live])
  rcases readString_yields place string with ⟨after, read⟩
  exact ⟨after, looked.nothing_bind read⟩

/-! The engine is asked for the hash and for the display of a boxed value, and whether two of them
are equal. -/

theorem hash_yields (addresses : place.Addresses address payload)
    (found : place.engine.content? payload.slot = some (typeNumber, content)) :
    ∃ after : Attached name, (hash address).Yields place
      (.ok (Native.hashOf (typeNumber, content))) after [] 0 := by
  rcases native_yields (Native.hash_yields found) with ⟨after, -, hashed⟩
  exact ⟨after, (installedEngine_yields place).nothing_bind (addresses.yields.nothing_bind hashed)⟩

theorem display_yields (addresses : place.Addresses address payload)
    (found : place.engine.content? payload.slot = some (typeNumber, content)) :
    ∃ after : Attached name, (display address).Yields place (.ok content.display) after [] 1 := by
  rcases native_yields (Native.stringify_yields found) with ⟨middle, -, made⟩
  rcases takeString_yields id made with ⟨after, taken⟩
  refine ⟨after, (installedEngine_yields place).nothing_bind ?_⟩
  exact addresses.yields.nothing_bind taken

/-- A comparison leaves nothing, for its result is released also where the values cannot be
compared. -/
theorem equalVariants_yields {other : Bridge Payload} {otherPayload : Payload}
    {first second : Int × Held} (own : place.engine.fixedAnswer = none)
    (addresses : place.Addresses address payload)
    (otherAddresses : place.Addresses other otherPayload)
    (found : place.engine.content? payload.slot = some first)
    (otherFound : place.engine.content? otherPayload.slot = some second) :
    ∃ (outcome : Except Failure Bool) (after : Attached name), Sound outcome ∧
      (equalVariants address other).Yields place outcome after [] 1 := by
  rcases native_yields (Native.evaluateEqual_yields own found otherFound) with ⟨middle, -, compared⟩
  let result : Payload := ⟨(Native.equality first second).1, place.engine.next, 0⟩
  have read : ∃ (outcome : Except Failure Bool) (last : Attached name), Sound outcome ∧
      (if Native.comparable first.1 second.1 then do
        return (← readBool (pure result)).getD false
      else return false : Bridge Bool).Yields middle outcome last [] 0 := by
    have held := Engine.content?_of_slot? middle.numbered
      (compared.leaves.slot?_of_mem (List.mem_singleton_self _))
    split
    · rcases readBool_yields (middle.addresses_pure result) held with ⟨outcome, last, sound, read⟩
      exact ⟨_, last, sound.map _, read.map fun equal? => equal?.getD false⟩
    · exact ⟨_, middle, .ok false, .of_unchanged rfl⟩
  rcases read with ⟨outcome, last, sound, read⟩
  obtain ⟨after, released⟩ : ∃ after : Attached name,
      Releases (destroyPayload result) (.slot place.engine.next _ _) last after :=
    destroySlot_releases (compared.leaves.trans read.leaves)
  refine ⟨outcome, after, sound, (installedEngine_yields place).nothing_bind ?_⟩
  refine addresses.yields.nothing_bind (otherAddresses.yields.nothing_bind ?_)
  exact compared.releasing read released (Nat.le_refl 1)

end Bridge

end EngineBridge
