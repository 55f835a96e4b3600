import EngineBridge.Proofs.Engine.Ledger
import EngineBridge.Proofs.Number.Words
import EngineBridge.Proofs.Running

/-!
What each action of the engine comes to.

`Native.Yields` puts the outcome of an action together with what it leaves behind. Each action has
one lemma for each way in which it can end; later modules use these and open no action again.
-/

namespace EngineBridge

namespace Engine

/-- What a payload of a number reads as: nil for number zero, and for any other the content of the
slot as long as it is live. -/
def content? (engine : Engine) (number : Int) : Option (Int × Held) :=
  if number = 0 then some (GType.nil.number, .nothing) else engine.slot? number

theorem content?_of_slot? {engine : Engine} (formed : engine.Numbered) {number : Int}
    {content : Int × Held} (live : engine.slot? number = some content) :
    engine.content? number = some content := by
  have positive := (formed.lt_of_slot? live).1
  rw [content?, if_neg (by omega), live]

/-- What a payload reads as stays as long as nothing older is released. -/
theorem Leaves.content?_eq {before after : Engine} {left : List Resource} {numbers : Nat}
    (leaves : before.Leaves after left numbers) (formed : before.Numbered) {number : Int}
    {content : Int × Held} (held : before.content? number = some content) :
    after.content? number = some content := by
  unfold content? at held ⊢
  split at held
  case isTrue zero => rw [if_pos zero, held]
  case isFalse nonzero =>
    rw [if_neg nonzero, leaves.slot?_of_lt (formed.lt_of_slot? held).2, held]

end Engine

/-! No conversion of a number hands the engine anything. -/

theorem Number.integerOfCharacters_sound (characters : List Char) :
    Sound (Number.integerOfCharacters characters) := by
  unfold Number.integerOfCharacters
  split
  · exact .ok _
  · exact .error rfl

theorem Number.floatOfInt_sound (number : Int) : Sound (Number.floatOfInt number) := by
  unfold Number.floatOfInt
  dsimp only
  split
  · exact .ok _
  · exact .error rfl

theorem Held.toInt_sound (content : Held) : Sound content.toInt := by
  cases content with
  | nothing => exact .error rfl
  | bool | int => exact .ok _
  | float value =>
      unfold Held.toInt Number.integerOfFloat
      dsimp only
      split
      · exact .ok _
      · split <;> exact .error rfl
  | text value => exact Number.integerOfCharacters_sound _
  | bytes content => exact Number.integerOfCharacters_sound _

namespace Native

variable {α β : Type}

/-- An action with its outcome and with the resources that it leaves. -/
structure Yields (action : Native α) (before : Engine) (outcome : Except Failure α)
    (after : Engine) (left : List Resource) (numbers : Nat) : Prop where
  ran : runFrom action before = (outcome, after)
  leaves : before.Leaves after left numbers
  quiet : before.Quiet after

namespace Yields

variable {action : Native α} {next : α → Native β} {before middle after : Engine} {value : α}
  {failure : Failure} {outcome : Except Failure β} {left more : List Resource}
  {numbers moreNumbers : Nat}

theorem bind (first : action.Yields before (.ok value) middle left numbers)
    (second : (next value).Yields middle outcome after more moreNumbers) :
    (action >>= next).Yields before outcome after (more ++ left) (numbers + moreNumbers) where
  ran := by rw [runFrom_bind_of_ok first.ran, second.ran]
  leaves := first.leaves.trans second.leaves
  quiet := first.quiet.trans second.quiet

theorem bind_error (first : action.Yields before (.error failure) after left numbers) :
    (action >>= next).Yields before (.error failure) after left numbers where
  ran := runFrom_bind_of_error first.ran next
  leaves := first.leaves
  quiet := first.quiet

theorem of_unchanged {action : Native α} {outcome : Except Failure α}
    (ran : runFrom action before = (outcome, before)) :
    action.Yields before outcome before [] 0 :=
  ⟨ran, .refl before, .refl before⟩

end Yields

theorem runFrom_happen (event : Event) (engine : Engine) :
    runFrom (happen event) engine = (.ok (), engine.noted event) := rfl

theorem load_of_content {engine : Engine} {payload : Payload} {content : Int × Held}
    (found : engine.content? payload.slot = some content) :
    runFrom (load payload) engine = (.ok content, engine) := by
  unfold Engine.content? at found
  unfold load
  split at found
  case isTrue zero =>
    cases found
    rw [if_pos (by simpa using zero)]
    rfl
  case isFalse nonzero =>
    rw [if_neg (by simpa using nonzero), runFrom_bind_of_ok (runFrom_get engine), found]
    rfl

/-- What the engine says when it is handed a slot that is gone. -/
def deadSlot (slot : Int) : Failure :=
  .engineFault ("use of dead Variant slot " ++ Number.writeInt slot)

theorem load_of_none {engine : Engine} {payload : Payload}
    (gone : engine.content? payload.slot = none) :
    runFrom (load payload) engine = (.error (deadSlot payload.slot), engine) := by
  unfold Engine.content? at gone
  unfold load
  split at gone
  case isTrue => cases gone
  case isFalse nonzero =>
    rw [if_neg (by simpa using nonzero), runFrom_bind_of_ok (runFrom_get engine), gone]
    rfl

theorem newNil_yields (engine : Engine) :
    newNil.Yields engine (.ok ⟨0, engine.next, 0⟩)
      ((engine.withSlot 0 .nothing).noted (.newNil engine.next))
      [.slot engine.next 0 .nothing] 1 where
  ran := rfl
  leaves := (Engine.Leaves.newSlot engine 0 .nothing).noted rfl
  quiet := (engine.quiet_withSlot 0 .nothing).trans (Engine.quiet_noted _ rfl rfl)

/-- A copy has the content of its source and a number of its own. -/
theorem newCopy_yields {engine : Engine} {source : Payload} {typeNumber : Int} {content : Held}
    (found : engine.content? source.slot = some (typeNumber, content)) :
    (newCopy source).Yields engine (.ok ⟨typeNumber, engine.next, 0⟩)
      ((engine.withSlot typeNumber content).noted (.newCopy engine.next source.slot))
      [.slot engine.next typeNumber content] 1 where
  ran := by
    unfold newCopy
    rw [runFrom_bind_of_ok (load_of_content found)]
    rfl
  leaves := (Engine.Leaves.newSlot engine typeNumber content).noted rfl
  quiet := (engine.quiet_withSlot typeNumber content).trans (Engine.quiet_noted _ rfl rfl)

theorem newCopy_of_none {engine : Engine} {source : Payload}
    (gone : engine.content? source.slot = none) :
    (newCopy source).Yields engine (.error (deadSlot source.slot)) engine [] 0 :=
  .of_unchanged (runFrom_bind_of_error (load_of_none gone) _)

/-- Releasing a live slot. -/
theorem destroy_of_slot {engine : Engine} {payload : Payload} {content : Int × Held}
    (nonzero : payload.slot ≠ 0) (live : engine.slot? payload.slot = some content) :
    runFrom (destroy payload) engine = (.ok (), engine.withoutSlot payload.slot) := by
  have found : ((engine.noted (.destroy payload.slot)).slot? payload.slot).isSome = true := by
    change (engine.slot? payload.slot).isSome = true
    rw [live]
    rfl
  unfold destroy
  rw [runFrom_bind_of_ok (runFrom_happen _ engine), if_neg (by simpa using nonzero),
    runFrom_bind_of_ok (runFrom_get _), if_pos found]
  rfl

/-- Releasing number zero does nothing but leave an event. -/
theorem destroy_of_zero {engine : Engine} {payload : Payload} (zero : payload.slot = 0) :
    runFrom (destroy payload) engine = (.ok (), engine.noted (.destroy 0)) := by
  unfold destroy
  rw [zero]
  rfl

theorem stringDestroy_of_string {engine : Engine} {string : Int} {text : String}
    (nonzero : string ≠ 0) (live : engine.strings.lookup string = some text) :
    runFrom (stringDestroy string) engine = (.ok (), engine.withoutString string) := by
  have found : ((engine.noted (.stringDestroy string)).strings.lookup string).isSome = true := by
    change (engine.strings.lookup string).isSome = true
    rw [live]
    rfl
  unfold stringDestroy
  rw [runFrom_bind_of_ok (runFrom_happen _ engine), if_neg (by simpa using nonzero),
    runFrom_bind_of_ok (runFrom_get _), if_pos found]
  rfl

theorem stringDestroy_of_zero (engine : Engine) :
    runFrom (stringDestroy 0) engine = (.ok (), engine.noted (.stringDestroy 0)) := rfl

/-- An action that keeps an event, reads a payload and goes on from what it read. -/
private theorem runFrom_happen_load {engine : Engine} {payload : Payload} {event : Event}
    {content : Int × Held} (found : engine.content? payload.slot = some content)
    (next : Int × Held → Native α) :
    runFrom (do happen event; let content ← load payload; next content) engine =
      runFrom (next content) (engine.noted event) := by
  have still : (engine.noted event).content? payload.slot = some content := found
  rw [runFrom_bind_of_ok (runFrom_happen _ engine), runFrom_bind_of_ok (load_of_content still)]

theorem getType_yields {engine : Engine} {payload : Payload} {content : Int × Held}
    (found : engine.content? payload.slot = some content) :
    (getType payload).Yields engine (.ok content.1) (engine.noted (.getType payload.slot)) [] 0
    where
  ran := runFrom_happen_load found _
  leaves := (Engine.Leaves.refl engine).noted rfl
  quiet := engine.quiet_noted rfl rfl

/-- The hash of a content of a type. -/
def hashOf (content : Int × Held) : Nat :=
  textHash (Number.writeInt content.1 ++ ":" ++ content.2.display)

theorem hash_yields {engine : Engine} {payload : Payload} {content : Int × Held}
    (found : engine.content? payload.slot = some content) :
    (hash payload).Yields engine (.ok (hashOf content)) (engine.noted (.hash payload.slot)) [] 0
    where
  ran := runFrom_happen_load found _
  leaves := (Engine.Leaves.refl engine).noted rfl
  quiet := engine.quiet_noted rfl rfl

theorem stringNew_yields (engine : Engine) (text : String) :
    (stringNew (Text.utf8 text)).Yields engine (.ok engine.next)
      ((engine.withString text).noted (.stringNew engine.next text))
      [.string engine.next text] 1 where
  ran := by
    unfold stringNew
    rw [Text.ofUtf8_utf8]
    rfl
  leaves := (Engine.Leaves.newString engine text).noted rfl
  quiet := (engine.quiet_withString text).trans (Engine.quiet_noted _ rfl rfl)

/-- What is copied to a buffer of some size. -/
def copied (engine : Engine) (string : Int) (hasBuffer : Bool) (maxLength : Nat) : List UInt8 :=
  if hasBuffer then (Text.utf8 (engine.stringAt string)).take maxLength else []

theorem stringRead_yields (engine : Engine) (string : Int) (hasBuffer : Bool)
    (maxLength : Nat) :
    (stringRead string hasBuffer maxLength).Yields engine
      (.ok ((Text.utf8 (engine.stringAt string)).length,
        copied engine string hasBuffer maxLength))
      (engine.noted (.stringRead string hasBuffer maxLength)) [] 0 where
  ran := rfl
  leaves := (Engine.Leaves.refl engine).noted rfl
  quiet := engine.quiet_noted rfl rfl

theorem stringify_yields {engine : Engine} {payload : Payload} {content : Int × Held}
    (found : engine.content? payload.slot = some content) :
    (stringify payload).Yields engine (.ok engine.next)
      ((engine.withString content.2.display).noted (.stringify payload.slot engine.next))
      [.string engine.next content.2.display] 1 where
  ran := by
    unfold stringify
    rw [runFrom_bind_of_ok (load_of_content found)]
    rfl
  leaves := (Engine.Leaves.newString engine _).noted rfl
  quiet := (engine.quiet_withString _).trans (Engine.quiet_noted _ rfl rfl)

theorem fromType_yields (engine : Engine) (gtype : GType) (source : List UInt8) :
    (fromType gtype source).Yields engine (.ok ⟨gtype.number, engine.next, 0⟩)
      ((engine.withSlot gtype.number (readTyped engine gtype source)).noted
        (.fromType gtype.number engine.next (readTyped engine gtype source)))
      [.slot engine.next gtype.number (readTyped engine gtype source)] 1 where
  ran := rfl
  leaves := (Engine.Leaves.newSlot engine _ _).noted rfl
  quiet := (engine.quiet_withSlot _ _).trans (Engine.quiet_noted _ rfl rfl)

/-- What the comparison of two contents comes to. -/
def equality (left right : Int × Held) : Int × Held :=
  if comparable left.1 right.1 then (GType.bool.number, .bool (left.2.same right.2))
  else (GType.nil.number, .nothing)

/-- The result of a comparison is a new boxed value, also where values cannot be compared. -/
theorem evaluateEqual_yields {engine : Engine} {left right : Payload} {first second : Int × Held}
    (own : engine.fixedAnswer = none) (leftFound : engine.content? left.slot = some first)
    (rightFound : engine.content? right.slot = some second) :
    (evaluateEqual left right).Yields engine
      (.ok (⟨(equality first second).1, engine.next, 0⟩, comparable first.1 second.1))
      ((engine.withSlot (equality first second).1 (equality first second).2).noted
        (.evaluate equalOperator left.slot right.slot engine.next (equality first second).2
          (.int (if comparable first.1 second.1 then 1 else 0))))
      [.slot engine.next (equality first second).1 (equality first second).2] 1 where
  ran := by
    unfold evaluateEqual
    rw [runFrom_bind_of_ok (load_of_content leftFound),
      runFrom_bind_of_ok (load_of_content rightFound), runFrom_bind_of_ok (runFrom_get engine), own]
    unfold equality
    cases comparable first.1 second.1 <;> rfl
  leaves := (Engine.Leaves.newSlot engine _ _).noted rfl
  quiet := (engine.quiet_withSlot _ _).trans (Engine.quiet_noted _ rfl rfl)

/-! A value in native form is read from a slot of its own type; texts take a native string. -/

theorem toType_of_string {engine : Engine} {payload : Payload} {content : Held}
    (found : engine.content? payload.slot = some ((GType.string.number : Int), content)) :
    (toType .string payload).Yields engine (.ok (Number.wordBytes engine.next))
      ((engine.noted (.toType GType.string.number payload.slot)).withString content.display)
      [.string engine.next content.display] 1 where
  ran := by
    rw [toType, runFrom_bind_of_ok (load_of_content found), runFrom_bind_of_ok
      (runFrom_happen _ engine), if_pos BEq.rfl]
    cases content <;> rfl
  leaves := (((Engine.Leaves.refl engine).noted rfl).trans (Engine.Leaves.newString _ _)).weaken
    (by omega)
  quiet := (engine.quiet_noted rfl rfl).trans (Engine.quiet_withString _ _)

/-- The native form of a content that takes no native string. -/
theorem writeTyped_unchanged {gtype : GType} (other : gtype ≠ .string) (content : Held) :
    ∃ outcome, Sound outcome ∧
      ∀ engine, runFrom (writeTyped gtype content) engine = (outcome, engine) := by
  have none : Sound (.error .wrongShape : Except Failure (List UInt8)) := .error rfl
  have numeral : Sound (integerBytes content) := by
    unfold integerBytes
    split <;> first | exact .ok _ | exact .error rfl
  cases gtype with
  | string => exact absurd rfl other
  | bool =>
      refine ⟨_, content.toInt_sound.bind fun number => .ok [(number % 256).toNat.toUInt8], ?_⟩
      intro engine
      rw [writeTyped, runFrom_bind, runFrom_lift]
      cases content.toInt <;> rfl
  | int => exact ⟨integerBytes content, numeral, fun _ => rfl⟩
  | float =>
      have real : ∀ number : Int, ∃ outcome, Sound outcome ∧ ∀ engine,
          runFrom (do
            let real ← Number.floatOfInt number
            return Number.littleEndian 8 real.toBits.toNat : Native (List UInt8)) engine =
              (outcome, engine) := by
        intro number
        refine ⟨_, (Number.floatOfInt_sound number).bind fun real =>
          .ok (Number.littleEndian 8 real.toBits.toNat), ?_⟩
        intro engine
        rw [runFrom_bind, runFrom_lift]
        cases Number.floatOfInt number <;> rfl
      cases content with
      | float value => exact ⟨_, .ok _, fun _ => rfl⟩
      | int value => exact real value
      | bool value => exact real (if value then 1 else 0)
      | _ => exact ⟨_, none, fun _ => rfl⟩
  | object =>
      cases content with
      | nothing => exact ⟨_, .ok _, fun _ => rfl⟩
      | _ => exact ⟨_, numeral, fun _ => rfl⟩
  | _ =>
      cases content with
      | bytes => exact ⟨_, .ok _, fun _ => rfl⟩
      | _ => exact ⟨_, none, fun _ => rfl⟩

theorem toType_of_written {engine : Engine} {payload : Payload} {gtype : GType} {content : Held}
    {outcome : Except Failure (List UInt8)}
    (found : engine.content? payload.slot = some ((gtype.number : Int), content))
    (written : ∀ engine, runFrom (writeTyped gtype content) engine = (outcome, engine)) :
    (toType gtype payload).Yields engine outcome
      (engine.noted (.toType gtype.number payload.slot)) [] 0 where
  ran := by
    rw [toType, runFrom_bind_of_ok (load_of_content found),
      runFrom_bind_of_ok (runFrom_happen _ engine), if_pos BEq.rfl, written]
  leaves := (Engine.Leaves.refl engine).noted rfl
  quiet := engine.quiet_noted rfl rfl

/-! What the engine is asked for before a call leaves nothing. -/

theorem lookUpConstructors_yields (engine : Engine) :
    ∃ after, lookUpConstructors.Yields engine
      (.ok (GType.constructible.map fun gtype =>
        if engine.missing.contains (gtype.number : Int) then none else some gtype)) after [] 0 := by
  have leaves : engine.Leaves (engine.noted .tables) [] 0 := (Engine.Leaves.refl engine).noted rfl
  have quiet : engine.Quiet (engine.noted .tables) := engine.quiet_noted rfl rfl
  exact ⟨_, {
    ran := rfl
    leaves := { leaves with register := ⟨rfl, rfl, rfl, rfl, rfl⟩ }
    quiet := ⟨quiet.nils, quiet.calls⟩ }⟩

theorem lookUpMethod_yields (engine : Engine) {className methodName hash : Document}
    (key : MethodKey) (keys : className.keyOf = .ok key.1 ∧ methodName.keyOf = .ok key.2.1 ∧
      hash.keyOf = .ok key.2.2) :
    (lookUpMethod className methodName hash).Yields engine
      (.ok ((engine.methods.lookup key).getD 0))
      (engine.noted (.methodLookup className methodName hash
        ((engine.methods.lookup key).getD 0))) [] 0 where
  ran := by
    rw [lookUpMethod, keys.1, keys.2.1, keys.2.2]
    rfl
  leaves := (Engine.Leaves.refl engine).noted rfl
  quiet := engine.quiet_noted rfl rfl

theorem lookUpUtility_yields (engine : Engine) {name hash : Document} (key : UtilityKey)
    (keys : name.keyOf = .ok key.1 ∧ hash.keyOf = .ok key.2) :
    (lookUpUtility name hash).Yields engine (.ok (engine.utilities.lookup key))
      (engine.noted (.utilityLookup name hash (engine.utilities.lookup key).isSome)) [] 0 where
  ran := by
    rw [lookUpUtility, keys.1, keys.2]
    rfl
  leaves := (Engine.Leaves.refl engine).noted rfl
  quiet := engine.quiet_noted rfl rfl

end Native

end EngineBridge
