import EngineBridge.Proofs.Session.Owners

/-!
Operations on owners, one by one.

`Operation` lists what can be done with the owners of boxed values and of native strings. An owner
that has released what it held refuses to be asked for it before the engine is asked anything, and
`Operation.perform_carries` says that every operation carries over what the owners of a session
hold.
-/

namespace EngineBridge

open Attached Bridge

variable {α : Type} {name : String}

/-- What can be done with owners, which are known by their places in the session. -/
inductive Operation where
  /-- Box a value for a new owner. -/
  | box (value : Value)
  | copy (reference : Nat)
  | destroy (reference : Nat)
  /-- Come to the end of a block for whose time an owner is used. -/
  | leave (reference : Nat)
  | address (reference : Nat)
  | typeOf (reference : Nat)
  | readBool (reference : Nat)
  | readInt (reference : Nat)
  | readFloat (reference : Nat)
  | readText (reference : Nat)
  | convert (kind : PlainKind) (reference : Nat)
  /-- Compare what an owner holds with a value. -/
  | equal (reference : Nat) (other : Value)
  | hash (reference : Nat)
  | display (reference : Nat)
  /-- Show an owner as messages do. -/
  | shown (reference : Nat)
  /-- Make a native string for a new owner. -/
  | newString (text : String)
  | describe (reference : Nat)
  | shownString (reference : Nat)
  | destroyString (reference : Nat)
  | leaveString (reference : Nat)

namespace Operation

def perform : Operation → Bridge Unit
  | .box value => forget (newVariant value)
  | .copy reference => forget (newVariant (.variant reference))
  | .destroy reference => destroyVariant reference
  | .leave reference => usingVariant reference (return ())
  | .address reference => forget (livePayload reference)
  | .typeOf reference => forget (Bridge.typeOf (livePayload reference))
  | .readBool reference => forget (Bridge.readBool (livePayload reference))
  | .readInt reference => forget (Bridge.readInt (livePayload reference))
  | .readFloat reference => forget (Bridge.readFloat (livePayload reference))
  | .readText reference => forget (Bridge.readText (livePayload reference))
  | .convert kind reference => forget (Bridge.convert kind (livePayload reference))
  | .equal reference other => forget (equalValues (.variant reference) other)
  | .hash reference => forget (Bridge.hash (livePayload reference))
  | .display reference => forget (Bridge.display (livePayload reference))
  | .shown reference => forget (shownVariant reference)
  | .newString text => forget (Bridge.newString text)
  | .describe reference => forget (stringDescription reference)
  | .shownString reference => forget (Bridge.shownString reference)
  | .destroyString reference => Bridge.destroyString reference
  | .leaveString reference => usingString reference (return ())

/-- The owner of a boxed value that an operation may release. -/
def released? : Operation → Option Nat
  | .destroy reference | .leave reference => some reference
  | _ => none

/-- The owner of a native string that an operation may release. -/
def releasedString? : Operation → Option Nat
  | .destroyString reference | .leaveString reference => some reference
  | _ => none

/-- One operation after the other, whatever each of them comes to. -/
def performAll : List Operation → Bridge Unit
  | [] => return ()
  | operation :: rest => do
      let _ ← attempt operation.perform
      performAll rest

end Operation

namespace Bridge

/-! The end of a block for whose time an owner is used does not depend on the block. -/

theorem releasing_return (release : Bridge Unit) : releasing (return ()) release = release := by
  change (pure (Except.ok ()) >>= fun outcome => release >>= fun _ => _) = release
  rw [pure_bind]
  exact bind_pure_unit

/-! An address that is refused is refused before the engine is asked anything. -/

section

variable {place : Attached name} {address : Bridge Payload} {failure : Failure}

theorem typeOf_of_refused
    (refused : runFrom address place.session = (.error failure, place.session)) :
    runFrom (typeOf address) place.session = (.error failure, place.session) := by
  unfold typeOf
  rw [runFrom_bind_of_ok (installedEngine_run place)]
  exact runFrom_bind_of_error refused _

theorem readAs_of_refused
    (refused : runFrom address place.session = (.error failure, place.session)) (gtype : GType)
    (decode : List UInt8 → Bridge α) :
    runFrom (readAs gtype address decode) place.session = (.error failure, place.session) :=
  runFrom_bind_of_error (typeOf_of_refused refused) _

theorem convert_of_refused
    (refused : runFrom address place.session = (.error failure, place.session))
    (kind : PlainKind) :
    runFrom (convert kind address) place.session = (.error failure, place.session) := by
  cases kind <;> exact runFrom_bind_of_error (readAs_of_refused refused _ _) _

theorem hash_of_refused
    (refused : runFrom address place.session = (.error failure, place.session)) :
    runFrom (hash address) place.session = (.error failure, place.session) := by
  unfold hash
  rw [runFrom_bind_of_ok (installedEngine_run place)]
  exact runFrom_bind_of_error refused _

theorem display_of_refused
    (refused : runFrom address place.session = (.error failure, place.session)) :
    runFrom (display address) place.session = (.error failure, place.session) := by
  unfold display
  rw [runFrom_bind_of_ok (installedEngine_run place)]
  exact runFrom_bind_of_error refused _

theorem equalVariants_of_refused
    (refused : runFrom address place.session = (.error failure, place.session))
    (other : Bridge Payload) :
    runFrom (equalVariants address other) place.session = (.error failure, place.session) := by
  unfold equalVariants
  rw [runFrom_bind_of_ok (installedEngine_run place)]
  exact runFrom_bind_of_error refused _

theorem equalVariants_of_otherRefused {other : Bridge Payload} {payload : Payload}
    (given : runFrom address place.session = (.ok payload, place.session))
    (refused : runFrom other place.session = (.error failure, place.session)) :
    runFrom (equalVariants address other) place.session = (.error failure, place.session) := by
  unfold equalVariants
  rw [runFrom_bind_of_ok (installedEngine_run place), runFrom_bind_of_ok given]
  exact runFrom_bind_of_error refused _

theorem box_of_refused {reference : Nat}
    (refused : place.session.livePayload reference = .error failure) :
    runFrom (box (.variant reference)) place.session = (.error failure, place.session) := by
  unfold box
  rw [runFrom_bind_of_ok (installedEngine_run place)]
  refine runFrom_bind_of_error ?_ _
  rw [livePayload_run, refused]

end

end Bridge

/-! Owners that have released what they held. -/

namespace Session

def IsDestroyed (session : Session) (reference : Nat) : Prop :=
  ∃ cell, session.variants[reference]? = some cell ∧ cell.isAlive = false

def IsStringDestroyed (session : Session) (reference : Nat) : Prop :=
  ∃ cell, session.strings[reference]? = some cell ∧ cell.isAlive = false

variable {session : Session} {reference : Nat}

theorem IsDestroyed.livePayload (destroyed : session.IsDestroyed reference) :
    session.livePayload reference = .error (.lifetime .variantUsedAfterDestroy) := by
  rcases destroyed with ⟨cell, found, dead⟩
  rw [Session.livePayload, found]
  simp only [dead]
  rfl

theorem IsStringDestroyed.liveString (destroyed : session.IsStringDestroyed reference) :
    session.liveString reference = .error (.lifetime .stringUsedAfterDestroy) := by
  rcases destroyed with ⟨cell, found, dead⟩
  rw [Session.liveString, found]
  simp only [dead]
  rfl

end Session

namespace Bridge

section

variable {session : Session} {reference : Nat}

theorem destroyVariant_of_destroyed (destroyed : session.IsDestroyed reference) :
    runFrom (destroyVariant reference) session =
      (.error (.lifetime .variantDestroyedTwice), session) := by
  rcases destroyed with ⟨cell, found, dead⟩
  unfold destroyVariant
  rw [runFrom_bind, variantCell_run, found]
  simp only [Option.elim_some, dead]
  rfl

/-- The end of a block does nothing once its owner has released what it held. -/
theorem leaveVariant_of_destroyed (destroyed : session.IsDestroyed reference) :
    runFrom (usingVariant reference (return ())) session = (.ok (), session) := by
  rcases destroyed with ⟨cell, found, dead⟩
  unfold usingVariant
  rw [releasing_return, runFrom_bind, variantCell_run, found]
  simp only [Option.elim_some, dead]
  rfl

theorem leaveVariant_of_other (other : ¬ session.IsDestroyed reference) :
    runFrom (usingVariant reference (return ())) session =
      runFrom (destroyVariant reference) session := by
  unfold usingVariant
  rw [releasing_return]
  cases found : session.variants[reference]? with
  | none =>
      unfold destroyVariant
      rw [runFrom_bind, variantCell_run, runFrom_bind, variantCell_run, found]
      rfl
  | some cell =>
      cases alive : cell.isAlive with
      | false => exact absurd ⟨cell, found, alive⟩ other
      | true =>
          rw [runFrom_bind, variantCell_run, found]
          simp only [Option.elim_some, alive, if_true]

theorem destroyString_of_refused {failure : Failure}
    (refused : session.liveString reference = .error failure) :
    runFrom (destroyString reference) session = (.error failure, session) := by
  refine runFrom_bind_of_error ?_ _
  rw [liveString_run, refused]

theorem leaveString_of_destroyed (destroyed : session.IsStringDestroyed reference) :
    runFrom (usingString reference (return ())) session = (.ok (), session) := by
  rcases destroyed with ⟨cell, found, dead⟩
  unfold usingString
  rw [releasing_return, runFrom_bind, stringCell_run, found]
  simp only [Option.elim_some, dead]
  rfl

theorem leaveString_of_other (other : ¬ session.IsStringDestroyed reference) :
    runFrom (usingString reference (return ())) session =
      runFrom (destroyString reference) session := by
  unfold usingString
  rw [releasing_return]
  cases found : session.strings[reference]? with
  | none =>
      unfold destroyString
      rw [runFrom_bind, stringCell_run, runFrom_bind, liveString_run, Session.liveString, found]
      rfl
  | some cell =>
      cases alive : cell.isAlive with
      | false => exact absurd ⟨cell, found, alive⟩ other
      | true =>
          rw [runFrom_bind, stringCell_run, found]
          simp only [Option.elim_some, alive, if_true]

theorem stringDescription_of_refused {failure : Failure}
    (refused : session.liveString reference = .error failure) :
    runFrom (stringDescription reference) session = (.error failure, session) := by
  refine runFrom_bind_of_error ?_ _
  rw [liveString_run, refused]

end

/-! Every operation carries over what is owned. -/

section

variable {start place : Attached name} {left : List Resource} {numbers : Nat}

theorem destroyVariant_carries (owns : Owns start place left numbers) (reference : Nat) :
    (destroyVariant reference).Carries start place (numbers + 2) (some reference) none := by
  cases found : place.session.variants[reference]? with
  | none =>
      have absent : runFrom (destroyVariant reference) place.session =
          (.error .noSuchKey, place.session) := by
        refine runFrom_bind_of_error ?_ _
        rw [variantCell_run, found]
        rfl
      exact .of_unchanged owns (.error rfl) absent _ _
  | some cell =>
      cases alive : cell.isAlive with
      | false =>
          exact .of_unchanged owns (.error rfl) (destroyVariant_of_destroyed ⟨cell, found, alive⟩)
            _ _
      | true =>
          rcases owns.exists_steps_destroy found alive with ⟨after, ran, steps, -⟩
          exact ⟨_, after, ran, .ok (), steps.weaken (Nat.le_add_right numbers 2)⟩

theorem leaveVariant_carries (owns : Owns start place left numbers) (reference : Nat) :
    (usingVariant reference (return ())).Carries start place (numbers + 2) (some reference)
      none := by
  by_cases destroyed : place.session.IsDestroyed reference
  · exact .of_unchanged owns (.ok ()) (leaveVariant_of_destroyed destroyed) _ _
  · rcases destroyVariant_carries owns reference with ⟨outcome, after, ran, rest⟩
    exact ⟨outcome, after, (leaveVariant_of_other destroyed).trans ran, rest⟩

theorem destroyString_carries (owns : Owns start place left numbers) (reference : Nat) :
    (destroyString reference).Carries start place (numbers + 2) none (some reference) := by
  cases live : place.session.liveString reference with
  | error failure =>
      exact .of_unchanged owns (.error (place.session.liveString_sound reference failure live))
        (destroyString_of_refused live) _ _
  | ok string =>
      unfold Session.liveString at live
      split at live
      case h_1 cell found =>
          cases alive : cell.isAlive with
          | false =>
              rw [alive] at live
              cases live
          | true =>
              rcases owns.exists_steps_destroyString found alive with ⟨after, ran, steps, -⟩
              exact ⟨_, after, ran, .ok (), steps.weaken (Nat.le_add_right numbers 2)⟩
      case h_2 => cases live

theorem leaveString_carries (owns : Owns start place left numbers) (reference : Nat) :
    (usingString reference (return ())).Carries start place (numbers + 2) none
      (some reference) := by
  by_cases destroyed : place.session.IsStringDestroyed reference
  · exact .of_unchanged owns (.ok ()) (leaveString_of_destroyed destroyed) _ _
  · rcases destroyString_carries owns reference with ⟨outcome, after, ran, rest⟩
    exact ⟨outcome, after, (leaveString_of_other destroyed).trans ran, rest⟩

/-- An owner that was released is destroyed from then on, in whatever way it was released. -/
theorem destroyVariant_destroys (owns : Owns start place left numbers) {reference : Nat}
    {cell : VariantCell} (found : place.session.variants[reference]? = some cell) :
    (runFrom (destroyVariant reference) place.session).2.variants[reference]? =
      some { cell with isAlive := false } := by
  cases alive : cell.isAlive with
  | false =>
      rw [destroyVariant_of_destroyed ⟨cell, found, alive⟩, found, ← alive]
  | true =>
      rcases owns.exists_steps_destroy found alive with ⟨after, ran, -, released⟩
      rw [ran, released]

theorem destroyString_destroys (owns : Owns start place left numbers) {reference : Nat}
    {cell : StringCell} (found : place.session.strings[reference]? = some cell) :
    (runFrom (destroyString reference) place.session).2.strings[reference]? =
      some { cell with isAlive := false } := by
  cases alive : cell.isAlive with
  | false =>
      have destroyed : place.session.IsStringDestroyed reference := ⟨cell, found, alive⟩
      rw [destroyString_of_refused destroyed.liveString, found, ← alive]
  | true =>
      rcases owns.exists_steps_destroyString found alive with ⟨after, ran, -, released⟩
      rw [ran, released]

theorem stringDescription_carries (owns : Owns start place left numbers) (reference : Nat) :
    (stringDescription reference).Carries start place (numbers + 2) none none := by
  cases live : place.session.liveString reference with
  | error failure =>
      exact .of_unchanged owns (.error (place.session.liveString_sound reference failure live))
        (stringDescription_of_refused live) none none
  | ok string =>
      rcases stringDescription_yields live with ⟨after, described⟩
      exact .of_yields owns (.ok _) described (Nat.zero_le 2) none none

theorem shownString_carries (owns : Owns start place left numbers) (reference : Nat) :
    (shownString reference).Carries start place (numbers + 2) none none := by
  have looked := stringCell_run reference place.session
  cases found : place.session.strings[reference]? with
  | none =>
      rw [found] at looked
      exact .of_unchanged owns (.error rfl) (runFrom_bind_of_error looked _) none none
  | some cell =>
      rw [found] at looked
      cases alive : cell.isAlive with
      | false =>
          have shown : runFrom (shownString reference) place.session =
              (.ok "GString(<destroyed>)", place.session) := by
            unfold shownString
            rw [runFrom_bind_of_ok looked, alive]
            rfl
          exact .of_unchanged owns (.ok _) shown none none
      | true =>
          rcases stringDescription_carries owns reference with ⟨outcome, after, ran, sound, steps⟩
          refine ⟨outcome.map fun text => "GString(" ++ Text.quoted text ++ ")", after, ?_,
            sound.map _, steps⟩
          unfold shownString
          rw [runFrom_bind_of_ok looked, alive, if_pos rfl, runFrom_bind, ran]
          cases outcome <;> rfl

theorem shownVariant_carries (owns : Owns start place left numbers) (reference : Nat) :
    (shownVariant reference).Carries start place (numbers + 2) none none := by
  have looked := variantCell_run reference place.session
  cases found : place.session.variants[reference]? with
  | none =>
      rw [found] at looked
      exact .of_unchanged owns (.error rfl) (runFrom_bind_of_error looked _) none none
  | some cell =>
      rw [found] at looked
      cases alive : cell.isAlive with
      | false =>
          have shown : runFrom (shownVariant reference) place.session =
              (.ok "Variant(<destroyed>)", place.session) := by
            unfold shownVariant
            rw [runFrom_bind_of_ok looked, alive]
            rfl
          exact .of_unchanged owns (.ok _) shown none none
      | true =>
          have live := Session.livePayload_of_isAlive found alive
          have addresses := addresses_livePayload live
          rcases owns.content_of_live live with ⟨typeNumber, content, contentFound⟩
          rcases typeOf_yields addresses contentFound with ⟨middle, typed⟩
          have still := Engine.content?_of_leaves typed.leaves cell.payload.slot
          rcases display_yields (addresses.later typed.keeps) (still.trans contentFound)
              with ⟨after, displayed⟩
          have shown : (shownVariant reference).Yields place
              (.ok ("Variant(" ++ (typeNamed typeNumber).name ++ ": " ++ content.display ++ ")"))
              after [] 1 := by
            unfold shownVariant
            have cellFound : (variantCell reference).Yields place (.ok cell) place [] 0 :=
              .of_unchanged looked
            refine cellFound.nothing_bind ?_
            rw [alive, if_pos rfl]
            refine typed.nothing_bind ?_
            exact displayed.map fun text =>
              "Variant(" ++ (typeNamed typeNumber).name ++ ": " ++ text ++ ")"
          exact .of_yields owns (.ok _) shown (Nat.le_succ 1) none none

/-- Only where both values are boxed is the engine asked. -/
theorem equalValues_carries (owns : Owns start place left numbers)
    (own : place.engine.fixedAnswer = none) (reference : Nat) (other : Value) :
    (equalValues (.variant reference) other).Carries start place (numbers + 2) none none := by
  cases other with
  | variant otherReference =>
      have compared : (equalVariants (livePayload reference) (livePayload otherReference)).Carries
          start place (numbers + 2) none none := by
        apply Carries.of_asks owns fun refused => equalVariants_of_refused refused _
        intro payload typeNumber content addresses found
        have given := addresses place.session (.refl place.session name)
        cases live : place.session.livePayload otherReference with
        | error failure =>
            have refused := equalVariants_of_otherRefused given
              ((livePayload_run otherReference place.session).trans (by rw [live]))
            exact ⟨_, place,
              .error (place.session.livePayload_sound otherReference failure live),
              (Yields.of_unchanged refused).weaken (Nat.zero_le 2)⟩
        | ok otherPayload =>
            rcases owns.content_of_live live with ⟨otherType, otherContent, otherFound⟩
            rcases equalVariants_yields own addresses (addresses_livePayload live) found
                otherFound with ⟨outcome, after, sound, compared⟩
            exact ⟨outcome, after, sound, compared.weaken (Nat.le_succ 1)⟩
      simp only [equalValues]
      exact compared
  | _ =>
      have alone : ∀ value : Bool,
          (return value : Bridge Bool).Carries start place (numbers + 2) none none :=
        fun value => .of_unchanged owns (.ok value) rfl none none
      simp only [equalValues]
      exact alone _

end

end Bridge

namespace Operation

variable {start place : Attached name} {left : List Resource} {numbers : Nat}

/-- Every operation carries over what is owned, whatever came before it. -/
theorem perform_carries (owns : Owns start place left numbers)
    (own : place.engine.fixedAnswer = none) (room : place.engine.HasRoom 1)
    (operation : Operation) :
    operation.perform.Carries start place (numbers + 2) operation.released?
      operation.releasedString? := by
  cases operation with
  | box value => exact (newVariant_carries owns value).forget
  | copy reference => exact (newVariant_carries owns (.variant reference)).forget
  | destroy reference => exact destroyVariant_carries owns reference
  | leave reference => exact leaveVariant_carries owns reference
  | address reference =>
      apply Carries.forget
      apply Carries.of_asks owns id
      exact fun addresses _ => ⟨_, place, .ok _, addresses.yields.weaken (Nat.zero_le 2)⟩
  | typeOf reference =>
      apply Carries.forget
      apply Carries.of_asks owns typeOf_of_refused
      intro payload typeNumber content addresses found
      rcases typeOf_yields addresses found with ⟨after, typed⟩
      exact ⟨_, after, .ok _, typed.weaken (Nat.zero_le 2)⟩
  | readBool reference =>
      apply Carries.forget
      apply Carries.of_asks owns fun refused => readAs_of_refused refused _ _
      intro payload typeNumber content addresses found
      rcases readBool_yields addresses found with ⟨outcome, after, sound, read⟩
      exact ⟨outcome, after, sound, read.weaken (Nat.zero_le 2)⟩
  | readInt reference =>
      apply Carries.forget
      apply Carries.of_asks owns fun refused => readAs_of_refused refused _ _
      intro payload typeNumber content addresses found
      rcases readInt_yields addresses found with ⟨outcome, after, sound, read⟩
      exact ⟨outcome, after, sound, read.weaken (Nat.zero_le 2)⟩
  | readFloat reference =>
      apply Carries.forget
      apply Carries.of_asks owns fun refused => readAs_of_refused refused _ _
      intro payload typeNumber content addresses found
      rcases readFloat_yields addresses found with ⟨outcome, after, sound, read⟩
      exact ⟨outcome, after, sound, read.weaken (Nat.zero_le 2)⟩
  | readText reference =>
      apply Carries.forget
      apply Carries.of_asks owns fun refused => readAs_of_refused refused _ _
      intro payload typeNumber content addresses found
      rcases readText_yields addresses found room with ⟨outcome, after, sound, read⟩
      exact ⟨outcome, after, sound, read.weaken (Nat.le_succ 1)⟩
  | convert kind reference =>
      apply Carries.forget
      apply Carries.of_asks owns fun refused => convert_of_refused refused kind
      intro payload typeNumber content addresses found
      rcases convert_yields kind addresses found room with ⟨outcome, after, sound, read⟩
      exact ⟨outcome, after, sound, read.weaken (Nat.le_succ 1)⟩
  | equal reference other => exact (equalValues_carries owns own reference other).forget
  | hash reference =>
      apply Carries.forget
      apply Carries.of_asks owns hash_of_refused
      intro payload typeNumber content addresses found
      rcases hash_yields addresses found with ⟨after, hashed⟩
      exact ⟨_, after, .ok _, hashed.weaken (Nat.zero_le 2)⟩
  | display reference =>
      apply Carries.forget
      apply Carries.of_asks owns display_of_refused
      intro payload typeNumber content addresses found
      rcases display_yields addresses found with ⟨after, displayed⟩
      exact ⟨_, after, .ok _, displayed.weaken (Nat.le_succ 1)⟩
  | shown reference => exact (shownVariant_carries owns reference).forget
  | newString text => exact (newString_carries owns text).forget
  | describe reference => exact (stringDescription_carries owns reference).forget
  | shownString reference => exact (shownString_carries owns reference).forget
  | destroyString reference => exact destroyString_carries owns reference
  | leaveString reference => exact leaveString_carries owns reference

/-- Any operations carry over what is owned, one after the other. -/
theorem performAll_owns (operations : List Operation) (owns : Owns start place left numbers)
    (own : start.engine.fixedAnswer = none)
    (room : start.engine.HasRoom (numbers + 2 * operations.length)) :
    ∃ (last : Attached name) (more : List Resource),
      runFrom (performAll operations) place.session = (.ok (), last.session) ∧
        Owns start last more (numbers + 2 * operations.length) := by
  induction operations generalizing place left numbers with
  | nil => exact ⟨place, left, rfl, owns⟩
  | cons operation rest induction =>
      rw [List.length_cons] at room ⊢
      have still : place.engine.fixedAnswer = none := by
        rw [owns.leaves.register.fixedAnswer, own]
      have placeRoom : place.engine.HasRoom 1 := owns.leaves.hasRoom (room.weaken (by omega))
      rcases perform_carries owns still placeRoom operation
          with ⟨outcome, middle, ran, -, more, middleOwns, -⟩
      rcases induction middleOwns (room.weaken (by omega)) with ⟨last, kept, finished, lastOwns⟩
      refine ⟨last, kept, ?_, ?_⟩
      · unfold performAll
        rw [runFrom_bind_of_ok (runFrom_attempt ran), finished]
      · have count : numbers + 2 * (rest.length + 1) = numbers + 2 + 2 * rest.length := by omega
        rw [count]
        exact lastOwns

/-- An owner that an operation may release is destroyed afterwards. -/
theorem runFrom_perform_released (owns : Owns start place left numbers) {operation : Operation}
    {reference : Nat} (releases : operation.released? = some reference) {cell : VariantCell}
    (found : place.session.variants[reference]? = some cell) :
    (runFrom operation.perform place.session).2.variants[reference]? =
      some { cell with isAlive := false } := by
  have destroys := destroyVariant_destroys owns found
  cases operation with
  | destroy other =>
      cases releases
      exact destroys
  | leave other =>
      cases releases
      by_cases destroyed : place.session.IsDestroyed reference
      · rw [destroyVariant_of_destroyed destroyed] at destroys
        rw [perform, leaveVariant_of_destroyed destroyed, destroys]
      · rw [perform, leaveVariant_of_other destroyed, destroys]
  | _ => cases releases

theorem runFrom_perform_releasedString (owns : Owns start place left numbers)
    {operation : Operation} {reference : Nat}
    (releases : operation.releasedString? = some reference) {cell : StringCell}
    (found : place.session.strings[reference]? = some cell) :
    (runFrom operation.perform place.session).2.strings[reference]? =
      some { cell with isAlive := false } := by
  have destroys := destroyString_destroys owns found
  cases operation with
  | destroyString other =>
      cases releases
      exact destroys
  | leaveString other =>
      cases releases
      by_cases destroyed : place.session.IsStringDestroyed reference
      · rw [destroyString_of_refused destroyed.liveString] at destroys
        rw [perform, leaveString_of_destroyed destroyed, destroys]
      · rw [perform, leaveString_of_other destroyed, destroys]
  | _ => cases releases

/-- The operations that need what an owner holds that has released it. -/
inductive AsksDestroyed (session : Session) : Operation → Prop
  | box {reference : Nat} (destroyed : session.IsDestroyed reference) :
      AsksDestroyed session (.box (.variant reference))
  | copy {reference : Nat} (destroyed : session.IsDestroyed reference) :
      AsksDestroyed session (.copy reference)
  | destroy {reference : Nat} (destroyed : session.IsDestroyed reference) :
      AsksDestroyed session (.destroy reference)
  | address {reference : Nat} (destroyed : session.IsDestroyed reference) :
      AsksDestroyed session (.address reference)
  | typeOf {reference : Nat} (destroyed : session.IsDestroyed reference) :
      AsksDestroyed session (.typeOf reference)
  | readBool {reference : Nat} (destroyed : session.IsDestroyed reference) :
      AsksDestroyed session (.readBool reference)
  | readInt {reference : Nat} (destroyed : session.IsDestroyed reference) :
      AsksDestroyed session (.readInt reference)
  | readFloat {reference : Nat} (destroyed : session.IsDestroyed reference) :
      AsksDestroyed session (.readFloat reference)
  | readText {reference : Nat} (destroyed : session.IsDestroyed reference) :
      AsksDestroyed session (.readText reference)
  | convert {reference : Nat} (kind : PlainKind) (destroyed : session.IsDestroyed reference) :
      AsksDestroyed session (.convert kind reference)
  | equal {reference other : Nat} (destroyed : session.IsDestroyed reference) :
      AsksDestroyed session (.equal reference (.variant other))
  | equalOther {reference other : Nat} {payload : Payload}
      (live : session.livePayload reference = .ok payload) (destroyed : session.IsDestroyed other) :
      AsksDestroyed session (.equal reference (.variant other))
  | hash {reference : Nat} (destroyed : session.IsDestroyed reference) :
      AsksDestroyed session (.hash reference)
  | display {reference : Nat} (destroyed : session.IsDestroyed reference) :
      AsksDestroyed session (.display reference)
  | describe {reference : Nat} (destroyed : session.IsStringDestroyed reference) :
      AsksDestroyed session (.describe reference)
  | destroyString {reference : Nat} (destroyed : session.IsStringDestroyed reference) :
      AsksDestroyed session (.destroyString reference)

theorem runFrom_newVariant_of_destroyed {reference : Nat}
    (destroyed : place.session.IsDestroyed reference) :
    runFrom (newVariant (.variant reference)) place.session =
      (.error (.lifetime .variantUsedAfterDestroy), place.session) :=
  runFrom_bind_of_error (box_of_refused destroyed.livePayload) _

/-- What asks for something that was released fails, and nothing else happens. -/
theorem runFrom_perform_of_asksDestroyed {operation : Operation}
    (asks : AsksDestroyed place.session operation) :
    ∃ cause,
      runFrom operation.perform place.session = (.error (.lifetime cause), place.session) := by
  have refused : ∀ {reference : Nat}, place.session.IsDestroyed reference →
      runFrom (livePayload reference) place.session =
        (.error (.lifetime .variantUsedAfterDestroy), place.session) :=
    fun destroyed => (livePayload_run _ _).trans (by rw [destroyed.livePayload])
  cases asks with
  | box destroyed => exact ⟨_, runFrom_forget (runFrom_newVariant_of_destroyed destroyed)⟩
  | copy destroyed => exact ⟨_, runFrom_forget (runFrom_newVariant_of_destroyed destroyed)⟩
  | destroy destroyed => exact ⟨_, destroyVariant_of_destroyed destroyed⟩
  | address destroyed => exact ⟨_, runFrom_forget (refused destroyed)⟩
  | typeOf destroyed => exact ⟨_, runFrom_forget (typeOf_of_refused (refused destroyed))⟩
  | readBool destroyed | readInt destroyed | readFloat destroyed | readText destroyed =>
      exact ⟨_, runFrom_forget (readAs_of_refused (refused destroyed) _ _)⟩
  | convert kind destroyed =>
      exact ⟨_, runFrom_forget (convert_of_refused (refused destroyed) kind)⟩
  | equal destroyed =>
      unfold perform
      simp only [equalValues]
      exact ⟨_, runFrom_forget (equalVariants_of_refused (refused destroyed) _)⟩
  | equalOther live destroyed =>
      unfold perform
      simp only [equalValues]
      have given := (livePayload_run _ place.session).trans (by rw [live])
      exact ⟨_, runFrom_forget (equalVariants_of_otherRefused given (refused destroyed))⟩
  | hash destroyed => exact ⟨_, runFrom_forget (hash_of_refused (refused destroyed))⟩
  | display destroyed => exact ⟨_, runFrom_forget (display_of_refused (refused destroyed))⟩
  | describe destroyed =>
      exact ⟨_, runFrom_forget (stringDescription_of_refused destroyed.liveString)⟩
  | destroyString destroyed => exact ⟨_, destroyString_of_refused destroyed.liveString⟩

/-- Boxing a native string that was released comes to the same, except that the function tables are
looked up before unless they are known. -/
theorem runFrom_perform_of_stringDestroyed {reference : Nat}
    (destroyed : place.session.IsStringDestroyed reference) :
    ∃ after : Attached name, runFrom (perform (.box (.nativeString reference))) place.session =
        (.error (.lifetime .stringUsedAfterDestroy), after.session) ∧
      (place.session.tables ≠ none → after = place) ∧
      (place.session.tables = none →
        after.engine = (runFrom Native.lookUpConstructors place.engine).2) := by
  have sourced : ∀ middle : Attached name, place.session.Keeps middle.session name →
      runFrom (typedSource (.nativeString reference)) middle.session =
        (.error (.lifetime .stringUsedAfterDestroy), middle.session) := by
    intro middle keeps
    rw [typedSource_run, Session.typedSource, keeps.liveString, destroyed.liveString]
    rfl
  have boxed : ∀ middle : Attached name,
      functionTables.Yields place (.ok (place.engine.functionTables name)) middle [] 0 →
        runFrom (perform (.box (.nativeString reference))) place.session =
          (.error (.lifetime .stringUsedAfterDestroy), middle.session) := by
    intro middle known
    refine runFrom_forget (runFrom_bind_of_error ?_ _)
    unfold Bridge.box
    rw [runFrom_bind_of_ok (installedEngine_run place), runFrom_bind_of_ok known.ran]
    exact runFrom_bind_of_error (sourced middle known.keeps) _
  cases tables : place.session.tables with
  | some tables =>
      exact ⟨place, boxed place (functionTables_of_known tables), fun _ => rfl,
        fun unknown => by cases unknown⟩
  | none =>
      rcases functionTables_of_unknown tables with ⟨middle, engine, known⟩
      exact ⟨middle, boxed middle known, fun known => absurd rfl known, fun _ => engine⟩

end Operation

end EngineBridge
