import EngineBridge.Proofs.Session.Operations
import Mathlib.Logic.ExistsUnique

/-!
The life of owners.

Operations on owners may come in any order, and go on after any of them has failed.
`lifetimes_in_step` says what holds of every one of them wherever it comes: live owners and what is
live in the engine stay in step, an owner that has released what it held refuses to be asked for it,
and the other owners hold what they held.
-/

namespace EngineBridge

open Attached Bridge

variable {name : String}

/-- What is owned and what is live are the same, and nothing has two owners. -/
structure Matched {α β : Type} (owners : List α) (owned? : α → Option Int)
    (live : List (Int × β)) : Prop where
  isLive : ∀ (index : Nat) (owner : α) (number : Int), owners[index]? = some owner →
    owned? owner = some number → (live.lookup number).isSome = true
  existsUnique : ∀ number : Int, (live.lookup number).isSome = true →
    ∃! index : Nat, ∃ owner : α, owners[index]? = some owner ∧ owned? owner = some number

private theorem isSome_lookup_iff {β : Type} {live : List (Int × β)} {number : Int} :
    (live.lookup number).isSome = true ↔ number ∈ live.map Prod.fst := by
  rw [List.lookup_isSome_iff]
  constructor
  · rintro ⟨entry, mem, same⟩
    exact eq_of_beq same ▸ List.mem_map_of_mem mem
  · intro mem
    rcases List.mem_map.mp mem with ⟨entry, entryMem, rfl⟩
    exact ⟨entry, entryMem, BEq.rfl⟩

private theorem lookup_eq_none_iff {β : Type} {live : List (Int × β)} {number : Int} :
    live.lookup number = none ↔ number ∉ live.map Prod.fst := by
  rw [← isSome_lookup_iff, Bool.not_eq_true, Option.isSome_eq_false_iff,
    Option.isNone_iff_eq_none]

theorem Matched.of_perm {α β : Type} {owners : List α} {owned? : α → Option Int}
    {live : List (Int × β)} (perm : (owners.filterMap owned?).Perm (live.map Prod.fst))
    (distinct : (live.map Prod.fst).Nodup) : Matched owners owned? live where
  isLive index owner number found owned :=
    isSome_lookup_iff.mpr (perm.subset (mem_owned found owned))
  existsUnique number isLive := by
    have mem := perm.symm.subset (isSome_lookup_iff.mp isLive)
    rcases List.mem_filterMap.mp mem with ⟨owner, ownerMem, owned⟩
    rcases List.getElem?_of_mem ownerMem with ⟨index, found⟩
    refine ⟨index, ⟨owner, found, owned⟩, ?_⟩
    rintro other ⟨second, otherFound, otherOwned⟩
    exact owner_unique (perm.nodup_iff.mpr distinct) otherFound otherOwned found owned

namespace Attached

/-- The live owners are matched with the live slots and with the live native strings. A number was
released once if it was given out and is not live, and never otherwise. -/
structure InStep (place : Attached name) : Prop where
  slots : Matched place.session.variants VariantCell.owned? place.engine.slots
  strings : Matched place.session.strings StringCell.owned? place.engine.strings
  released : ∀ number, number ≠ 0 → place.engine.releases number =
    if 0 < number ∧ number < place.engine.next ∧ place.engine.slot? number = none ∧
      place.engine.strings.lookup number = none then 1 else 0

variable {start place : Attached name} {left : List Resource} {numbers : Nat}

private theorem sublist_slotEntries (resources : List Resource) :
    ((Resource.slotEntries resources).map Prod.fst).Sublist (resources.map Resource.number) := by
  induction resources with
  | nil => exact List.Sublist.refl []
  | cons resource rest induction =>
      cases resource with
      | slot number typeNumber content => exact induction.cons_cons number
      | string number text => exact induction.cons number

private theorem sublist_stringEntries (resources : List Resource) :
    ((Resource.stringEntries resources).map Prod.fst).Sublist (resources.map Resource.number) := by
  induction resources with
  | nil => exact List.Sublist.refl []
  | cons resource rest induction =>
      cases resource with
      | slot number typeNumber content => exact induction.cons number
      | string number text => exact induction.cons_cons number

private theorem mem_number_iff {resources : List Resource} {number : Int} :
    number ∈ resources.map Resource.number ↔
      number ∈ (Resource.slotEntries resources).map Prod.fst ∨
        number ∈ (Resource.stringEntries resources).map Prod.fst := by
  constructor
  · intro mem
    rcases List.mem_map.mp mem with ⟨resource, resourceMem, rfl⟩
    cases resource with
    | slot number typeNumber content =>
        have entry : (number, typeNumber, content) ∈ Resource.slotEntries resources :=
          List.mem_filterMap.mpr ⟨_, resourceMem, rfl⟩
        exact .inl (List.mem_map_of_mem entry)
    | string number text =>
        have entry : (number, text) ∈ Resource.stringEntries resources :=
          List.mem_filterMap.mpr ⟨_, resourceMem, rfl⟩
        exact .inr (List.mem_map_of_mem entry)
  · rintro (slot | string)
    · exact (sublist_slotEntries resources).subset slot
    · exact (sublist_stringEntries resources).subset string

/-- What the owners hold in an engine in which nothing was there before them is in step. -/
theorem Owns.inStep {kindName : String} {missing : List Int} {fixedAnswer : Option FixedAnswer}
    (owns : Owns start place left numbers)
    (fresh : start.engine = Engine.fresh kindName missing fixedAnswer) : place.InStep := by
  have leaves := owns.leaves
  rw [fresh] at leaves
  have slots : place.engine.slots = Resource.slotEntries left :=
    leaves.slots.trans (List.append_nil _)
  have strings : place.engine.strings = Resource.stringEntries left :=
    leaves.strings.trans (List.append_nil _)
  refine ⟨.of_perm ?_ ?_, .of_perm ?_ ?_, fun number nonzero => ?_⟩
  · rw [slots]
    exact owns.slots
  · rw [slots]
    exact leaves.distinct.sublist (sublist_slotEntries left)
  · rw [strings]
    exact owns.strings
  · rw [strings]
    exact leaves.distinct.sublist (sublist_stringEntries left)
  · have none_iff : number ∉ left.map Resource.number ↔ place.engine.slot? number = none ∧
        place.engine.strings.lookup number = none := by
      rw [mem_number_iff, not_or, Engine.slot?, lookup_eq_none_iff, lookup_eq_none_iff, slots,
        strings]
    have counted := leaves.released number nonzero
    simp only [none_iff] at counted
    rw [counted]
    exact Nat.zero_add _

theorem eq_of_session {first second : Attached name} (same : first.session = second.session) :
    first = second := by
  rcases first with ⟨session, engine, installed, found, numbered, tables⟩
  rcases second with ⟨_, other, _, otherFound, _, _⟩
  cases same
  cases found.symm.trans otherFound
  rfl

end Attached

/-- What one operation comes to where owners and engine are in step. -/
structure Behaves (place : Attached name) (operation : Operation) (outcome : Except Failure Unit)
    (after : Attached name) : Prop where
  ran : runFrom operation.perform place.session = (outcome, after.session)
  /-- The engine was not handed anything that is gone. -/
  sound : Sound outcome
  inStep : after.InStep
  /-- Owners that the operation does not release hold what they held. -/
  frames : Frames place after operation.released? operation.releasedString?
  released : ∀ reference cell, operation.released? = some reference →
    place.session.variants[reference]? = some cell →
      after.session.variants[reference]? = some { cell with isAlive := false }
  releasedString : ∀ reference cell, operation.releasedString? = some reference →
    place.session.strings[reference]? = some cell →
      after.session.strings[reference]? = some { cell with isAlive := false }
  refused : operation.AsksDestroyed place.session →
    (∃ cause, outcome = .error (.lifetime cause)) ∧ after = place
  /-- Boxing a native string that was released is refused once the function tables are known. -/
  refusedString : ∀ reference, operation = .box (.nativeString reference) →
    place.session.IsStringDestroyed reference →
      outcome = .error (.lifetime .stringUsedAfterDestroy) ∧
      (place.session.tables ≠ none → after = place) ∧
      (place.session.tables = none →
        after.engine = (runFrom Native.lookUpConstructors place.engine).2)
  /-- The end of a block does nothing to an owner that was released within it. -/
  left : ∀ reference, operation = .leave reference → place.session.IsDestroyed reference →
    outcome = .ok () ∧ after = place
  leftString : ∀ reference, operation = .leaveString reference →
    place.session.IsStringDestroyed reference → outcome = .ok () ∧ after = place

theorem Attached.Owns.behaves {start place : Attached name} {left : List Resource} {numbers : Nat}
    {kindName : String} {missing : List Int} (owns : Owns start place left numbers)
    (fresh : start.engine = Engine.fresh kindName missing none)
    (room : start.engine.HasRoom (numbers + 1)) (operation : Operation) :
    ∃ outcome after, Behaves place operation outcome after := by
  have own : place.engine.fixedAnswer = none := by
    rw [owns.leaves.register.fixedAnswer, fresh]
    rfl
  rcases operation.perform_carries owns own (owns.leaves.hasRoom room)
      with ⟨outcome, after, ran, sound, more, still, frames⟩
  have same : ∀ {other : Except Failure Unit} {last : Attached name},
      runFrom operation.perform place.session = (other, last.session) →
        outcome = other ∧ after = last := by
    intro other last again
    rw [ran] at again
    exact ⟨congrArg Prod.fst again, eq_of_session (congrArg Prod.snd again)⟩
  refine ⟨outcome, after, ran, sound, still.inStep fresh, frames, ?_, ?_, ?_, ?_, ?_, ?_⟩
  · intro reference cell releases found
    have released := Operation.runFrom_perform_released owns releases found
    rw [ran] at released
    exact released
  · intro reference cell releases found
    have released := Operation.runFrom_perform_releasedString owns releases found
    rw [ran] at released
    exact released
  · intro asks
    rcases Operation.runFrom_perform_of_asksDestroyed asks with ⟨cause, refused⟩
    rcases same refused with ⟨failed, unchanged⟩
    exact ⟨⟨cause, failed⟩, unchanged⟩
  · rintro reference rfl destroyed
    rcases Operation.runFrom_perform_of_stringDestroyed destroyed
        with ⟨last, refused, known, unknown⟩
    rcases same refused with ⟨rfl, rfl⟩
    exact ⟨rfl, known, unknown⟩
  · rintro reference rfl destroyed
    exact same (leaveVariant_of_destroyed destroyed)
  · rintro reference rfl destroyed
    exact same (leaveString_of_destroyed destroyed)

namespace Attached

/-- A session with an engine in which nothing has happened. -/
def ofFresh (name kindName : String) (missing : List Int) : Attached name :=
  .ofEngine name (Engine.fresh kindName missing none) (Engine.numbered_fresh kindName missing none)

end Attached

/-- Whatever was done with owners before, they are in step with the engine, and whatever is done
next behaves. -/
theorem lifetimes_in_step (name kindName : String) (missing : List Int)
    (operations : List Operation)
    (room : (ofFresh name kindName missing).engine.HasRoom (2 * operations.length + 1)) :
    ∃ place : Attached name,
      runFrom (Operation.performAll operations) (ofFresh name kindName missing).session =
        (.ok (), place.session) ∧ place.InStep ∧
      ∀ operation, ∃ outcome after, Behaves place operation outcome after := by
  have begins : Owns (ofFresh name kindName missing) (ofFresh name kindName missing) [] 0 :=
    ⟨.refl _, .refl [], .refl []⟩
  rcases Operation.performAll_owns operations begins rfl (room.weaken (by omega))
      with ⟨place, left, ran, owns⟩
  exact ⟨place, ran, owns.inStep rfl,
    fun operation => owns.behaves rfl (room.weaken (by omega)) operation⟩

theorem lifetimes_in_step_of_block : ∃ place : Attached "main",
    runFrom (Operation.performAll [.box (.text "a"), .copy 0, .destroy 0, .leave 0])
      (ofFresh "main" "Engine" []).session = (.ok (), place.session) ∧ place.InStep ∧
    ∀ operation, ∃ outcome after, Behaves place operation outcome after :=
  lifetimes_in_step "main" "Engine" [] [.box (.text "a"), .copy 0, .destroy 0, .leave 0] (by decide)

/-- The engine is asked for its construction routines even though the native string is gone. -/
theorem boxing_destroyed_string_looks_up : ∃ session after : Session,
    runFrom (Operation.performAll [.newString "a", .destroyString 0])
      (ofFresh "main" "Engine" []).session = (.ok (), session) ∧
    session.IsStringDestroyed 0 ∧
    runFrom (Operation.perform (.box (.nativeString 0))) session =
      (.error (.lifetime .stringUsedAfterDestroy), after) ∧
    session.engine?.map Engine.fromLookups = some 0 ∧
    after.engine?.map Engine.fromLookups = some 38 :=
  ⟨_, _, rfl, ⟨_, rfl, rfl⟩, rfl, rfl, rfl⟩

end EngineBridge
