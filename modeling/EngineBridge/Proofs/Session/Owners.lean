import EngineBridge.Proofs.Session.Readers

/-!
Owners, and what they hold in the engine.

`Attached.Owns` says that of everything that was made since a session began exactly what its live
owners hold is left. Each way in which an operation can end has a lemma that carries this over: it
leaves nothing, it leaves something that gets an owner, or it releases what an owner holds.
-/

namespace EngineBridge

open Bridge

variable {α β : Type} {name : String}

/-- The slot of an owner that has not released it. -/
def VariantCell.owned? (cell : VariantCell) : Option Int :=
  if cell.isAlive then some cell.payload.slot else none

/-- The native string of an owner that has not released it. -/
def StringCell.owned? (cell : StringCell) : Option Int :=
  if cell.isAlive then some cell.string else none

namespace Session

def ownedSlots (session : Session) : List Int :=
  session.variants.filterMap VariantCell.owned?

def ownedStrings (session : Session) : List Int :=
  session.strings.filterMap StringCell.owned?

end Session

/-! What is owned by one item of a list of owners. -/

section

variable {items : List α} {owned? : α → Option β} {index other : Nat} {item released : α}
  {number : β}

theorem mem_owned (found : items[index]? = some item) (owned : owned? item = some number) :
    number ∈ items.filterMap owned? :=
  List.mem_filterMap.mpr ⟨item, List.mem_of_getElem? found, owned⟩

/-- An owner that releases what it holds takes it out of what is owned. -/
theorem owned_perm_set (found : items[index]? = some item) (owned : owned? item = some number)
    (gone : owned? released = none) :
    (items.filterMap owned?).Perm (number :: (items.set index released).filterMap owned?) := by
  induction items generalizing index with
  | nil => cases found
  | cons first rest induction =>
      cases index with
      | zero =>
          cases found
          rw [List.set_cons_zero, List.filterMap_cons_some owned, List.filterMap_cons_none gone]
      | succ index =>
          have perm := induction found
          rw [List.set_cons_succ]
          cases head : owned? first with
          | none =>
              rw [List.filterMap_cons_none head, List.filterMap_cons_none head]
              exact perm
          | some held =>
              rw [List.filterMap_cons_some head, List.filterMap_cons_some head]
              exact (perm.cons held).trans (List.Perm.swap number held _)

theorem owner_unique (distinct : (items.filterMap owned?).Nodup)
    (found : items[index]? = some item) (owned : owned? item = some number)
    {second : α} (otherFound : items[other]? = some second)
    (otherOwned : owned? second = some number) :
    index = other := by
  rw [List.Nodup, List.pairwise_filterMap, List.pairwise_iff_getElem] at distinct
  rcases List.getElem?_eq_some_iff.mp found with ⟨inside, rfl⟩
  rcases List.getElem?_eq_some_iff.mp otherFound with ⟨otherInside, rfl⟩
  rcases Nat.lt_trichotomy index other with before | same | after
  · exact absurd rfl (distinct index other inside otherInside before _ owned _ otherOwned)
  · exact same
  · exact absurd rfl (distinct other index otherInside inside after _ otherOwned _ owned)

end

namespace Resource

theorem mem_of_slotEntries {resources : List Resource} {number : Int}
    (mem : number ∈ (slotEntries resources).map Prod.fst) :
    ∃ typeNumber content, .slot number typeNumber content ∈ resources := by
  rcases List.mem_map.mp mem with ⟨⟨_, typeNumber, content⟩, entryMem, rfl⟩
  rcases List.mem_filterMap.mp entryMem with ⟨resource, resourceMem, found⟩
  cases resource with
  | slot =>
      cases found
      exact ⟨_, _, resourceMem⟩
  | string => cases found

theorem mem_of_stringEntries {resources : List Resource} {number : Int}
    (mem : number ∈ (stringEntries resources).map Prod.fst) :
    ∃ text, .string number text ∈ resources := by
  rcases List.mem_map.mp mem with ⟨⟨_, text⟩, entryMem, rfl⟩
  rcases List.mem_filterMap.mp entryMem with ⟨resource, resourceMem, found⟩
  cases resource with
  | slot => cases found
  | string =>
      cases found
      exact ⟨_, resourceMem⟩

end Resource

open Resource

namespace Attached

/-- Of everything that was made since a session began, what is left is what its live owners hold. -/
structure Owns (start place : Attached name) (left : List Resource) (numbers : Nat) : Prop where
  leaves : start.engine.Leaves place.engine left numbers
  slots : place.session.ownedSlots.Perm ((slotEntries left).map Prod.fst)
  strings : place.session.ownedStrings.Perm ((stringEntries left).map Prod.fst)

/-- The owners that were there, with the exception of those that may be released, hold what they
held before. -/
structure Frames (before after : Attached name) (released? releasedString? : Option Nat) :
    Prop where
  variants : ∀ reference cell, before.session.variants[reference]? = some cell →
    released? ≠ some reference → after.session.variants[reference]? = some cell ∧
      (cell.isAlive = true →
        after.engine.slot? cell.payload.slot = before.engine.slot? cell.payload.slot)
  strings : ∀ reference cell, before.session.strings[reference]? = some cell →
    releasedString? ≠ some reference → after.session.strings[reference]? = some cell ∧
      (cell.isAlive = true →
        after.engine.strings.lookup cell.string = before.engine.strings.lookup cell.string)

namespace Owns

variable {start place last : Attached name} {left more : List Resource}
  {numbers moreNumbers : Nat} {reference : Nat} {released? releasedString? : Option Nat}

theorem slot_of_alive (owns : Owns start place left numbers) {cell : VariantCell}
    (found : place.session.variants[reference]? = some cell) (alive : cell.isAlive = true) :
    ∃ typeNumber content, .slot cell.payload.slot typeNumber content ∈ left :=
  mem_of_slotEntries (owns.slots.subset (mem_owned found (by simp [VariantCell.owned?, alive])))

theorem string_of_alive (owns : Owns start place left numbers) {cell : StringCell}
    (found : place.session.strings[reference]? = some cell) (alive : cell.isAlive = true) :
    ∃ text, .string cell.string text ∈ left :=
  mem_of_stringEntries (owns.strings.subset (mem_owned found (by simp [StringCell.owned?, alive])))

/-- The payload of a live owner can be read. -/
theorem content_of_live (owns : Owns start place left numbers) {payload : Payload}
    (live : place.session.livePayload reference = .ok payload) :
    ∃ typeNumber content, place.engine.content? payload.slot = some (typeNumber, content) := by
  unfold Session.livePayload at live
  split at live
  case h_1 cell found =>
      cases alive : cell.isAlive with
      | false =>
          rw [alive] at live
          cases live
      | true =>
          rw [alive] at live
          cases live
          rcases owns.slot_of_alive found alive with ⟨typeNumber, content, mem⟩
          exact ⟨typeNumber, content,
            Engine.content?_of_slot? place.numbered (owns.leaves.slot?_of_mem mem)⟩
  case h_2 => cases live

/-- What the owners hold stays as it is as long as whatever is left and older was left before. -/
theorem frames (owns : Owns start place left numbers) (still : Owns start last more moreNumbers)
    (older : ∀ resource ∈ more, resource.number < place.engine.next → resource ∈ left)
    (variants : ∀ reference cell, place.session.variants[reference]? = some cell →
      released? ≠ some reference → last.session.variants[reference]? = some cell)
    (strings : ∀ reference cell, place.session.strings[reference]? = some cell →
      releasedString? ≠ some reference → last.session.strings[reference]? = some cell) :
    Frames place last released? releasedString? where
  variants reference cell found kept := by
    have lastFound := variants reference cell found kept
    refine ⟨lastFound, fun alive => ?_⟩
    rcases owns.slot_of_alive found alive with ⟨_, _, mem⟩
    rcases still.slot_of_alive lastFound alive with ⟨typeNumber, content, lastMem⟩
    have both := older _ lastMem (owns.leaves.created _ mem).2
    rw [owns.leaves.slot?_of_mem both, still.leaves.slot?_of_mem lastMem]
  strings reference cell found kept := by
    have lastFound := strings reference cell found kept
    refine ⟨lastFound, fun alive => ?_⟩
    rcases owns.string_of_alive found alive with ⟨_, mem⟩
    rcases still.string_of_alive lastFound alive with ⟨text, lastMem⟩
    have both := older _ lastMem (owns.leaves.created _ mem).2
    rw [owns.leaves.string_of_mem both, still.leaves.string_of_mem lastMem]

end Owns

/-- What a step comes to that may release what one owner holds. -/
def Steps (start place after : Attached name) (numbers : Nat)
    (released? releasedString? : Option Nat) : Prop :=
  ∃ left, Owns start after left numbers ∧ Frames place after released? releasedString?

theorem Steps.weaken {start place after : Attached name} {numbers more : Nat}
    {released? releasedString? : Option Nat}
    (steps : Steps start place after numbers released? releasedString?) (fits : numbers ≤ more) :
    Steps start place after more released? releasedString? := by
  rcases steps with ⟨left, owns, frames⟩
  exact ⟨left, { owns with leaves := owns.leaves.weaken fits }, frames⟩

namespace Owns

variable {start place last : Attached name} {left : List Resource} {numbers more : Nat}
  {reference : Nat} {operation : Bridge α} {outcome : Except Failure α}

/-- A step that leaves nothing. -/
theorem steps (owns : Owns start place left numbers)
    (yields : operation.Yields place outcome last [] more)
    (released? releasedString? : Option Nat) :
    Steps start place last (numbers + more) released? releasedString? := by
  have still : Owns start last left (numbers + more) := {
    leaves := owns.leaves.trans yields.leaves
    slots := by
      rw [Session.ownedSlots, yields.keeps.variants]
      exact owns.slots
    strings := by
      rw [Session.ownedStrings, yields.keeps.strings]
      exact owns.strings }
  refine ⟨left, still, owns.frames still (fun _ mem _ => mem) ?_ ?_⟩
  · intro reference cell found _
    rw [yields.keeps.variants, found]
  · intro reference cell found _
    rw [yields.keeps.strings, found]

/-- A step that leaves a slot for a new owner. -/
theorem steps_adopt (owns : Owns start place left numbers) {payload : Payload} {typeNumber : Int}
    {content : Held}
    (yields : operation.Yields place outcome last [.slot payload.slot typeNumber content] more) :
    Steps start place (last.withOwner ⟨payload, true⟩) (numbers + more) none none := by
  have still : Owns start (last.withOwner ⟨payload, true⟩)
      (.slot payload.slot typeNumber content :: left) (numbers + more) := {
    leaves := owns.leaves.trans yields.leaves
    slots := by
      change ((last.session.variants ++ [VariantCell.mk payload true]).filterMap
        VariantCell.owned?).Perm _
      rw [yields.keeps.variants, List.filterMap_append]
      exact (List.perm_append_singleton payload.slot _).trans (owns.slots.cons payload.slot)
    strings := by
      change (last.session.strings.filterMap StringCell.owned?).Perm _
      rw [yields.keeps.strings]
      exact owns.strings }
  refine ⟨_, still, owns.frames still ?_ ?_ ?_⟩
  · intro resource mem older
    rcases List.mem_cons.mp mem with rfl | mem
    · have newer := (yields.leaves.created _ (List.mem_singleton_self _)).1
      omega
    · exact mem
  · intro reference cell found _
    change (last.session.variants ++ [VariantCell.mk payload true])[reference]? = _
    rw [yields.keeps.variants]
    exact List.getElem?_append_left (List.getElem?_eq_some_iff.mp found).1 ▸ found
  · intro reference cell found _
    change last.session.strings[reference]? = _
    rw [yields.keeps.strings, found]

/-- A step that leaves a native string for a new owner. -/
theorem steps_ownString (owns : Owns start place left numbers) {string : Int} {text : String}
    (yields : operation.Yields place outcome last [.string string text] more) :
    Steps start place
      (last.withOwners last.session.variants (last.session.strings ++ [⟨string, true⟩]))
      (numbers + more) none none := by
  have still : Owns start
      (last.withOwners last.session.variants (last.session.strings ++ [⟨string, true⟩]))
      (.string string text :: left) (numbers + more) := {
    leaves := owns.leaves.trans yields.leaves
    slots := by
      change (last.session.variants.filterMap VariantCell.owned?).Perm _
      rw [yields.keeps.variants]
      exact owns.slots
    strings := by
      change ((last.session.strings ++ [StringCell.mk string true]).filterMap
        StringCell.owned?).Perm _
      rw [yields.keeps.strings, List.filterMap_append]
      exact (List.perm_append_singleton string _).trans (owns.strings.cons string) }
  refine ⟨_, still, owns.frames still ?_ ?_ ?_⟩
  · intro resource mem older
    rcases List.mem_cons.mp mem with rfl | mem
    · have newer := (yields.leaves.created _ (List.mem_singleton_self _)).1
      omega
    · exact mem
  · intro reference cell found _
    change last.session.variants[reference]? = _
    rw [yields.keeps.variants, found]
  · intro reference cell found _
    change (last.session.strings ++ [StringCell.mk string true])[reference]? = _
    rw [yields.keeps.strings]
    exact List.getElem?_append_left (List.getElem?_eq_some_iff.mp found).1 ▸ found

/-- A step that releases the slot of a live owner. -/
theorem exists_steps_destroy (owns : Owns start place left numbers) {cell : VariantCell}
    (found : place.session.variants[reference]? = some cell) (alive : cell.isAlive = true) :
    ∃ after : Attached name,
      runFrom (destroyVariant reference) place.session = (.ok (), after.session) ∧
        Steps start place after numbers (some reference) none ∧
        after.session.variants[reference]? = some { cell with isAlive := false } := by
  rcases owns.slot_of_alive found alive with ⟨typeNumber, content, mem⟩
  rcases List.append_of_mem mem with ⟨front, back, rfl⟩
  rcases destroySlot_releases owns.leaves with ⟨middle, released⟩
  let dead : VariantCell := { cell with isAlive := false }
  let after := middle.withOwners (place.session.variants.set reference dead) middle.session.strings
  have still : Owns start after (front ++ back) numbers := {
    leaves := by
      change start.engine.Leaves middle.engine _ _
      rw [released.engine]
      exact owns.leaves.release start.numbered
    slots := by
      have owned : place.session.ownedSlots.Perm (cell.payload.slot ::
          (place.session.variants.set reference dead).filterMap VariantCell.owned?) :=
        owned_perm_set found (if_pos alive) rfl
      have entries := owns.slots
      rw [slotEntries_append, slotEntries_slot, List.map_append, List.map_cons] at entries
      rw [slotEntries_append, List.map_append]
      exact (owned.symm.trans (entries.trans List.perm_middle)).cons_inv
    strings := by
      change (middle.session.strings.filterMap StringCell.owned?).Perm _
      rw [released.keeps.strings, stringEntries_append]
      have entries := owns.strings
      rw [stringEntries_append, stringEntries_slot] at entries
      exact entries }
  refine ⟨after, ?_, ⟨_, still, owns.frames still ?_ ?_ ?_⟩,
    List.getElem?_set_self (List.getElem?_eq_some_iff.mp found).1⟩
  · unfold destroyVariant
    rw [runFrom_bind, variantCell_run, found]
    simp only [Option.elim_some, alive, if_true]
    rw [destroyPayload, runFrom_bind_of_ok released.ran, runFrom_modify, released.keeps.variants]
    rfl
  · exact fun resource resourceMem _ => Engine.Leaves.mem_of_mem_others resourceMem
  · intro other otherCell otherFound differs
    change (place.session.variants.set reference dead)[other]? = _
    rw [List.getElem?_set_ne (by simpa using differs), otherFound]
  · intro other otherCell otherFound _
    change middle.session.strings[other]? = _
    rw [released.keeps.strings, otherFound]

/-- A step that releases the native string of a live owner. -/
theorem exists_steps_destroyString (owns : Owns start place left numbers) {cell : StringCell}
    (found : place.session.strings[reference]? = some cell) (alive : cell.isAlive = true) :
    ∃ after : Attached name,
      runFrom (destroyString reference) place.session = (.ok (), after.session) ∧
        Steps start place after numbers none (some reference) ∧
        after.session.strings[reference]? = some { cell with isAlive := false } := by
  rcases owns.string_of_alive found alive with ⟨text, mem⟩
  rcases List.append_of_mem mem with ⟨front, back, rfl⟩
  rcases destroyString_releases owns.leaves with ⟨middle, released⟩
  let dead : StringCell := ⟨cell.string, false⟩
  let after :=
    middle.withOwners middle.session.variants (place.session.strings.set reference dead)
  have still : Owns start after (front ++ back) numbers := {
    leaves := by
      change start.engine.Leaves middle.engine _ _
      rw [released.engine]
      exact owns.leaves.release start.numbered
    slots := by
      change (middle.session.variants.filterMap VariantCell.owned?).Perm _
      rw [released.keeps.variants, slotEntries_append]
      have entries := owns.slots
      rw [slotEntries_append, slotEntries_string] at entries
      exact entries
    strings := by
      have owned : place.session.ownedStrings.Perm (cell.string ::
          (place.session.strings.set reference dead).filterMap StringCell.owned?) :=
        owned_perm_set found (if_pos alive) rfl
      have entries := owns.strings
      rw [stringEntries_append, stringEntries_string, List.map_append, List.map_cons] at entries
      rw [stringEntries_append, List.map_append]
      exact (owned.symm.trans (entries.trans List.perm_middle)).cons_inv }
  refine ⟨after, ?_, ⟨_, still, owns.frames still ?_ ?_ ?_⟩,
    List.getElem?_set_self (List.getElem?_eq_some_iff.mp found).1⟩
  · have live : runFrom (liveString reference) place.session =
        (.ok cell.string, place.session) := by
      rw [liveString_run, Session.liveString, found]
      simp only [alive, if_true]
    unfold destroyString
    rw [runFrom_bind_of_ok live, runFrom_bind_of_ok released.ran, runFrom_modify,
      released.keeps.strings]
    rfl
  · exact fun resource resourceMem _ => Engine.Leaves.mem_of_mem_others resourceMem
  · intro other otherCell otherFound _
    change middle.session.variants[other]? = _
    rw [released.keeps.variants, otherFound]
  · intro other otherCell otherFound differs
    change (place.session.strings.set reference dead)[other]? = _
    rw [List.getElem?_set_ne (by simpa using differs), otherFound]

end Owns

end Attached

/-! No value that is boxed hands the engine a slot that is gone. -/

theorem Session.livePayload_sound (session : Session) (reference : Nat) :
    Sound (session.livePayload reference) := by
  unfold livePayload
  split
  · split
    · exact .ok _
    · exact .error rfl
  · exact .error rfl

theorem Session.liveString_sound (session : Session) (reference : Nat) :
    Sound (session.liveString reference) := by
  unfold liveString
  split
  · split
    · exact .ok _
    · exact .error rfl
  · exact .error rfl

theorem GType.ofTypeName_sound (typeName : Document) : Sound (ofTypeName typeName) := by
  have key : Sound typeName.keyOf := by
    unfold Document.keyOf
    split
    · exact .ok _
    · exact .error rfl
  unfold ofTypeName
  refine key.bind fun key => ?_
  dsimp only
  split
  · exact .ok _
  · exact .raised rfl

theorem Session.typedSource_sound (session : Session) (value : Value) :
    Sound (session.typedSource value) := by
  unfold typedSource
  cases value with
  | nativeString reference => exact (session.liveString_sound reference).bind fun _ => .ok _
  | opaqueValue typeName content =>
      simp only [Bridge.typedSource]
      rw [runFrom_bind, runFrom_lift]
      have named := GType.ofTypeName_sound typeName
      cases found : GType.ofTypeName typeName with
      | ok gtype => exact .ok _
      | error failure => exact .error (named failure found)
  | object className handle =>
      simp only [Bridge.typedSource]
      cases handle.integer? with
      | some number => exact .ok _
      | none => exact .error rfl
  | nothing | variant | text | member | list | bytes | plain => exact .error rfl
  | _ => exact .ok _

theorem FunctionTables.fromRoutine_sound (tables : FunctionTables) (typeNumber : Int) :
    Sound (tables.fromRoutine typeNumber) := by
  unfold fromRoutine routineAt
  dsimp only
  split
  · exact .ok _
  · exact .error rfl
  · exact .error rfl

namespace Attached

variable {start place : Attached name} {left : List Resource} {numbers : Nat}

theorem Owns.boxed_sound (owns : Owns start place left numbers) (value : Value) :
    Sound (place.boxed value) := by
  have typed : Sound (place.boxedTyped value) :=
    (place.session.typedSource_sound value).bind fun typed =>
      (place.functionTables.fromRoutine_sound typed.1.number).bind fun _ => .ok _
  cases value with
  | nothing => exact .ok _
  | variant reference =>
      change Sound (place.session.livePayload reference >>= place.copied)
      cases live : place.session.livePayload reference with
      | error failure => exact .error (place.session.livePayload_sound reference failure live)
      | ok payload =>
          rcases owns.content_of_live live with ⟨typeNumber, content, found⟩
          change Sound (place.copied payload)
          rw [copied, found]
          exact .ok _
  | text text => exact (place.functionTables.fromRoutine_sound _).bind fun _ => .ok _
  | _ => exact typed

end Attached

open Attached

namespace Bridge

/-- An operation that hands the engine nothing that is gone, and after which what is left is again
what the live owners hold. Only the owners that are named may have released something. -/
def Carries (operation : Bridge α) (start place : Attached name) (numbers : Nat)
    (released? releasedString? : Option Nat) : Prop :=
  ∃ outcome after, runFrom operation place.session = (outcome, after.session) ∧ Sound outcome ∧
    Steps start place after numbers released? releasedString?

/-- An operation without its result. -/
def forget (operation : Bridge α) : Bridge Unit := do
  let _ ← operation
  return ()

theorem runFrom_forget {operation : Bridge α} {session after : Session}
    {outcome : Except Failure α} (ran : runFrom operation session = (outcome, after)) :
    runFrom (forget operation) session = (outcome.map fun _ => (), after) := by
  unfold forget
  rw [runFrom_bind, ran]
  cases outcome <;> rfl

theorem Carries.forget {operation : Bridge α} {start place : Attached name} {numbers : Nat}
    {released? releasedString? : Option Nat}
    (carries : operation.Carries start place numbers released? releasedString?) :
    (Bridge.forget operation).Carries start place numbers released? releasedString? := by
  rcases carries with ⟨outcome, after, ran, sound, steps⟩
  exact ⟨_, after, runFrom_forget ran, sound.map _, steps⟩

section

variable {start place : Attached name} {left : List Resource} {numbers : Nat} {reference : Nat}
  {operation : Bridge α}

/-- An operation that leaves nothing. -/
theorem Carries.of_yields (owns : Owns start place left numbers) {outcome : Except Failure α}
    {after : Attached name} {more : Nat} (sound : Sound outcome)
    (yields : operation.Yields place outcome after [] more) (fits : more ≤ 2)
    (released? releasedString? : Option Nat) :
    operation.Carries start place (numbers + 2) released? releasedString? :=
  ⟨outcome, after, yields.ran, sound, owns.steps (yields.weaken fits) released? releasedString?⟩

theorem Carries.of_unchanged (owns : Owns start place left numbers) {outcome : Except Failure α}
    (sound : Sound outcome) (ran : runFrom operation place.session = (outcome, place.session))
    (released? releasedString? : Option Nat) :
    operation.Carries start place (numbers + 2) released? releasedString? :=
  .of_yields owns sound (.of_unchanged ran) (Nat.zero_le 2) released? releasedString?

/-- Boxing a value for a new owner. -/
theorem newVariant_carries (owns : Owns start place left numbers) (value : Value) :
    (newVariant value).Carries start place (numbers + 2) none none := by
  have sound := owns.boxed_sound value
  have boxes := box_boxes place value
  unfold newVariant
  cases boxed : place.boxed value with
  | error failure =>
      rw [boxed] at sound boxes
      cases boxes with
      | error yields =>
          exact .of_yields owns (.error (sound failure rfl)) yields.bind_error (Nat.le_refl 2) _ _
  | ok content =>
      rw [boxed] at boxes
      cases boxes with
      | ok yields =>
          exact ⟨_, _, runFrom_bind_of_ok yields.ran _, .ok _, owns.steps_adopt yields⟩

/-- Making a native string for a new owner. -/
theorem newString_carries (owns : Owns start place left numbers) (text : String) :
    (newString text).Carries start place (numbers + 2) none none := by
  rcases stringNew_yields place text with ⟨middle, made⟩
  exact ⟨_, _, runFrom_bind_of_ok made.ran _, .ok _,
    owns.steps_ownString (made.weaken (Nat.le_succ 1))⟩

/-- Asking for the payload of an owner: the asking ends where the owner refuses, and else the
payload can be read. -/
theorem Carries.of_asks (owns : Owns start place left numbers)
    (refuses : ∀ {failure},
      runFrom (livePayload reference) place.session = (.error failure, place.session) →
        runFrom operation place.session = (.error failure, place.session))
    (answers : ∀ {payload typeNumber content}, place.Addresses (livePayload reference) payload →
      place.engine.content? payload.slot = some (typeNumber, content) →
        ∃ outcome after, Sound outcome ∧ operation.Yields place outcome after [] 2) :
    operation.Carries start place (numbers + 2) none none := by
  cases live : place.session.livePayload reference with
  | error failure =>
      have refused := (livePayload_run reference place.session).trans (by rw [live])
      exact .of_unchanged owns (.error (place.session.livePayload_sound reference failure live))
        (refuses refused) none none
  | ok payload =>
      rcases owns.content_of_live live with ⟨typeNumber, content, found⟩
      rcases answers (addresses_livePayload live) found with ⟨outcome, after, sound, yields⟩
      exact .of_yields owns sound yields (Nat.le_refl 2) none none

end

end Bridge

end EngineBridge
