import EngineBridge.Engine.Calls

/-!
What a stretch of work leaves behind in the engine.

Slots and native strings are numbered by one counter, so that everything a stretch of work creates
has a number between the counter before it and the counter after it. `Engine.Leaves` says that of
all these numbers exactly the given resources are still live, that every other one of them was
released once, and that nothing else was touched. The relation can be composed, and releasing a
resource takes it out.
-/

namespace EngineBridge

/-- Something in the engine that has to be released. -/
inductive Resource where
  | slot (number typeNumber : Int) (content : Held)
  | string (number : Int) (text : String)

namespace Resource

def number : Resource → Int
  | .slot number .. => number
  | .string number _ => number

def asSlot? : Resource → Option (Int × Int × Held)
  | .slot number typeNumber content => some (number, typeNumber, content)
  | .string .. => none

def asString? : Resource → Option (Int × String)
  | .slot .. => none
  | .string number text => some (number, text)

theorem number_of_asSlot? {resource : Resource} {entry : Int × Int × Held}
    (found : resource.asSlot? = some entry) : entry.1 = resource.number := by
  cases resource with
  | slot => cases found; rfl
  | string => cases found

theorem number_of_asString? {resource : Resource} {entry : Int × String}
    (found : resource.asString? = some entry) : entry.1 = resource.number := by
  cases resource with
  | slot => cases found
  | string => cases found; rfl

/-- The slots among resources. -/
def slotEntries (resources : List Resource) : List (Int × Int × Held) :=
  resources.filterMap asSlot?

/-- The native strings among resources. -/
def stringEntries (resources : List Resource) : List (Int × String) :=
  resources.filterMap asString?

@[simp] theorem slotEntries_append (left right : List Resource) :
    slotEntries (left ++ right) = slotEntries left ++ slotEntries right :=
  List.filterMap_append

@[simp] theorem stringEntries_append (left right : List Resource) :
    stringEntries (left ++ right) = stringEntries left ++ stringEntries right :=
  List.filterMap_append

@[simp] theorem slotEntries_slot (number typeNumber : Int) (content : Held)
    (rest : List Resource) : slotEntries (.slot number typeNumber content :: rest) =
      (number, typeNumber, content) :: slotEntries rest := rfl

@[simp] theorem slotEntries_string (number : Int) (text : String) (rest : List Resource) :
    slotEntries (.string number text :: rest) = slotEntries rest := rfl

@[simp] theorem stringEntries_slot (number typeNumber : Int) (content : Held)
    (rest : List Resource) :
    stringEntries (.slot number typeNumber content :: rest) = stringEntries rest := rfl

@[simp] theorem stringEntries_string (number : Int) (text : String) (rest : List Resource) :
    stringEntries (.string number text :: rest) = (number, text) :: stringEntries rest := rfl

theorem number_mem_of_mem_slotEntries {resources : List Resource} {entry : Int × Int × Held}
    (mem : entry ∈ slotEntries resources) : entry.1 ∈ resources.map number := by
  rcases List.mem_filterMap.mp mem with ⟨resource, resourceMem, found⟩
  rw [number_of_asSlot? found]
  exact List.mem_map_of_mem resourceMem

theorem number_mem_of_mem_stringEntries {resources : List Resource} {entry : Int × String}
    (mem : entry ∈ stringEntries resources) : entry.1 ∈ resources.map number := by
  rcases List.mem_filterMap.mp mem with ⟨resource, resourceMem, found⟩
  rw [number_of_asString? found]
  exact List.mem_map_of_mem resourceMem

end Resource

namespace Event

/-- The number that an event releases. -/
def released? : Event → Option Int
  | .destroy slot => some slot
  | .stringDestroy string => some string
  | _ => none

/-- Whether a callable was entered. -/
def isCall : Event → Bool
  | .pointerCall .. | .variantCall .. | .utilityCall .. => true
  | _ => false

end Event

namespace Engine

open Resource

/-- How often a number has been released. -/
def releases (engine : Engine) (number : Int) : Nat :=
  (engine.events.filterMap Event.released?).count number

/-- The entries into callables so far. -/
def calls (engine : Engine) : List Event :=
  engine.events.filter Event.isCall

/-- Whatever is live has a positive number below the next one. -/
structure Numbered (engine : Engine) : Prop where
  positive : 0 < engine.next
  slots : ∀ entry ∈ engine.slots, 0 < entry.1 ∧ entry.1 < engine.next
  strings : ∀ entry ∈ engine.strings, 0 < entry.1 ∧ entry.1 < engine.next

theorem Numbered.lt_of_slot? {engine : Engine} (formed : engine.Numbered) {number : Int}
    {content : Int × Held} (live : engine.slot? number = some content) :
    0 < number ∧ number < engine.next :=
  formed.slots (number, content) (mem_of_lookup live)

theorem Numbered.lt_of_string {engine : Engine} (formed : engine.Numbered) {number : Int}
    {text : String} (live : engine.strings.lookup number = some text) :
    0 < number ∧ number < engine.next :=
  formed.strings (number, text) (mem_of_lookup live)

theorem numbered_fresh (kindName : String) (missing : List Int)
    (fixedAnswer : Option FixedAnswer) : (fresh kindName missing fixedAnswer).Numbered where
  positive := by simp [fresh]
  slots := by simp [fresh]
  strings := by simp [fresh]

theorem Numbered.addMethod {engine : Engine} (formed : engine.Numbered) (key : MethodKey)
    (script : NativeScript) : (engine.addMethod key script).1.Numbered :=
  ⟨formed.positive, formed.slots, formed.strings⟩

/-- The callables and the options of an engine are the same before and after. -/
structure SameRegister (before after : Engine) : Prop where
  methods : after.methods = before.methods
  scripts : after.scripts = before.scripts
  utilities : after.utilities = before.utilities
  missing : after.missing = before.missing
  fixedAnswer : after.fixedAnswer = before.fixedAnswer

theorem SameRegister.refl (engine : Engine) : engine.SameRegister engine :=
  ⟨rfl, rfl, rfl, rfl, rfl⟩

theorem SameRegister.trans {first second third : Engine} (left : first.SameRegister second)
    (right : second.SameRegister third) : first.SameRegister third where
  methods := right.methods.trans left.methods
  scripts := right.scripts.trans left.scripts
  utilities := right.utilities.trans left.utilities
  missing := right.missing.trans left.missing
  fixedAnswer := right.fixedAnswer.trans left.fixedAnswer

/-- What is live after a stretch of work is what was live before it and, in front of that, the
resources that are left. At most `numbers` numbers were given out; each of them was released once
unless it is left, and no other number but zero was released. -/
structure Leaves (before after : Engine) (left : List Resource) (numbers : Nat) : Prop where
  slots : after.slots = slotEntries left ++ before.slots
  strings : after.strings = stringEntries left ++ before.strings
  rising : before.next ≤ after.next
  bounded : after.next ≤ before.next + numbers
  distinct : (left.map number).Nodup
  created : ∀ resource ∈ left, before.next ≤ resource.number ∧ resource.number < after.next
  released : ∀ number, number ≠ 0 → after.releases number = before.releases number +
    if before.next ≤ number ∧ number < after.next ∧ number ∉ left.map Resource.number
      then 1 else 0
  log : before.events <+: after.events
  register : before.SameRegister after

/-- Work in which neither number zero was released nor a callable was entered. -/
structure Quiet (before after : Engine) : Prop where
  nils : after.releases 0 = before.releases 0
  calls : after.calls = before.calls

theorem Quiet.refl (engine : Engine) : engine.Quiet engine := ⟨rfl, rfl⟩

theorem Quiet.trans {first second third : Engine} (left : first.Quiet second)
    (right : second.Quiet third) : first.Quiet third :=
  ⟨right.nils.trans left.nils, right.calls.trans left.calls⟩

namespace Leaves

variable {before middle after : Engine} {left more : List Resource} {numbers moreNumbers : Nat}

theorem refl (engine : Engine) : engine.Leaves engine [] 0 where
  slots := rfl
  strings := rfl
  rising := Int.le_refl _
  bounded := by omega
  distinct := List.nodup_nil
  created := by simp
  released number _ := by
    rw [if_neg]
    · rfl
    · omega
  log := List.prefix_refl _
  register := .refl engine

theorem next_eq (leaves : before.Leaves after left 0) : after.next = before.next := by
  have rising := leaves.rising
  have bounded := leaves.bounded
  omega

theorem number_lt_of_mem (leaves : before.Leaves after left numbers) {number : Int}
    (mem : number ∈ left.map Resource.number) : before.next ≤ number ∧ number < after.next := by
  rcases List.mem_map.mp mem with ⟨resource, resourceMem, rfl⟩
  exact leaves.created resource resourceMem

/-- What one stretch leaves and what the next one leaves add up. -/
theorem trans (first : before.Leaves middle left numbers)
    (second : middle.Leaves after more moreNumbers) :
    before.Leaves after (more ++ left) (numbers + moreNumbers) where
  slots := by rw [second.slots, first.slots, slotEntries_append, List.append_assoc]
  strings := by rw [second.strings, first.strings, stringEntries_append, List.append_assoc]
  rising := Int.le_trans first.rising second.rising
  bounded := by
    have firstBound := first.bounded
    have secondBound := second.bounded
    omega
  distinct := by
    rw [List.map_append, List.nodup_append]
    refine ⟨second.distinct, first.distinct, ?_⟩
    intro late lateMem early earlyMem
    have lower := (second.number_lt_of_mem lateMem).1
    have upper := (first.number_lt_of_mem earlyMem).2
    omega
  created resource mem := by
    have firstRise := first.rising
    have secondRise := second.rising
    rcases List.mem_append.mp mem with late | early
    · have bounds := second.created resource late
      omega
    · have bounds := first.created resource early
      omega
  released number nonzero := by
    rw [second.released number nonzero, first.released number nonzero, Nat.add_assoc]
    have firstRise := first.rising
    have secondRise := second.rising
    have early : number ∈ left.map Resource.number → _ := first.number_lt_of_mem
    have late : number ∈ more.map Resource.number → _ := second.number_lt_of_mem
    simp only [List.map_append, List.mem_append]
    grind
  log := first.log.trans second.log
  register := first.register.trans second.register

theorem weaken (leaves : before.Leaves after left numbers) (more : numbers ≤ moreNumbers) :
    before.Leaves after left moreNumbers :=
  { leaves with
    bounded := by
      have bound := leaves.bounded
      omega }

/-- Numbers stay in order. -/
theorem numbered (leaves : before.Leaves after left numbers) (formed : before.Numbered) :
    after.Numbered where
  positive := by
    have positive := formed.positive
    have rising := leaves.rising
    omega
  slots entry mem := by
    have positive := formed.positive
    have rising := leaves.rising
    rw [leaves.slots] at mem
    rcases List.mem_append.mp mem with new | old
    · have bounds := leaves.number_lt_of_mem (number_mem_of_mem_slotEntries new)
      omega
    · have bounds := formed.slots entry old
      omega
  strings entry mem := by
    have positive := formed.positive
    have rising := leaves.rising
    rw [leaves.strings] at mem
    rcases List.mem_append.mp mem with new | old
    · have bounds := leaves.number_lt_of_mem (number_mem_of_mem_stringEntries new)
      omega
    · have bounds := formed.strings entry old
      omega

end Leaves

/-! Every change of the engine is put together from the following. -/

/-- An engine with one more event. -/
def noted (engine : Engine) (event : Event) : Engine :=
  { engine with events := engine.events ++ [event] }

/-- An engine with a new slot. -/
def withSlot (engine : Engine) (typeNumber : Int) (content : Held) : Engine :=
  { engine with
      next := engine.next + 1
      slots := (engine.next, typeNumber, content) :: engine.slots }

/-- An engine with a new native string. -/
def withString (engine : Engine) (text : String) : Engine :=
  { engine with
      next := engine.next + 1
      strings := (engine.next, text) :: engine.strings }

/-- An engine in which a slot was released. -/
def withoutSlot (engine : Engine) (number : Int) : Engine :=
  { engine with
      events := engine.events ++ [.destroy number]
      slots := engine.slots.filter fun entry => entry.1 != number }

/-- An engine in which a native string was released. -/
def withoutString (engine : Engine) (number : Int) : Engine :=
  { engine with
      events := engine.events ++ [.stringDestroy number]
      strings := engine.strings.filter fun entry => entry.1 != number }

/-- An engine in which a resource was released. -/
def without (engine : Engine) : Resource → Engine
  | .slot number .. => engine.withoutSlot number
  | .string number _ => engine.withoutString number

@[simp] theorem releases_noted (engine : Engine) (event : Event) (number : Int) :
    (engine.noted event).releases number =
      engine.releases number + if event.released? = some number then 1 else 0 := by
  unfold releases noted
  rw [List.filterMap_append, List.count_append]
  cases found : event.released? with
  | none => simp [found]
  | some other =>
      by_cases same : other = number
      · simp [found, same]
      · simp [found, same]

theorem quiet_noted (engine : Engine) {event : Event} (keeps : event.released? = none)
    (stays : event.isCall = false) : engine.Quiet (engine.noted event) where
  nils := by rw [releases_noted, keeps, if_neg (by simp), Nat.add_zero]
  calls := by simp [calls, noted, stays]

theorem quiet_withSlot (engine : Engine) (typeNumber : Int) (content : Held) :
    engine.Quiet (engine.withSlot typeNumber content) := ⟨rfl, rfl⟩

theorem quiet_withString (engine : Engine) (text : String) :
    engine.Quiet (engine.withString text) := ⟨rfl, rfl⟩

theorem quiet_without (engine : Engine) {resource : Resource} (nonzero : resource.number ≠ 0) :
    engine.Quiet (engine.without resource) := by
  cases resource with
  | slot number typeNumber content =>
      constructor
      · have counted := releases_noted engine (.destroy number) 0
        rw [if_neg (by simpa [Event.released?, Resource.number] using nonzero)] at counted
        exact counted
      · simp [calls, without, withoutSlot, Event.isCall]
  | string number text =>
      constructor
      · have counted := releases_noted engine (.stringDestroy number) 0
        rw [if_neg (by simpa [Event.released?, Resource.number] using nonzero)] at counted
        exact counted
      · simp [calls, without, withoutString, Event.isCall]

namespace Leaves

variable {before after : Engine} {left front back : List Resource} {resource : Resource}
  {numbers : Nat}

theorem noted (leaves : before.Leaves after left numbers) {event : Event}
    (keeps : event.released? = none) : before.Leaves (after.noted event) left numbers where
  slots := leaves.slots
  strings := leaves.strings
  rising := leaves.rising
  bounded := leaves.bounded
  distinct := leaves.distinct
  created := leaves.created
  released number nonzero := by
    rw [releases_noted, keeps, if_neg (by simp)]
    exact leaves.released number nonzero
  log := leaves.log.trans (List.prefix_append _ _)
  register := leaves.register.trans ⟨rfl, rfl, rfl, rfl, rfl⟩

private theorem created_number (engine : Engine) (number : Int) {new : Resource}
    (next : new.number = engine.next) :
    (if engine.next ≤ number ∧ number < engine.next + 1 ∧ number ∉ [new].map Resource.number
      then 1 else 0) = 0 := by
  simp only [List.map_cons, List.map_nil, List.mem_singleton, next]
  rw [if_neg]
  omega

theorem newSlot (engine : Engine) (typeNumber : Int) (content : Held) :
    engine.Leaves (engine.withSlot typeNumber content)
      [.slot engine.next typeNumber content] 1 where
  slots := rfl
  strings := rfl
  rising := by simp only [withSlot]; omega
  bounded := by simp only [withSlot]; omega
  distinct := by simp
  created resource mem := by
    rw [List.mem_singleton.mp mem]
    simp only [withSlot, Resource.number]
    omega
  released number _ := by
    rw [show (engine.withSlot typeNumber content).next = engine.next + 1 from rfl,
      created_number engine number rfl]
    rfl
  log := List.prefix_refl _
  register := ⟨rfl, rfl, rfl, rfl, rfl⟩

theorem newString (engine : Engine) (text : String) :
    engine.Leaves (engine.withString text) [.string engine.next text] 1 where
  slots := rfl
  strings := rfl
  rising := by simp only [withString]; omega
  bounded := by simp only [withString]; omega
  distinct := by simp
  created resource mem := by
    rw [List.mem_singleton.mp mem]
    simp only [withString, Resource.number]
    omega
  released number _ := by
    rw [show (engine.withString text).next = engine.next + 1 from rfl,
      created_number engine number rfl]
    rfl
  log := List.prefix_refl _
  register := ⟨rfl, rfl, rfl, rfl, rfl⟩

private theorem filter_eq_of_absent {β : Type} {number : Int} {entries : List (Int × β)}
    (absent : ∀ entry ∈ entries, entry.1 ≠ number) :
    entries.filter (fun entry => entry.1 != number) = entries := by
  apply List.filter_eq_self.mpr
  intro entry mem
  exact bne_iff_ne.mpr (absent entry mem)

theorem mem_of_mem_others {other : Resource} (mem : other ∈ front ++ back) :
    other ∈ front ++ resource :: back := by
  rcases List.mem_append.mp mem with inFront | inBack
  · exact List.mem_append_left _ inFront
  · exact List.mem_append_right _ (List.mem_cons_of_mem _ inBack)

private theorem not_mem_of_distinct
    (distinct : ((front ++ resource :: back).map Resource.number).Nodup) :
    resource.number ∉ front.map Resource.number ∧ resource.number ∉ back.map Resource.number ∧
      ((front ++ back).map Resource.number).Nodup := by
  simp only [List.map_append, List.map_cons, List.nodup_append, List.nodup_cons,
    List.mem_cons] at distinct ⊢
  grind

private theorem slots_without (formed : before.Numbered)
    (leaves : before.Leaves after (front ++ resource :: back) numbers) :
    (after.without resource).slots = slotEntries (front ++ back) ++ before.slots := by
  rcases not_mem_of_distinct leaves.distinct with ⟨notFront, notBack, -⟩
  have fresh := (leaves.created resource
    (List.mem_append_right _ (List.mem_cons_self ..))).1
  cases resource with
  | slot number typeNumber content =>
      have inFront : ∀ entry ∈ slotEntries front, entry.1 ≠ number := fun entry mem same =>
        notFront (same ▸ number_mem_of_mem_slotEntries mem)
      have inBack : ∀ entry ∈ slotEntries back, entry.1 ≠ number := fun entry mem same =>
        notBack (same ▸ number_mem_of_mem_slotEntries mem)
      have older : ∀ entry ∈ before.slots, entry.1 ≠ number := by
        intro entry mem same
        have old := (formed.slots entry mem).2
        rw [same] at old
        exact absurd fresh (by simp only [Resource.number]; omega)
      show after.slots.filter (fun entry => entry.1 != number) = _
      rw [leaves.slots, slotEntries_append, slotEntries_slot, List.filter_append,
        List.filter_append, List.filter_cons_of_neg (by simp), filter_eq_of_absent inFront,
        filter_eq_of_absent inBack, filter_eq_of_absent older, slotEntries_append]
  | string number text =>
      show after.slots = _
      rw [leaves.slots, slotEntries_append, slotEntries_string, slotEntries_append]

private theorem strings_without (formed : before.Numbered)
    (leaves : before.Leaves after (front ++ resource :: back) numbers) :
    (after.without resource).strings = stringEntries (front ++ back) ++ before.strings := by
  rcases not_mem_of_distinct leaves.distinct with ⟨notFront, notBack, -⟩
  have fresh := (leaves.created resource
    (List.mem_append_right _ (List.mem_cons_self ..))).1
  cases resource with
  | slot number typeNumber content =>
      show after.strings = _
      rw [leaves.strings, stringEntries_append, stringEntries_slot, stringEntries_append]
  | string number text =>
      have inFront : ∀ entry ∈ stringEntries front, entry.1 ≠ number := fun entry mem same =>
        notFront (same ▸ number_mem_of_mem_stringEntries mem)
      have inBack : ∀ entry ∈ stringEntries back, entry.1 ≠ number := fun entry mem same =>
        notBack (same ▸ number_mem_of_mem_stringEntries mem)
      have older : ∀ entry ∈ before.strings, entry.1 ≠ number := by
        intro entry mem same
        have old := (formed.strings entry mem).2
        rw [same] at old
        exact absurd fresh (by simp only [Resource.number]; omega)
      show after.strings.filter (fun entry => entry.1 != number) = _
      rw [leaves.strings, stringEntries_append, stringEntries_string, List.filter_append,
        List.filter_append, List.filter_cons_of_neg (by simp), filter_eq_of_absent inFront,
        filter_eq_of_absent inBack, filter_eq_of_absent older, stringEntries_append]

private theorem releases_without (engine : Engine) (resource : Resource) (number : Int) :
    (engine.without resource).releases number =
      engine.releases number + if resource.number = number then 1 else 0 := by
  cases resource with
  | slot other typeNumber content =>
      rw [show (engine.without (.slot other typeNumber content)).releases number =
        (engine.noted (.destroy other)).releases number from rfl, releases_noted]
      grind [Event.released?, Resource.number]
  | string other text =>
      rw [show (engine.without (.string other text)).releases number =
        (engine.noted (.stringDestroy other)).releases number from rfl, releases_noted]
      grind [Event.released?, Resource.number]

/-- Releasing a resource takes it out of what is left, and nothing else. -/
theorem release (formed : before.Numbered)
    (leaves : before.Leaves after (front ++ resource :: back) numbers) :
    before.Leaves (after.without resource) (front ++ back) numbers := by
  have nextSame : (after.without resource).next = after.next := by cases resource <;> rfl
  have member : resource ∈ front ++ resource :: back :=
    List.mem_append_right _ (List.mem_cons_self ..)
  rcases not_mem_of_distinct leaves.distinct with ⟨notFront, notBack, distinct⟩
  exact {
    slots := slots_without formed leaves
    strings := strings_without formed leaves
    rising := by rw [nextSame]; exact leaves.rising
    bounded := by rw [nextSame]; exact leaves.bounded
    distinct := distinct
    created := by
      intro other mem
      rw [nextSame]
      exact leaves.created other (mem_of_mem_others mem)
    released := by
      intro number nonzero
      have bounds := leaves.created resource member
      rw [releases_without, leaves.released number nonzero, nextSame]
      simp only [List.map_append, List.map_cons, List.mem_append, List.mem_cons]
      grind
    log := by
      apply leaves.log.trans
      cases resource <;> exact List.prefix_append _ _
    register := leaves.register.trans (by cases resource <;> exact ⟨rfl, rfl, rfl, rfl, rfl⟩) }

/-! What is left can be looked up, and so can everything older. -/

private theorem lookup_append_of_absent {β : Type} {number : Int} {front : List (Int × β)}
    (absent : ∀ entry ∈ front, entry.1 ≠ number) (back : List (Int × β)) :
    (front ++ back).lookup number = back.lookup number := by
  induction front with
  | nil => rfl
  | cons entry rest induction =>
      have differs : (number == entry.1) = false := by
        simpa using (absent entry (List.mem_cons_self ..)).symm
      rw [List.cons_append, List.lookup_cons, differs]
      exact induction fun other mem => absent other (List.mem_cons_of_mem _ mem)

private theorem exists_split_of_mem (mem : resource ∈ left) :
    ∃ front back, left = front ++ resource :: back := List.append_of_mem mem

theorem slot?_of_mem (leaves : before.Leaves after left numbers) {number typeNumber : Int}
    {content : Held} (mem : .slot number typeNumber content ∈ left) :
    after.slot? number = some (typeNumber, content) := by
  rcases exists_split_of_mem mem with ⟨front, back, rfl⟩
  rcases not_mem_of_distinct leaves.distinct with ⟨notFront, -, -⟩
  have inFront : ∀ entry ∈ slotEntries front, entry.1 ≠ number := fun entry listed same =>
    notFront (same ▸ number_mem_of_mem_slotEntries listed)
  rw [slot?, leaves.slots, slotEntries_append, slotEntries_slot, List.append_assoc,
    lookup_append_of_absent inFront, List.cons_append, List.lookup_cons, BEq.rfl]

theorem string_of_mem (leaves : before.Leaves after left numbers) {number : Int} {text : String}
    (mem : .string number text ∈ left) : after.strings.lookup number = some text := by
  rcases exists_split_of_mem mem with ⟨front, back, rfl⟩
  rcases not_mem_of_distinct leaves.distinct with ⟨notFront, -, -⟩
  have inFront : ∀ entry ∈ stringEntries front, entry.1 ≠ number := fun entry listed same =>
    notFront (same ▸ number_mem_of_mem_stringEntries listed)
  rw [leaves.strings, stringEntries_append, stringEntries_string, List.append_assoc,
    lookup_append_of_absent inFront, List.cons_append, List.lookup_cons, BEq.rfl]

theorem slot?_of_lt (leaves : before.Leaves after left numbers) {number : Int}
    (older : number < before.next) : after.slot? number = before.slot? number := by
  have newer : ∀ entry ∈ slotEntries left, entry.1 ≠ number := by
    intro entry mem
    have lower := (leaves.number_lt_of_mem (number_mem_of_mem_slotEntries mem)).1
    omega
  rw [slot?, leaves.slots, lookup_append_of_absent newer, slot?]

theorem string_of_lt (leaves : before.Leaves after left numbers) {number : Int}
    (older : number < before.next) :
    after.strings.lookup number = before.strings.lookup number := by
  have newer : ∀ entry ∈ stringEntries left, entry.1 ≠ number := by
    intro entry mem
    have lower := (leaves.number_lt_of_mem (number_mem_of_mem_stringEntries mem)).1
    omega
  rw [leaves.strings, lookup_append_of_absent newer]

end Leaves

end Engine

end EngineBridge
