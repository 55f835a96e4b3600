import EngineBridge.Proofs.Session.Contents
import EngineBridge.Proofs.Session.Lifetimes

/-!
Values that are boxed and read back.

A truth value, an integer of one word, a float or a text is boxed as the type of its kind, and only
the reader of that kind gives it back. A copy holds what the value holds that it is made of, and so
does every copy in a chain. A text that crosses as a native string comes back the same way.
-/

namespace EngineBridge

open Bridge

variable {α : Type} {name : String} {value plain : Value} {content : Held}

namespace Bridge.PlainKind

/-- The type as which values of a kind are boxed. -/
def gtype : PlainKind → GType
  | .bool => .bool
  | .int => .int
  | .float => .float
  | .text => .string

/-- The value that is read out of a content of a kind. -/
inductive Reads : PlainKind → Held → Value → Prop
  | bool (value : Bool) : Reads .bool (.bool value) (.bool value)
  | int {number : Int} (word : Number.IsSignedWord number) : Reads .int (.int number) (.int number)
  | float (value : Float) : Reads .float (.float value) (.float value)
  | text (value : String) : Reads .text (.text value) (.text value)

end Bridge.PlainKind

namespace Value

/-- The values that can be read back, each with its kind and with what is read back: the value
itself, without a name under which it is kept. -/
inductive Plain : Value → PlainKind → Value → Prop
  | bool (value : Bool) : Plain (.bool value) .bool (.bool value)
  | int {number : Int} (word : Number.IsSignedWord number) : Plain (.int number) .int (.int number)
  | enumerator (enumeration member : String) {number : Int} (word : Number.IsSignedWord number) :
      Plain (.enumerator enumeration member number) .int (.int number)
  | float (value : Float) : Plain (.float value) .float (.float value)
  | keptFloat (kept : String) (value : Float) : Plain (.keptFloat kept value) .float (.float value)
  | text (value : String) : Plain (.text value) .text (.text value)

/-! The values of each kind. -/

def bool? : Value → Option Bool
  | .bool value => some value
  | _ => none

def int? : Value → Option Int
  | .int value => some value
  | _ => none

def float? : Value → Option Float
  | .float value => some value
  | _ => none

def text? : Value → Option String
  | .text value => some value
  | _ => none

end Value

namespace Attached

/-- What is live in the engine is the same before and after, and so are the owners. -/
structure SameHoldings (before after : Attached name) : Prop where
  slots : after.engine.slots = before.engine.slots
  strings : after.engine.strings = before.engine.strings
  variants : after.session.variants = before.session.variants
  stringOwners : after.session.strings = before.session.strings

/-- Whether an operation gives a value and leaves everything live as it is. -/
def Gives (place : Attached name) (operation : Bridge α) (value : α) : Prop :=
  ∃ after : Attached name, runFrom operation place.session = (.ok value, after.session) ∧
    place.SameHoldings after

theorem gives_of_yields {place after : Attached name} {operation : Bridge α} {value : α}
    {numbers : Nat} (yields : operation.Yields place (.ok value) after [] numbers) :
    place.Gives operation value :=
  ⟨after, yields.ran, yields.leaves.slots, yields.leaves.strings, yields.keeps.variants,
    yields.keeps.strings⟩

theorem Gives.map {place : Attached name} {β : Type} {operation : Bridge α} {value : α}
    (gives : place.Gives operation value) (change : α → β) :
    place.Gives (do return change (← operation)) (change value) := by
  obtain ⟨after, ran, same⟩ := gives
  exact ⟨after, runFrom_bind_of_ok ran _, same⟩

/-- Whether the owner of a boxed value is live and what it holds. -/
def Holds (place : Attached name) (reference : Nat) (content : Int × Held) : Prop :=
  ∃ payload, place.session.livePayload reference = .ok payload ∧
    place.engine.content? payload.slot = some content

/-- The session after some work that released nothing that was there before. -/
structure Grows (before after : Attached name) (numbers : Nat) : Prop where
  leaves : ∃ left, before.engine.Leaves after.engine left numbers
  variants : before.session.variants <+: after.session.variants
  strings : before.session.strings <+: after.session.strings

namespace Grows

variable {first second third : Attached name} {numbers more total : Nat}

theorem refl (place : Attached name) : place.Grows place 0 :=
  ⟨⟨[], .refl place.engine⟩, List.prefix_refl _, List.prefix_refl _⟩

theorem trans (left : first.Grows second numbers) (right : second.Grows third more)
    (fits : numbers + more ≤ total) : first.Grows third total := by
  obtain ⟨early, earlyLeaves⟩ := left.leaves
  obtain ⟨late, lateLeaves⟩ := right.leaves
  exact ⟨⟨_, (earlyLeaves.trans lateLeaves).weaken fits⟩, left.variants.trans right.variants,
    left.strings.trans right.strings⟩

theorem hasRoom (grows : first.Grows second numbers)
    (room : first.engine.HasRoom (numbers + more)) : second.engine.HasRoom more := by
  obtain ⟨left, leaves⟩ := grows.leaves
  exact leaves.hasRoom room

theorem missing (grows : first.Grows second numbers) :
    second.engine.missing = first.engine.missing := by
  obtain ⟨left, leaves⟩ := grows.leaves
  exact leaves.register.missing

private theorem getElem?_of_begins {β : Type} {short long : List β} (begins : short <+: long)
    {index : Nat} {item : β} (found : short[index]? = some item) : long[index]? = some item := by
  obtain ⟨rest, rfl⟩ := begins
  rw [List.getElem?_append_left (List.getElem?_eq_some_iff.mp found).1, found]

theorem liveString (grows : first.Grows second numbers) {reference : Nat} {string : Int}
    (live : first.session.liveString reference = .ok string) :
    second.session.liveString reference = .ok string := by
  unfold Session.liveString at live ⊢
  cases owner : first.session.strings[reference]? with
  | none =>
      rw [owner] at live
      cases live
  | some cell =>
      rw [owner] at live
      rw [getElem?_of_begins grows.strings owner]
      exact live

theorem string (grows : first.Grows second numbers) {string : Int} {text : String}
    (found : first.engine.strings.lookup string = some text) :
    second.engine.strings.lookup string = some text := by
  obtain ⟨left, leaves⟩ := grows.leaves
  rw [leaves.string_of_lt (first.numbered.lt_of_string found).2, found]

theorem holds (grows : first.Grows second numbers) {reference : Nat} {content : Int × Held}
    (holds : first.Holds reference content) : second.Holds reference content := by
  obtain ⟨payload, live, held⟩ := holds
  obtain ⟨left, leaves⟩ := grows.leaves
  refine ⟨payload, ?_, leaves.content?_eq first.numbered held⟩
  unfold Session.livePayload at live ⊢
  cases owner : first.session.variants[reference]? with
  | none =>
      rw [owner] at live
      cases live
  | some cell =>
      rw [owner] at live
      rw [getElem?_of_begins grows.variants owner]
      exact live

end Grows

variable {place : Attached name} {reference : Nat} {kind : PlainKind} {typeNumber : Int}

theorem Holds.boxable (holds : place.Holds reference (typeNumber, content)) :
    place.Boxable (.variant reference) typeNumber content := by
  obtain ⟨payload, live, held⟩ := holds
  exact .variant live held

/-! Reading -/

/-- Whether the owner of a boxed value is read as a value of a kind: its type is that of the kind,
the value is what it converts to and what the reader of the kind gives, and the other readers give
nothing. -/
structure ReadsBack (place : Attached name) (reference : Nat) (kind : PlainKind) (plain : Value) :
    Prop where
  typed : place.Gives (typeOf (livePayload reference)) kind.gtype
  converted : ∀ other, place.Gives (convert other (livePayload reference))
    (if other = kind then some plain else none)
  bool : place.Gives (readBool (livePayload reference)) plain.bool?
  int : place.Gives (readInt (livePayload reference)) plain.int?
  float : place.Gives (readFloat (livePayload reference)) plain.float?
  text : place.Gives (readText (livePayload reference)) plain.text?

section

variable (complete : place.engine.missing = [])
  (holds : place.Holds reference ((kind.gtype.number : Int), content))

include complete in
theorem available (gtype : GType) :
    place.engine.missing.contains (gtype.number : Int) = false := by
  rw [complete]
  rfl

include holds in
private theorem gives_of_other {gtype : GType} (differs : kind.gtype ≠ gtype)
    (decode : List UInt8 → Bridge α) :
    place.Gives (readAs gtype (livePayload reference) decode) none := by
  obtain ⟨payload, live, held⟩ := holds
  have named : typeNamed kind.gtype.number ≠ gtype := by rwa [typeNamed_number]
  obtain ⟨after, read⟩ := readAs_of_other (addresses_livePayload live) held named decode
  exact gives_of_yields read

include complete holds in
private theorem gives_of_same (decode : List UInt8 → α) (isPlain : IsPlainType kind.gtype)
    {bytes : List UInt8} (written : ∀ engine,
      runFrom (Native.writeTyped kind.gtype content) engine = (.ok bytes, engine)) :
    place.Gives (readAs kind.gtype (livePayload reference) fun bytes => pure (decode bytes))
      (some (decode bytes)) := by
  obtain ⟨payload, live, held⟩ := holds
  obtain ⟨after, read⟩ := readAs_of_written decode isPlain (available complete _)
    (addresses_livePayload live) held written
  exact gives_of_yields read

variable (reads : kind.Reads content plain)

include complete holds reads

theorem gives_readBool : place.Gives (readBool (livePayload reference)) plain.bool? := by
  cases reads with
  | bool value =>
      have read := gives_of_same complete holds (fun bytes => Number.bytesAt bytes 1 != [0])
        isPlainType_bool fun _ => rfl
      cases value <;> exact read
  | int | float | text => exact gives_of_other holds (by decide) _

theorem gives_readInt : place.Gives (readInt (livePayload reference)) plain.int? := by
  cases reads with
  | @int number word =>
      have read := gives_of_same complete holds (fun bytes => Number.signedWordAt bytes 0)
        isPlainType_int fun _ => rfl
      rw [Number.signedWordAt_wordBytes, Number.wrapSigned_of_isSignedWord word] at read
      exact read
  | bool | float | text => exact gives_of_other holds (by decide) _

theorem gives_readFloat : place.Gives (readFloat (livePayload reference)) plain.float? := by
  cases reads with
  | float value =>
      have read := gives_of_same complete holds
        (fun bytes => Float.ofBits (Number.wordAt bytes 0).toUInt64) isPlainType_float fun _ => rfl
      rw [Number.ofBits_wordAt_littleEndian] at read
      exact read
  | bool | int | text => exact gives_of_other holds (by decide) _

theorem gives_readText (room : place.engine.HasRoom 1) :
    place.Gives (readText (livePayload reference)) plain.text? := by
  cases reads with
  | text value =>
      obtain ⟨payload, live, held⟩ := holds
      obtain ⟨after, read⟩ := readText_of_string (available complete _)
        (addresses_livePayload live) held room
      exact gives_of_yields read
  | bool | int | float => exact gives_of_other holds (by decide) _

/-- A box of a value of a kind is read back as this value. -/
theorem readsBack (room : place.engine.HasRoom 1) : place.ReadsBack reference kind plain where
  typed := by
    obtain ⟨payload, live, held⟩ := holds
    obtain ⟨after, asked⟩ := typeOf_yields (addresses_livePayload live) held
    rw [typeNamed_number] at asked
    exact gives_of_yields asked
  converted other := by
    have bool := (gives_readBool complete holds reads).map (Option.map Value.bool)
    have int := (gives_readInt complete holds reads).map (Option.map Value.int)
    have float := (gives_readFloat complete holds reads).map (Option.map Value.float)
    have text := (gives_readText complete holds reads room).map (Option.map Value.text)
    cases reads <;> cases other <;> assumption
  bool := gives_readBool complete holds reads
  int := gives_readInt complete holds reads
  float := gives_readFloat complete holds reads
  text := gives_readText complete holds reads room

end

/-! Boxing -/

/-- A value that can be boxed gets an owner that holds its content. -/
theorem newVariant_holds (boxable : place.Boxable value typeNumber content)
    (room : place.engine.HasRoom 2) :
    ∃ reference after, runFrom (newVariant value) place.session = (.ok reference, after.session) ∧
      place.Grows after 2 ∧ after.Holds reference (typeNumber, content) := by
  have boxes := box_boxes place value
  rw [boxed_of_boxable boxable (room.weaken (by omega))] at boxes
  cases boxes with
  | @ok _ number _ middle yields =>
      let payload : Payload := ⟨typeNumber, number, 0⟩
      have held : middle.engine.slot? number = some (typeNumber, content) :=
        yields.leaves.slot?_of_mem (List.mem_singleton_self _)
      refine ⟨_, middle.withOwner ⟨payload, true⟩, runFrom_bind_of_ok yields.ran _,
        ⟨⟨_, yields.leaves⟩, ?_, ?_⟩, payload, ?_, Engine.content?_of_slot? middle.numbered held⟩
      · change _ <+: middle.session.variants ++ [_]
        rw [yields.keeps.variants]
        exact List.prefix_append ..
      · change _ <+: middle.session.strings
        rw [yields.keeps.strings]
      · have owner : (middle.withOwner ⟨payload, true⟩).session.variants[
            middle.session.variants.length]? = some ⟨payload, true⟩ :=
          List.getElem?_concat_length
        exact Session.livePayload_of_isAlive owner rfl

end Attached

namespace Bridge

/-- A chain of copies: a copy of a boxed value, a copy of that copy, and so on. -/
def copies : Nat → Nat → Bridge (List Nat)
  | 0, _ => return []
  | count + 1, reference => do
      let copy ← newVariant (.variant reference)
      return copy :: (← copies count copy)

/-- A boxed value with a chain of copies. -/
def boxChain (value : Value) (count : Nat) : Bridge (List Nat) := do
  let reference ← newVariant value
  return reference :: (← copies count reference)

end Bridge

namespace Attached

variable {place : Attached name} {typeNumber : Int}

/-- Every copy in a chain holds what the first value holds. -/
theorem copies_hold (count : Nat) {reference : Nat} {held : Int × Held}
    (holds : place.Holds reference held) (room : place.engine.HasRoom (2 * count)) :
    ∃ references after, runFrom (copies count reference) place.session =
        (.ok references, after.session) ∧
      place.Grows after (2 * count) ∧ references.length = count ∧
      ∀ copy ∈ references, after.Holds copy held := by
  induction count generalizing place reference with
  | zero => exact ⟨[], place, rfl, .refl place, rfl, nofun⟩
  | succ count induction =>
      have split : 2 * (count + 1) = 2 + 2 * count := by omega
      rw [split] at room
      obtain ⟨copy, middle, made, begun, copied⟩ :=
        newVariant_holds holds.boxable (room.weaken (by omega))
      obtain ⟨rest, after, ran, went, length, later⟩ := induction copied (begun.hasRoom room)
      refine ⟨copy :: rest, after, ?_, begun.trans went (by omega), congrArg (· + 1) length, ?_⟩
      · unfold copies
        rw [runFrom_bind_of_ok made, runFrom_bind_of_ok ran]
        rfl
      · intro other mem
        rcases List.mem_cons.mp mem with rfl | mem
        · exact went.holds copied
        · exact later other mem

/-- A chain of copies holds the content of its value throughout. -/
theorem boxChain_holds (count : Nat) (boxable : place.Boxable value typeNumber content)
    (room : place.engine.HasRoom (2 * count + 2)) :
    ∃ references after, runFrom (boxChain value count) place.session =
        (.ok references, after.session) ∧
      place.Grows after (2 * count + 2) ∧ references.length = count + 1 ∧
      ∀ reference ∈ references, after.Holds reference (typeNumber, content) := by
  rw [Nat.add_comm] at room
  obtain ⟨reference, middle, made, begun, holds⟩ :=
    newVariant_holds boxable (room.weaken (by omega))
  obtain ⟨rest, after, ran, went, length, later⟩ := copies_hold count holds (begun.hasRoom room)
  refine ⟨reference :: rest, after, ?_, begun.trans went (by omega), congrArg (· + 1) length, ?_⟩
  · unfold boxChain
    rw [runFrom_bind_of_ok made, runFrom_bind_of_ok ran]
    rfl
  · intro other mem
    rcases List.mem_cons.mp mem with rfl | mem
    · exact went.holds holds
    · exact later other mem

/-- Whether a value and a chain of copies are boxed, and each of the boxes is read back as a value of
a kind. -/
def ChainReadsBack (place after : Attached name) (value : Value) (copies : Nat) (kind : PlainKind)
    (plain : Value) : Prop :=
  ∃ references, runFrom (boxChain value copies) place.session = (.ok references, after.session) ∧
    references.length = copies + 1 ∧
    ∀ reference ∈ references, after.ReadsBack reference kind plain

/-- Whether a native string that is made of a text reads as this text, and whether a box of it and a
chain of copies are read back as the text, after which the native string still reads the same. -/
def TextReadsBack (place : Attached name) (text : String) (copies : Nat) : Prop :=
  ∃ (reference : Nat) (middle after : Attached name),
    runFrom (newString text) place.session = (.ok reference, middle.session) ∧
    middle.Gives (stringDescription reference) text ∧
    middle.ChainReadsBack after (.nativeString reference) copies .text (.text text) ∧
    after.Gives (stringDescription reference) text

theorem typedAs_of_plain {kind : PlainKind} (given : value.Plain kind plain) :
    ∃ content, place.TypedAs value kind.gtype content ∧ kind.Reads content plain := by
  cases given with
  | bool value => exact ⟨_, .bool value, .bool value⟩
  | @int number word =>
      have typed : place.TypedAs (.int number) .int (.int (Number.wrapSigned number)) :=
        .int number
      rw [Number.wrapSigned_of_isSignedWord word] at typed
      exact ⟨_, typed, .int word⟩
  | @enumerator enumeration member number word =>
      have typed : place.TypedAs (.enumerator enumeration member number) .int
        (.int (Number.wrapSigned number)) := .enumerator enumeration member number
      rw [Number.wrapSigned_of_isSignedWord word] at typed
      exact ⟨_, typed, .int word⟩
  | float value => exact ⟨_, .float value, .float value⟩
  | keptFloat kept value => exact ⟨_, .keptFloat kept value, .float value⟩
  | text value => exact ⟨_, .text value, .text value⟩

/-- What is boxed as a value of a kind is read back as it from every box of a chain. -/
theorem chainReadsBack_of_typedAs {kind : PlainKind} (complete : place.engine.missing = [])
    (typed : place.TypedAs value kind.gtype content) (reads : kind.Reads content plain)
    (copies : Nat) (room : place.engine.HasRoom (2 * copies + 3)) :
    ∃ after, place.Grows after (2 * copies + 2) ∧
      place.ChainReadsBack after value copies kind plain := by
  obtain ⟨references, after, ran, grows, length, holds⟩ :=
    boxChain_holds copies (.typed (available complete _) typed) (room.weaken (by omega))
  refine ⟨after, grows, references, ran, length, fun reference mem => ?_⟩
  exact readsBack (grows.missing.trans complete) (holds reference mem) reads (grows.hasRoom room)

/-- A native string that is made of a text gets an owner and reads as the text. -/
theorem newString_owns (place : Attached name) (text : String) :
    ∃ reference string after,
      runFrom (newString text) place.session = (.ok reference, after.session) ∧
      place.Grows after 1 ∧ after.session.liveString reference = .ok string ∧
      after.engine.strings.lookup string = some text := by
  obtain ⟨middle, made⟩ := stringNew_yields place text
  let cell : StringCell := ⟨place.engine.next, true⟩
  let after := middle.withOwners middle.session.variants (middle.session.strings ++ [cell])
  have owner : after.session.strings[middle.session.strings.length]? = some cell :=
    List.getElem?_concat_length
  refine ⟨_, place.engine.next, after, runFrom_bind_of_ok made.ran _,
    ⟨⟨_, made.leaves⟩, ?_, ?_⟩, ?_, made.leaves.string_of_mem (List.mem_singleton_self _)⟩
  · change _ <+: middle.session.variants
    rw [made.keeps.variants]
  · change _ <+: middle.session.strings ++ [cell]
    rw [made.keeps.strings]
    exact List.prefix_append ..
  · rw [Session.liveString, owner]
    rfl

theorem gives_stringDescription {reference : Nat} {string : Int} {text : String}
    (live : place.session.liveString reference = .ok string)
    (found : place.engine.strings.lookup string = some text) :
    place.Gives (stringDescription reference) text := by
  obtain ⟨after, described⟩ := stringDescription_yields live
  rw [Engine.stringAt, found] at described
  exact gives_of_yields described

/-- With an engine that has all construction routines, every value of a plain kind that is boxed,
and every copy in a chain of copies of it, is read back as this value and as no value of another
kind. So is every text that crosses as a native string. No reading changes what is live. -/
theorem plain_values_round_trip (place : Attached name) (complete : place.engine.missing = [])
    (copies : Nat) (room : place.engine.HasRoom (2 * copies + 4)) :
    (∀ (value : Value) kind plain, value.Plain kind plain →
      ∃ after, place.ChainReadsBack after value copies kind plain) ∧
    ∀ text, place.TextReadsBack text copies := by
  constructor
  · intro value kind plain given
    obtain ⟨content, typed, reads⟩ : ∃ content, place.TypedAs value kind.gtype content ∧
      kind.Reads content plain := typedAs_of_plain given
    obtain ⟨after, -, chain⟩ :=
      chainReadsBack_of_typedAs complete typed reads copies (room.weaken (by omega))
    exact ⟨after, chain⟩
  · intro text
    obtain ⟨reference, string, middle, made, begun, live, found⟩ := newString_owns place text
    have split : 2 * copies + 4 = 1 + (2 * copies + 3) := by omega
    rw [split] at room
    have typed : middle.TypedAs (.nativeString reference) PlainKind.text.gtype (.text text) :=
      .nativeString live found
    obtain ⟨after, grows, chain⟩ := chainReadsBack_of_typedAs (begun.missing.trans complete) typed
      (.text text) copies (begun.hasRoom room)
    exact ⟨reference, middle, after, made, gives_stringDescription live found, chain,
      gives_stringDescription (grows.liveString live) (grows.string found)⟩

/-- The ends of the range, a truth value, and a text with a zero character and with characters of
one to four bytes. -/
theorem plain_values_round_trip_of_fresh :
    let place := ofFresh "main" "Engine" []
    (∃ after, place.ChainReadsBack after (.int (-(2 ^ 63))) 2 .int (.int (-(2 ^ 63)))) ∧
    (∃ after, place.ChainReadsBack after (.bool true) 2 .bool (.bool true)) ∧
    (∃ after, place.ChainReadsBack after (.text "a\x00é€𝄞") 2 .text (.text "a\x00é€𝄞")) ∧
    place.TextReadsBack "" 2 := by
  have ⟨values, texts⟩ := plain_values_round_trip (ofFresh "main" "Engine" []) rfl 2 (by decide)
  exact ⟨values _ _ _ (.int ⟨by decide, by decide⟩), values _ _ _ (.bool true), values _ _ _ (.text _),
    texts ""⟩

end Attached

end EngineBridge
