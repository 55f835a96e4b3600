import EngineBridge.Proofs.Session.Boxes
import Mathlib

/-!
What a box of a value holds.

`Attached.Boxable` says of the values that can be boxed what their boxes hold, by the values alone.
Owners have to be live for that, and they stay so while scratch values come and go.
-/

namespace EngineBridge

variable {name : String} {value : Value} {gtype : GType} {typeNumber : Int} {content : Held}
  {numbers : Nat}

/-- A float that is stored in eight bytes is read back. -/
theorem Number.ofBits_wordAt_littleEndian (value : Float) :
    Float.ofBits (wordAt (littleEndian 8 value.toBits.toNat) 0).toUInt64 = value := by
  have read := wordAt_append_littleEndian [] [] value.toBits.toNat
  rw [List.append_nil, List.nil_append, List.length_nil] at read
  have word : value.toBits.toNat.toUInt64 = value.toBits := UInt64.ofNat_toNat
  rw [read, Nat.mod_eq_of_lt value.toBits.toNat_lt, word, Float.ofBits_toBits]

namespace Attached

/-- The type and the content with which a value other than nil is boxed. Integers keep as much as
fits into a word. -/
inductive TypedAs (place : Attached name) : Value → GType → Held → Prop
  | bool (value : Bool) : TypedAs place (.bool value) .bool (.bool value)
  | int (value : Int) : TypedAs place (.int value) .int (.int (Number.wrapSigned value))
  | enumerator (enumeration member : String) (number : Int) :
      TypedAs place (.enumerator enumeration member number) .int (.int (Number.wrapSigned number))
  | float (value : Float) : TypedAs place (.float value) .float (.float value)
  | keptFloat (kept : String) (value : Float) :
      TypedAs place (.keptFloat kept value) .float (.float value)
  | text (text : String) : TypedAs place (.text text) .string (.text text)
  | nativeString {reference : Nat} {string : Int} {text : String}
      (live : place.session.liveString reference = .ok string)
      (found : place.engine.strings.lookup string = some text) :
      TypedAs place (.nativeString reference) .string (.text text)
  | object {className : Document} {handle : Value} {number : Int}
      (given : handle.integer? = some number) :
      TypedAs place (.object className handle) .object (.int (Number.wrapUnsigned number))
  | typedArray (element : Document) (bytes : List UInt8) :
      TypedAs place (.typedArray element bytes) .array
        (.bytes (Number.bytesAt bytes GType.array.byteCount))
  | opaqueValue {typeName : Document} {gtype : GType} (bytes : List UInt8)
      (named : GType.ofTypeName typeName = .ok gtype) (notString : gtype ≠ .string) :
      TypedAs place (.opaqueValue typeName bytes) gtype
        (Native.readTyped place.engine gtype bytes)
  | opaqueString {typeName : Document} {bytes : List UInt8} {text : String}
      (named : GType.ofTypeName typeName = .ok .string)
      (found : place.engine.strings.lookup (Number.signedWordAt bytes 0) = some text) :
      TypedAs place (.opaqueValue typeName bytes) .string (.text text)

/-- What a box of a value holds, for the values that can be boxed. A boxed value is copied, and for
any other one the engine needs a routine for its type. -/
inductive Boxable (place : Attached name) : Value → Int → Held → Prop
  | nothing : Boxable place .nothing GType.nil.number .nothing
  | variant {reference : Nat} {payload : Payload} {typeNumber : Int} {content : Held}
      (live : place.session.livePayload reference = .ok payload)
      (held : place.engine.content? payload.slot = some (typeNumber, content)) :
      Boxable place (.variant reference) typeNumber content
  | typed {value : Value} {gtype : GType} {content : Held}
      (available : place.engine.missing.contains (gtype.number : Int) = false)
      (typed : place.TypedAs value gtype content) : Boxable place value gtype.number content

section

variable {place after : Attached name}

theorem content?_of_reaches (reached : place.Reaches after numbers) {number : Int}
    {content : Int × Held} (held : place.engine.content? number = some content) :
    after.engine.content? number = some content := by
  rcases reached.leaves with ⟨left, leaves⟩
  exact leaves.content?_eq place.numbered held

theorem string_of_reaches (reached : place.Reaches after numbers) {number : Int} {text : String}
    (found : place.engine.strings.lookup number = some text) :
    after.engine.strings.lookup number = some text := by
  rcases reached.leaves with ⟨left, leaves⟩
  rw [leaves.string_of_lt (place.numbered.lt_of_string found).2, found]

private theorem readTyped_of_ne (first second : Engine) (notString : gtype ≠ .string)
    (source : List UInt8) :
    Native.readTyped first gtype source = Native.readTyped second gtype source := by
  cases gtype with
  | string => exact absurd rfl notString
  | _ => rfl

theorem TypedAs.later (typed : place.TypedAs value gtype content)
    (reached : place.Reaches after numbers) : after.TypedAs value gtype content := by
  cases typed with
  | nativeString live found =>
      rw [← reached.keeps.liveString] at live
      exact .nativeString live (string_of_reaches reached found)
  | opaqueValue bytes named notString =>
      rw [readTyped_of_ne place.engine after.engine notString]
      exact .opaqueValue bytes named notString
  | opaqueString named found => exact .opaqueString named (string_of_reaches reached found)
  | object given => exact .object given
  | bool | int | enumerator | float | keptFloat | text | typedArray => constructor

/-- What can be boxed can still be boxed later, and with the same content. -/
theorem Boxable.later (boxable : place.Boxable value typeNumber content)
    (reached : place.Reaches after numbers) : after.Boxable value typeNumber content := by
  cases boxable with
  | nothing => exact .nothing
  | variant live held =>
      rw [← reached.keeps.livePayload] at live
      exact .variant live (content?_of_reaches reached held)
  | typed available typed =>
      rcases reached.leaves with ⟨left, leaves⟩
      rw [← leaves.register.missing] at available
      exact .typed available (TypedAs.later typed reached)

private theorem word_of_string (room : place.engine.HasRoom 1) {number : Int} {text : String}
    (found : place.engine.strings.lookup number = some text) :
    Number.signedWordAt (Number.wordBytes number) 0 = number := by
  have bounds := place.numbered.lt_of_string found
  have next := room.isSignedWord place.numbered
  rw [Number.signedWordAt_wordBytes]
  apply Number.wrapSigned_of_isSignedWord
  unfold Number.IsSignedWord at next ⊢
  omega

private theorem fromRoutine_of_available
    (available : place.engine.missing.contains (gtype.number : Int) = false)
    (notNil : gtype ≠ .nil) (notMax : gtype ≠ .max) :
    place.functionTables.fromRoutine gtype.number = .ok ⟨name, gtype⟩ := by
  rw [functionTables, Engine.fromRoutine_number notNil notMax, available, if_neg (by decide)]

private theorem typeName_ne {typeName : Document} (named : GType.ofTypeName typeName = .ok gtype) :
    gtype ≠ .nil ∧ gtype ≠ .max := by
  rcases exists_of_bind_eq_ok named with ⟨key, -, named⟩
  have listed : ∀ entry ∈ GType.byTypeName, entry.2 ≠ .nil ∧ entry.2 ≠ .max := by decide
  cases key with
  | text typeName =>
      simp only at named
      cases found : GType.byTypeName.lookup typeName with
      | none =>
          rw [found] at named
          cases named
      | some known =>
          rw [found] at named
          cases named
          exact listed (typeName, gtype) (mem_of_lookup found)
  | _ => cases named

/-- The native form of a value, which is read back as its content. -/
private theorem source_of_typedAs (room : place.engine.HasRoom 1)
    (typed : place.TypedAs value gtype content) (notText : ∀ text, value ≠ .text text) :
    ∃ source, place.session.typedSource value = .ok (gtype, source) ∧
      Native.readTyped place.engine gtype source = content ∧ gtype ≠ .nil ∧ gtype ≠ .max ∧
      place.boxed value = place.boxedTyped value := by
  cases typed with
  | bool value => exact ⟨_, rfl, by cases value <;> rfl, by decide, by decide, rfl⟩
  | int value =>
      refine ⟨_, rfl, ?_, by decide, by decide, rfl⟩
      rw [Native.readTyped, Number.signedWordAt_wordBytes]
  | enumerator enumeration member number =>
      refine ⟨_, rfl, ?_, by decide, by decide, rfl⟩
      rw [Native.readTyped, Number.signedWordAt_wordBytes]
  | float value =>
      refine ⟨_, rfl, ?_, by decide, by decide, rfl⟩
      rw [Native.readTyped, Number.ofBits_wordAt_littleEndian]
  | keptFloat kept value =>
      refine ⟨_, rfl, ?_, by decide, by decide, rfl⟩
      rw [Native.readTyped, Number.ofBits_wordAt_littleEndian]
  | text text => exact absurd rfl (notText text)
  | @nativeString reference string text live found =>
      refine ⟨Number.wordBytes string, ?_, ?_, by decide, by decide, rfl⟩
      · rw [Session.typedSource, live]
        rfl
      · rw [Native.readTyped, word_of_string room found, Engine.stringAt, found]
        rfl
  | @object className handle number given =>
      refine ⟨Number.wordBytes number, ?_, ?_, by decide, by decide, rfl⟩
      · simp only [Session.typedSource, Bridge.typedSource, given]
        rfl
      · rw [Native.readTyped, Number.wordAt_wordBytes]
  | typedArray element bytes => exact ⟨_, rfl, rfl, by decide, by decide, rfl⟩
  | opaqueValue bytes named notString =>
      refine ⟨bytes, ?_, rfl, (typeName_ne named).1, (typeName_ne named).2, rfl⟩
      simp only [Session.typedSource, Bridge.typedSource, named]
      rfl
  | @opaqueString typeName bytes text named found =>
      refine ⟨bytes, ?_, ?_, by decide, by decide, rfl⟩
      · simp only [Session.typedSource, Bridge.typedSource, named]
        rfl
      · rw [Native.readTyped, Engine.stringAt, found]
        rfl

private theorem boxed_text (room : place.engine.HasRoom 1) {text : String}
    (available : place.engine.missing.contains (GType.string.number : Int) = false) :
    place.boxed (.text text) = .ok (GType.string.number, .text text) := by
  have routine := fromRoutine_of_available available (by decide) (by decide)
  have word : Number.signedWordAt (Number.wordBytes place.engine.next) 0 = place.engine.next := by
    rw [Number.signedWordAt_wordBytes]
    exact Number.wrapSigned_of_isSignedWord (room.isSignedWord place.numbered)
  have found : (place.engine.withString text).stringAt place.engine.next = text := by
    rw [Engine.stringAt, Engine.withString, List.lookup_cons, BEq.rfl]
    rfl
  simp only [boxed, routine, bind, Except.bind, Native.readTyped, word, found]
  rfl

/-- A value that can be boxed is boxed with its content. -/
theorem boxed_of_boxable (boxable : place.Boxable value typeNumber content)
    (room : place.engine.HasRoom 1) : place.boxed value = .ok (typeNumber, content) := by
  cases boxable with
  | nothing => rfl
  | variant live held => simp only [boxed, live, bind, Except.bind, copied, held]
  | @typed _ gtype _ available typed =>
      by_cases isText : ∃ text, value = .text text
      · rcases isText with ⟨text, rfl⟩
        cases typed
        exact boxed_text room available
      · rcases source_of_typedAs room typed fun text equal => isText ⟨text, equal⟩
            with ⟨source, given, read, notNil, notMax, same⟩
        have routine := fromRoutine_of_available available notNil notMax
        rw [same]
        simp only [boxedTyped, given, bind, Except.bind, routine, read]
        rfl

end

end Attached

end EngineBridge
