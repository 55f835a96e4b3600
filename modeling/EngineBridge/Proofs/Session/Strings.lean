import EngineBridge.Proofs.Session.Attached
import EngineBridge.Session.Strings

/-!
Releases, and native strings that live for one operation.

A resource that was left by a stretch of work can be released without a fault at any time as long
as it is among what is left. Everything that creates a resource for the time of an operation
therefore leaves what the operation leaves.
-/

namespace EngineBridge.Bridge

variable {α β : Type} {name : String}

/-- A release that takes one resource out of the engine and leaves the session alone. -/
structure Releases (release : Bridge Unit) (resource : Resource) (before after : Attached name) :
    Prop where
  ran : runFrom release before.session = (.ok (), after.session)
  engine : after.engine = before.engine.without resource
  keeps : before.session.Keeps after.session name

section

variable {start middle last : Attached name} {front back : List Resource} {numbers : Nat}

private theorem native_releases {action : Native Unit} {resource : Resource}
    (leaves : start.engine.Leaves last.engine (front ++ resource :: back) numbers)
    (ran : runFrom action last.engine = (.ok (), last.engine.without resource)) :
    ∃ after : Attached name, Releases (native action) resource last after := by
  have numbered := (leaves.release start.numbered).numbered start.numbered
  have same : (last.engine.without resource).missing = last.engine.missing := by
    cases resource <;> rfl
  refine ⟨last.advance _ numbered same, ?_, rfl, last.keeps_advance _ numbered same⟩
  have acted := runOn_run last action.run ran
  unfold native nativeOn
  rw [runFrom_bind_of_ok (installedEngine_run last), runFrom_bind_of_ok acted]
  rfl

theorem number_ne_zero {left : List Resource}
    (leaves : start.engine.Leaves last.engine left numbers) {resource : Resource}
    (mem : resource ∈ left) : resource.number ≠ 0 := by
  have positive := start.numbered.positive
  have created := (leaves.created resource mem).1
  omega

theorem destroyString_releases {number : Int} {text : String}
    (leaves : start.engine.Leaves last.engine (front ++ .string number text :: back) numbers) :
    ∃ after : Attached name,
      Releases (native (Native.stringDestroy number)) (.string number text) last after := by
  have mem : Resource.string number text ∈ front ++ .string number text :: back :=
    List.mem_append_right _ (List.mem_cons_self ..)
  exact native_releases leaves
    (Native.stringDestroy_of_string (number_ne_zero leaves mem) (leaves.string_of_mem mem))

theorem destroySlot_releases {payload : Payload} {typeNumber : Int} {content : Held}
    (leaves : start.engine.Leaves last.engine
      (front ++ .slot payload.slot typeNumber content :: back) numbers) :
    ∃ after : Attached name, Releases (native (Native.destroy payload))
      (.slot payload.slot typeNumber content) last after := by
  have mem : Resource.slot payload.slot typeNumber content ∈
      front ++ .slot payload.slot typeNumber content :: back :=
    List.mem_append_right _ (List.mem_cons_self ..)
  exact native_releases leaves
    (Native.destroy_of_slot (number_ne_zero leaves mem) (leaves.slot?_of_mem mem))

/-- Making something, working with it and releasing it leaves what the work leaves. -/
theorem Yields.releasing {make : Bridge α} {operation : α → Bridge β} {release : α → Bridge Unit}
    {value : α} {resource : Resource} {after : Attached name} {outcome : Except Failure β}
    {left : List Resource} {more total : Nat}
    (made : make.Yields start (.ok value) middle [resource] numbers)
    (worked : (operation value).Yields middle outcome last left more)
    (released : Releases (release value) resource last after) (fits : numbers + more ≤ total) :
    (make >>= fun value => Bridge.releasing (operation value) (release value)).Yields start outcome
      after left total where
  ran := by
    rw [runFrom_bind_of_ok made.ran]
    exact runFrom_releasing worked.ran released.ran
  leaves := by
    have both := (made.leaves.trans worked.leaves).release start.numbered
    rw [List.append_nil] at both
    rw [released.engine]
    exact both.weaken fits
  quiet := by
    have nonzero := number_ne_zero made.leaves (List.mem_singleton_self resource)
    rw [released.engine]
    exact (made.quiet.trans worked.quiet).trans (Engine.quiet_without _ nonzero)
  keeps := (made.keeps.trans worked.keeps).trans released.keeps

end

/-- A native string is made first, and the work that follows decides what is left. -/
theorem stringNew_yields (start : Attached name) (text : String) :
    ∃ middle : Attached name,
      (native (Native.stringNew (Text.utf8 text))).Yields start (.ok start.engine.next) middle
        [.string start.engine.next text] 1 := by
  rcases native_yields (Native.stringNew_yields start.engine text) with ⟨middle, -, made⟩
  exact ⟨middle, made⟩

theorem withString_yields {start middle last : Attached name} {text : String}
    {operation : Int → Bridge α} {outcome : Except Failure α} {left : List Resource}
    {numbers total : Nat}
    (made : (native (Native.stringNew (Text.utf8 text))).Yields start (.ok start.engine.next) middle
      [.string start.engine.next text] 1)
    (worked : (operation start.engine.next).Yields middle outcome last left numbers)
    (fits : 1 + numbers ≤ total) :
    ∃ after : Attached name, (withString text operation).Yields start outcome after left total := by
  have leaves := made.leaves.trans worked.leaves
  rcases destroyString_releases leaves with ⟨after, released⟩
  exact ⟨after, made.releasing worked released fits⟩

/-- What is copied to a buffer that has room for it and for one byte more. -/
theorem take_overwrite (bytes : List UInt8) :
    (Number.overwrite (List.replicate (bytes.length + 1) 0) (bytes.take bytes.length)).take
      bytes.length = bytes := by
  rw [List.take_length, Number.overwrite, List.length_replicate, List.take_take,
    Nat.min_eq_left (Nat.le_succ _), List.take_left]

/-- Reading a native string twice, for its length and for its bytes, gives its text. -/
theorem readString_yields (place : Attached name) (string : Int) :
    ∃ after : Attached name, (readString string).Yields place
      (.ok (place.engine.stringAt string)) after [] 0 := by
  rcases native_yields (Native.stringRead_yields place.engine string false 0)
      with ⟨middle, reached, measured⟩
  unfold readString
  by_cases empty : (Text.utf8 (place.engine.stringAt string)).length = 0
  · have nothing := Text.utf8_eq_nil_iff.mp (List.length_eq_zero_iff.mp empty)
    refine ⟨middle, measured.nothing_bind ?_⟩
    dsimp only
    rw [if_pos (by simpa using empty), nothing]
    exact .of_unchanged rfl
  · rcases native_yields (Native.stringRead_yields middle.engine string true
        (Text.utf8 (place.engine.stringAt string)).length) with ⟨last, -, filled⟩
    have same : middle.engine.stringAt string = place.engine.stringAt string := by
      rw [reached]
      rfl
    refine ⟨last, measured.nothing_bind ?_⟩
    dsimp only
    rw [if_neg (by simpa using empty)]
    refine filled.nothing_bind ?_
    dsimp only
    rw [Native.copied, if_pos rfl, same, take_overwrite, Text.ofUtf8_utf8]
    exact .of_unchanged rfl

/-- A native string that the engine has made is read and released. -/
theorem takeString_yields (string : α → Int) {make : Bridge α} {start middle : Attached name}
    {value : α} {text : String} {numbers : Nat}
    (made : make.Yields start (.ok value) middle [.string (string value) text] numbers) :
    ∃ after : Attached name,
      (make >>= fun value => takeString (string value)).Yields start (.ok text) after []
        numbers := by
  rcases readString_yields middle (string value) with ⟨last, read⟩
  have found := made.leaves.string_of_mem (List.mem_singleton_self _)
  rw [Engine.stringAt, found] at read
  have leaves := made.leaves.trans read.leaves
  rcases destroyString_releases leaves with ⟨after, released⟩
  exact ⟨after, made.releasing read released (Nat.le_refl numbers)⟩

end EngineBridge.Bridge
