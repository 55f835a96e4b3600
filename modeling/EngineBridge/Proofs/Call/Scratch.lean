import EngineBridge.Proofs.Session.Boxes

/-!
Scratch values of a call.

What is made for a call is released after it, the last first. A stage of a call makes such values
and goes on with what it has put together: `Prepares` says that it amounts to what follows under the
releases of its scratch values, and `Declines` that it fails without going on. Stages can be put one
after the other.
-/

namespace EngineBridge.Bridge

variable {α β γ : Type} {name : String}

/-- The release of a resource. -/
def release : Resource → Bridge Unit
  | .slot number typeNumber _ => destroyPayload ⟨typeNumber, number, 0⟩
  | .string number _ => native (Native.stringDestroy number)

/-- An operation under releases, given with the latest first. -/
def closing : List (Bridge Unit) → Bridge α → Bridge α
  | [], operation => operation
  | release :: earlier, operation => closing earlier (releasing operation release)

theorem closing_append (late early : List (Bridge Unit)) (operation : Bridge α) :
    closing (late ++ early) operation = closing early (closing late operation) := by
  induction late generalizing operation with
  | nil => rfl
  | cons release rest induction => exact induction (releasing operation release)

theorem closing_congr (releases : List (Bridge Unit)) {operation other : Bridge α}
    {session middle : Session} (same : runFrom operation session = runFrom other middle) :
    runFrom (closing releases operation) session = runFrom (closing releases other) middle := by
  induction releases generalizing operation other with
  | nil => exact same
  | cons release rest induction => exact induction (runFrom_releasing_congr release same)

/-- An operation under the releases of what was made before it, given with the latest first. -/
def unwinding : List Resource → Bridge α → Bridge α
  | [], operation => operation
  | resource :: earlier, operation => unwinding earlier (releasing operation (release resource))

theorem unwinding_eq_closing (scratch : List Resource) (operation : Bridge α) :
    unwinding scratch operation = closing (scratch.map release) operation := by
  induction scratch generalizing operation with
  | nil => rfl
  | cons resource rest induction => exact induction (releasing operation (release resource))

theorem unwinding_append (late early : List Resource) (operation : Bridge α) :
    unwinding (late ++ early) operation = unwinding early (unwinding late operation) := by
  simp only [unwinding_eq_closing, List.map_append, closing_append]

theorem unwinding_congr (scratch : List Resource) {operation other : Bridge α}
    {session middle : Session} (same : runFrom operation session = runFrom other middle) :
    runFrom (unwinding scratch operation) session = runFrom (unwinding scratch other) middle := by
  simp only [unwinding_eq_closing]
  exact closing_congr _ same

theorem release_releases {start last : Attached name} {front back : List Resource}
    {resource : Resource} {numbers : Nat}
    (leaves : start.engine.Leaves last.engine (front ++ resource :: back) numbers) :
    ∃ after : Attached name, Releases (release resource) resource last after := by
  cases resource with
  | slot number typeNumber content =>
      have named : start.engine.Leaves last.engine
          (front ++ .slot (⟨typeNumber, number, 0⟩ : Payload).slot typeNumber content :: back)
          numbers := leaves
      exact destroySlot_releases named
  | string number text => exact destroyString_releases leaves

/-- The releases of scratch values run from one session to another, whatever comes before them. -/
structure Unwinds (scratch : List Resource) (last after : Attached name) : Prop where
  ran : ∀ {α : Type} {operation : Bridge α} {session : Session} {outcome : Except Failure α},
    runFrom operation session = (outcome, last.session) →
      runFrom (unwinding scratch operation) session = (outcome, after.session)
  next : after.engine.next = last.engine.next
  quiet : last.engine.Quiet after.engine
  keeps : last.session.Keeps after.session name

/-- The releases take the scratch values out of what is left. -/
theorem exists_unwinds {start last : Attached name} {kept scratch : List Resource} {numbers : Nat}
    (leaves : start.engine.Leaves last.engine (kept ++ scratch) numbers) :
    ∃ after : Attached name, Unwinds scratch last after ∧
      start.engine.Leaves after.engine kept numbers := by
  induction scratch generalizing last with
  | nil =>
      rw [List.append_nil] at leaves
      exact ⟨last, ⟨fun ran => ran, rfl, .refl last.engine, .refl last.session name⟩, leaves⟩
  | cons resource rest induction =>
      have mem : resource ∈ kept ++ resource :: rest :=
        List.mem_append_right kept (List.mem_cons_self ..)
      have nonzero := number_ne_zero leaves mem
      rcases release_releases leaves with ⟨middle, released⟩
      have fewer := leaves.release start.numbered
      rw [← released.engine] at fewer
      rcases induction fewer with ⟨after, unwinds, left⟩
      have quiet : last.engine.Quiet middle.engine := by
        rw [released.engine]
        exact Engine.quiet_without _ nonzero
      exact ⟨after, {
        ran := fun ran => unwinds.ran (runFrom_releasing ran released.ran)
        next := by
          rw [unwinds.next, released.engine]
          cases resource <;> rfl
        quiet := quiet.trans unwinds.quiet
        keeps := released.keeps.trans unwinds.keeps }, left⟩

/-- A part of an operation that puts something together and goes on with it. -/
def Stage (β : Type) : Type 1 :=
  ∀ α : Type, (β → Bridge α) → Bridge α

namespace Stage

/-- A stage that goes on with the value of an operation. -/
def ofOperation (operation : Bridge β) : Stage β :=
  fun _ use => operation >>= use

/-- A stage after which something else is passed on. -/
def map (stage : Stage β) (change : β → γ) : Stage γ :=
  fun α use => stage α fun product => use (change product)

/-- One stage after the other; the second is told what the first has put together. -/
def andThen (first : Stage β) (second : β → Stage γ) : Stage γ :=
  fun α use => first α fun product => second product α use

end Stage

/-- A stage that makes scratch values and goes on with a product. -/
structure Prepares (stage : Stage β) (before : Attached name) (product : β)
    (after : Attached name) (scratch : List Resource) (numbers : Nat) : Prop where
  ran : ∀ α use, runFrom (stage α use) before.session =
    runFrom (unwinding scratch (use product)) after.session
  leaves : before.engine.Leaves after.engine scratch numbers
  quiet : before.engine.Quiet after.engine
  keeps : before.session.Keeps after.session name

/-- A stage that fails and does not go on. -/
structure Declines (stage : Stage β) (before : Attached name) (failure : Failure)
    (after : Attached name) (numbers : Nat) : Prop where
  ran : ∀ α use, runFrom (stage α use) before.session = (.error failure, after.session)
  leaves : before.engine.Leaves after.engine [] numbers
  quiet : before.engine.Quiet after.engine
  keeps : before.session.Keeps after.session name

section

variable {before middle after : Attached name} {failure : Failure} {scratch more : List Resource}
  {numbers moreNumbers total : Nat} {product : β}

theorem Prepares.of_yields {operation : Bridge β}
    (yields : operation.Yields before (.ok product) after [] numbers) :
    Prepares (.ofOperation operation) before product after [] numbers :=
  ⟨fun _ use => runFrom_bind_of_ok yields.ran use, yields.leaves, yields.quiet, yields.keeps⟩

theorem Declines.of_yields {operation : Bridge β}
    (yields : operation.Yields before (.error failure) after [] numbers) :
    Declines (.ofOperation operation) before failure after numbers :=
  ⟨fun _ use => runFrom_bind_of_error yields.ran use, yields.leaves, yields.quiet, yields.keeps⟩

theorem Prepares.map {stage : Stage β}
    (prepares : Prepares stage before product after scratch numbers) (change : β → γ) :
    Prepares (stage.map change) before (change product) after scratch numbers :=
  ⟨fun α use => prepares.ran α fun product => use (change product), prepares.leaves,
    prepares.quiet, prepares.keeps⟩

theorem Declines.map {stage : Stage β} (declines : Declines stage before failure after numbers)
    (change : β → γ) : Declines (stage.map change) before failure after numbers :=
  ⟨fun α use => declines.ran α fun product => use (change product), declines.leaves,
    declines.quiet, declines.keeps⟩

theorem Prepares.andThen {first : Stage β} {second : β → Stage γ} {result : γ}
    (prepared : Prepares first before product middle scratch numbers)
    (next : Prepares (second product) middle result after more moreNumbers)
    (fits : numbers + moreNumbers ≤ total) :
    Prepares (first.andThen second) before result after (more ++ scratch) total where
  ran α use := by
    rw [Stage.andThen, prepared.ran, unwinding_append]
    exact unwinding_congr scratch (next.ran α use)
  leaves := (prepared.leaves.trans next.leaves).weaken fits
  quiet := prepared.quiet.trans next.quiet
  keeps := prepared.keeps.trans next.keeps

/-- A second stage that fails leaves nothing of the first. -/
theorem Prepares.andThen_declines {first : Stage β} {second : β → Stage γ}
    (prepared : Prepares first before product middle scratch numbers)
    (next : Declines (second product) middle failure after moreNumbers)
    (fits : numbers + moreNumbers ≤ total) :
    ∃ last : Attached name, Declines (first.andThen second) before failure last total := by
  have leaves := prepared.leaves.trans next.leaves
  rcases exists_unwinds leaves with ⟨last, unwinds, left⟩
  refine ⟨last, ?_, left.weaken fits, (prepared.quiet.trans next.quiet).trans unwinds.quiet,
    (prepared.keeps.trans next.keeps).trans unwinds.keeps⟩
  intro α use
  rw [Stage.andThen, prepared.ran]
  exact unwinds.ran (next.ran α use)

theorem Declines.andThen {first : Stage β}
    (declined : Declines first before failure after numbers) (second : β → Stage γ)
    (fits : numbers ≤ total) : Declines (first.andThen second) before failure after total :=
  ⟨fun _ _ => declined.ran _ _, declined.leaves.weaken fits, declined.quiet, declined.keeps⟩

/-! An operation that leaves nothing may stand in front of a stage or behind it. -/

theorem Prepares.after_found {operation : Bridge β} {second : β → Stage γ} {result : γ}
    (found : operation.Yields before (.ok product) middle [] 0)
    (next : Prepares (second product) middle result after scratch numbers) :
    Prepares ((Stage.ofOperation operation).andThen second) before result after scratch
      numbers := by
  have both := (Prepares.of_yields found).andThen next (Nat.le_of_eq (Nat.zero_add numbers))
  rw [List.append_nil] at both
  exact both

theorem Declines.after_found {operation : Bridge β} {second : β → Stage γ}
    (found : operation.Yields before (.ok product) middle [] 0)
    (next : Declines (second product) middle failure after numbers) :
    ∃ last : Attached name,
      Declines ((Stage.ofOperation operation).andThen second) before failure last numbers :=
  (Prepares.of_yields found).andThen_declines next (Nat.le_of_eq (Nat.zero_add numbers))

theorem Prepares.then_found {first : Stage β} {operation : β → Bridge γ} {result : γ}
    (prepared : Prepares first before product middle scratch numbers)
    (found : (operation product).Yields middle (.ok result) after [] 0) :
    Prepares (first.andThen fun product => .ofOperation (operation product)) before result after
      scratch numbers where
  ran α _ := (prepared.ran α _).trans (unwinding_congr scratch (runFrom_bind_of_ok found.ran _))
  leaves := prepared.leaves.trans found.leaves
  quiet := prepared.quiet.trans found.quiet
  keeps := prepared.keeps.trans found.keeps

theorem Prepares.then_refused {first : Stage β} {operation : β → Bridge γ}
    (prepared : Prepares first before product middle scratch numbers)
    (refused : (operation product).Yields middle (.error failure) after [] 0) :
    ∃ last : Attached name, Declines (first.andThen fun product =>
      .ofOperation (operation product)) before failure last numbers := by
  rcases exists_unwinds (prepared.leaves.trans refused.leaves) with ⟨last, unwinds, left⟩
  refine ⟨last, ?_, left, (prepared.quiet.trans refused.quiet).trans unwinds.quiet,
    (prepared.keeps.trans refused.keeps).trans unwinds.keeps⟩
  intro α use
  exact (prepared.ran α _).trans (unwinds.ran (runFrom_bind_of_error refused.ran _))

end

end EngineBridge.Bridge
