import EngineBridge.Proofs.Log.Failing

/-!
Two runs that differ in color.

Two hosts are alike if they differ in nothing but what the streams show and how they show it. Main
statement: setting up logging in hosts that are alike, by calls that differ in nothing but color, comes
to the same and leaves hosts that are alike, and so does the delivery of records to them.
-/

namespace EngineBridge

/-- A handler as it is without color. Only the handlers of streams have to do with it. -/
def Log.Handler.uncolored (handler : Log.Handler) : Log.Handler :=
  match handler.sink with
  | .output | .errorOutput => { handler with isColored := false }
  | .textFile _ | .eventFile _ => handler

/-- The state of logging as it is without color. -/
def Log.Routing.uncolored (routing : Log.Routing) : Log.Routing :=
  { routing with handlers := routing.handlers.map Log.Handler.uncolored }

namespace Host

/-- A host without what its streams show, and without color. -/
def uncolored (host : Host) : Host :=
  { host with
    output := ""
    errorOutput := ""
    outputIsTerminal := false
    errorOutputIsTerminal := false
    logging := host.logging.uncolored }

/-- Whether two hosts differ in nothing but their streams and color. -/
structure Alike (first second : Host) : Prop where
  same : first.uncolored = second.uncolored

namespace Alike

variable {first second : Host}

/-- What does not depend on the streams and on color is the same. -/
theorem part_eq {α : Type} (alike : first.Alike second) (part : Host → α) :
    part first.uncolored = part second.uncolored :=
  congrArg part alike.same

theorem files (alike : first.Alike second) : first.files = second.files :=
  alike.part_eq Host.files

theorem workingDirectory (alike : first.Alike second) :
    first.workingDirectory = second.workingDirectory :=
  alike.part_eq Host.workingDirectory

theorem memory (alike : first.Alike second) : first.memory = second.memory :=
  alike.part_eq Host.memory

theorem now (alike : first.Alike second) : first.now = second.now :=
  alike.part_eq Host.now

theorem recordTime (alike : first.Alike second) : first.recordTime = second.recordTime :=
  alike.part_eq Host.recordTime

theorem handlers (alike : first.Alike second) :
    first.logging.handlers.map Log.Handler.uncolored =
      second.logging.handlers.map Log.Handler.uncolored :=
  alike.part_eq fun host => host.logging.handlers

theorem logging (alike : first.Alike second) :
    first.logging.uncolored = second.logging.uncolored :=
  alike.part_eq Host.logging

theorem settings (alike : first.Alike second) :
    first.logging.settings = second.logging.settings :=
  alike.part_eq fun host => host.logging.settings

theorem isConfigured (alike : first.Alike second) :
    first.logging.isConfigured = second.logging.isConfigured := by
  have same := congrArg List.isEmpty alike.handlers
  rw [List.isEmpty_map, List.isEmpty_map] at same
  unfold Log.Routing.isConfigured
  rw [same]

theorem isEnabled (alike : first.Alike second) :
    first.logging.isEnabled = second.logging.isEnabled :=
  alike.part_eq fun host => host.logging.isEnabled

/-- A change of the files goes together in both. -/
theorem withFiles (alike : first.Alike second) (files : FileTree) :
    Alike { first with files } { second with files } :=
  ⟨alike.part_eq fun host => { host with files }⟩

/-- A change of the state of logging goes together in both, if color is all that is different. -/
theorem withLogging (alike : first.Alike second) {logging loggingToo : Log.Routing}
    (same : logging.uncolored = loggingToo.uncolored) :
    Alike { first with logging } { second with logging := loggingToo } := by
  constructor
  unfold uncolored
  dsimp only
  rw [same]
  exact alike.part_eq fun host => { host with logging := loggingToo.uncolored }

/-! ## The delivery of records -/

/-- What a file gets, it gets in both. -/
theorem writeLine (alike : first.Alike second) (sink : Log.Sink) (line : String) :
    (first.writeLine sink line).Alike (second.writeLine sink line) := by
  cases sink with
  | output => exact ⟨alike.same⟩
  | errorOutput => exact ⟨alike.same⟩
  | textFile path | eventFile path =>
      have written : first.files.append first.workingDirectory path (line ++ "\n") =
          second.files.append second.workingDirectory path (line ++ "\n") := by
        rw [alike.files, alike.workingDirectory]
      simp only [Host.writeLine, written]
      split
      · exact alike.withFiles _
      · exact alike

/-- Handlers that differ in color let the same records pass, and write the same lines to files. -/
theorem handle (alike : first.Alike second) {handler other : Log.Handler}
    (same : handler.uncolored = other.uncolored) (record : Log.Record) :
    (first.handle record handler).Alike (second.handle record other) := by
  have kind (handler : Log.Handler) : handler.uncolored.sink = handler.sink ∧
      handler.uncolored.threshold = handler.threshold := by
    unfold Log.Handler.uncolored
    split <;> exact ⟨rfl, rfl⟩
  have sinks : handler.sink = other.sink := by
    rw [← (kind handler).1, same, (kind other).1]
  have accepts : handler.accepts record.level = other.accepts record.level := by
    unfold Log.Handler.accepts
    rw [sinks, ← (kind handler).2, same, (kind other).2]
  unfold Host.handle
  rw [accepts, ← sinks]
  split
  · cases isFor : handler.sink with
    | output => exact ⟨alike.same⟩
    | errorOutput => exact ⟨alike.same⟩
    | textFile path | eventFile path =>
        have equal : handler = other := by
          rw [Log.Handler.uncolored, Log.Handler.uncolored, ← sinks, isFor] at same
          exact same
        rw [equal]
        exact alike.writeLine _ _
  · exact alike

theorem handleAll (alike : first.Alike second) {handlers others : List Log.Handler}
    (same : handlers.map Log.Handler.uncolored = others.map Log.Handler.uncolored)
    (record : Log.Record) :
    (handlers.foldl (fun host handler =>
      host.handle { record with created := host.recordTime } handler) first).Alike
      (others.foldl (fun host handler =>
        host.handle { record with created := host.recordTime } handler) second) := by
  induction handlers generalizing others first second with
  | nil =>
      rw [List.map_eq_nil_iff.mp same.symm]
      exact alike
  | cons handler rest induction =>
      obtain ⟨other, restToo, rfl, here, there⟩ := List.map_eq_cons_iff.mp same.symm
      rw [List.foldl_cons, List.foldl_cons, alike.recordTime]
      exact induction (alike.handle here.symm _) there.symm

theorem deliver (alike : first.Alike second) (record : Log.Record) :
    (first.deliver record).Alike (second.deliver record) := by
  unfold Host.deliver
  rw [alike.isEnabled]
  split
  · apply alike.handleAll
    unfold Log.Routing.handlersOf
    split
    · exact alike.handlers
    · rfl
  · exact alike

theorem deliverAll (alike : first.Alike second) (records : List Log.Record) :
    (records.foldl Host.deliver first).Alike (records.foldl Host.deliver second) := by
  induction records generalizing first second with
  | nil => exact alike
  | cons record rest induction => exact induction (alike.deliver record)

end Alike

end Host

/-! ## Runs side by side -/

/-- Whether two outcomes are the same failure, or values that are related. -/
inductive Matches {α β : Type} (relation : α → β → Prop) :
    Except Failure α → Except Failure β → Prop
  | failed (failure : Failure) : Matches relation (.error failure) (.error failure)
  | ok {value : α} {other : β} (related : relation value other) :
      Matches relation (.ok value) (.ok other)

namespace Matches

variable {α β γ δ : Type} {relation : α → β → Prop} {results : γ → δ → Prop}

theorem refl (outcome : Except Failure α) : Matches Eq outcome outcome := by
  cases outcome with
  | error failure => exact .failed failure
  | ok value => exact .ok rfl

theorem eq {first second : Except Failure α} (matched : Matches Eq first second) :
    first = second := by
  cases matched with
  | failed => rfl
  | ok same => rw [same]

theorem bind {first : Except Failure α} {second : Except Failure β}
    (matched : Matches relation first second) {next : α → Except Failure γ}
    {other : β → Except Failure δ}
    (continued : ∀ value counterpart, relation value counterpart →
      Matches results (next value) (other counterpart)) :
    Matches results (first >>= next) (second >>= other) := by
  cases matched with
  | failed failure => exact .failed failure
  | ok related => exact continued _ _ related

/-- What is read in the same way on both sides. -/
theorem bind_same {first second : Except Failure α} (same : first = second)
    {next : α → Except Failure γ} {other : α → Except Failure δ}
    (continued : ∀ value, Matches results (next value) (other value)) :
    Matches results (first >>= next) (second >>= other) := by
  subst same
  apply (refl first).bind
  rintro value _ rfl
  exact continued value

end Matches

/-- Whether two runs in hosts that are alike come to outcomes that match, and leave hosts that are
alike. -/
def Run.Parallel {α β : Type} (relation : α → β → Prop) (first : Run α) (second : Run β) : Prop :=
  ∀ host twin : Host, host.Alike twin →
    Matches relation (runFrom first host).1 (runFrom second twin).1 ∧
      (runFrom first host).2.Alike (runFrom second twin).2

namespace Run.Parallel

variable {α β γ δ : Type} {relation : α → β → Prop} {results : γ → δ → Prop}

theorem pure {value : α} {other : β} (related : relation value other) :
    Run.Parallel relation (pure value) (pure other) :=
  fun _ _ alike => ⟨.ok related, alike⟩

theorem lift {outcome : Except Failure α} {other : Except Failure β}
    (matched : Matches relation outcome other) :
    Run.Parallel relation (liftM outcome) (liftM other) :=
  fun _ _ alike => ⟨matched, alike⟩

theorem modify {change changeToo : Host → Host}
    (changed : ∀ host twin : Host, host.Alike twin → (change host).Alike (changeToo twin)) :
    Run.Parallel Eq (modify change) (modify changeToo) :=
  fun _ _ alike => ⟨.ok rfl, changed _ _ alike⟩

theorem bind {first : Run α} {second : Run β} (parallel : Run.Parallel relation first second)
    {next : α → Run γ} {other : β → Run δ}
    (continued : ∀ value counterpart, relation value counterpart →
      Run.Parallel results (next value) (other counterpart)) :
    Run.Parallel results (first >>= next) (second >>= other) := by
  intro host twin alike
  have ⟨matched, middle⟩ := parallel host twin alike
  rw [runFrom_bind, runFrom_bind]
  generalize runFrom first host = ran at matched middle
  generalize runFrom second twin = ranToo at matched middle
  obtain ⟨outcome, after⟩ := ran
  obtain ⟨outcomeToo, afterToo⟩ := ranToo
  cases matched with
  | failed failure => exact ⟨.failed failure, middle⟩
  | ok related => exact continued _ _ related _ _ middle

/-- What is looked up in the hosts differs in the streams and color at most. -/
theorem get {next : Host → Run γ} {other : Host → Run δ}
    (continued : ∀ host twin : Host, host.Alike twin →
      Run.Parallel results (next host) (other twin)) :
    Run.Parallel results (get >>= next) (get >>= other) :=
  fun host twin alike => continued host twin alike host twin alike

theorem changeFiles {change changeToo : Host → Except Failure FileTree}
    (same : ∀ host twin : Host, host.Alike twin → change host = changeToo twin) :
    Run.Parallel Eq (Run.changeFiles change) (Run.changeFiles changeToo) := by
  apply get
  intro host twin alike
  rw [same host twin alike]
  apply (lift (Matches.refl _)).bind
  rintro files _ rfl
  exact modify fun _ _ alike => alike.withFiles files

theorem changeRouting {change : Log.Routing → Log.Routing}
    (commutes : ∀ routing : Log.Routing, (change routing).uncolored = change routing.uncolored) :
    Run.Parallel Eq (Log.changeRouting change) (Log.changeRouting change) := by
  apply modify
  intro host twin alike
  apply alike.withLogging
  rw [commutes, commutes, alike.logging]

theorem addHandler {handler other : Log.Handler} (same : handler.uncolored = other.uncolored) :
    Run.Parallel Eq (Log.addHandler handler) (Log.addHandler other) := by
  have added (routing : Log.Routing) (handler : Log.Handler) :
      { routing with handlers := routing.handlers ++ [handler] }.uncolored =
        { routing.uncolored with
          handlers := routing.uncolored.handlers ++ [handler.uncolored] } := by
    simp [Log.Routing.uncolored]
  apply modify
  intro host twin alike
  apply alike.withLogging
  rw [added, added, alike.logging, same]

end Run.Parallel

namespace Log

/-- Whether two documents have the same fields but for one. -/
def AgreeBut (key : String) (first second : Document) : Prop :=
  ∀ other, other ≠ key → first.field? other = second.field? other

theorem AgreeBut.fieldOr {key other : String} {first second : Document}
    (agree : AgreeBut key first second) (differs : other ≠ key) (default : Document) :
    first.fieldOr other default = second.fieldOr other default := by
  unfold Document.fieldOr
  rw [agree other differs]

/-- Either of them can be asked for the field in which they differ, or neither can. -/
theorem AgreeBut.matches_fieldOr {key : String} {first second : Document}
    (agree : AgreeBut key first second) (default : Document) :
    Matches (fun _ _ => True) (first.fieldOr key default) (second.fieldOr key default) := by
  -- Only tables have fields, so that any other field tells the tables from the rest.
  have other := agree (key ++ "_") (by
    intro same
    have length := congrArg String.length same
    simp at length)
  cases first with
  | table entries =>
      cases second with
      | table others => exact .ok trivial
      | _ => cases other
  | _ =>
      cases second with
      | table others => cases other
      | _ => exact .failed _

/-- Whether two calls differ in nothing but the color that they ask for. -/
structure Call.DifferInColor (first second : Call) : Prop where
  sections : Matches (AgreeBut "color") (loggingOf first.config) (loggingOf second.config)
  overrides :
    { first.overrides with disableColor := second.overrides.disableColor } = second.overrides

/-- Whether two configurations were read alike, but for color. -/
structure Reading.Alike (first second : Reading) : Prop where
  sections : AgreeBut "color" first.section_ second.section_
  consoleLevel : first.consoleLevel = second.consoleLevel
  fileLevel : first.fileLevel = second.fileLevel
  writesEvents : first.writesEvents = second.writesEvents
  tracesPlans : first.tracesPlans = second.tracesPlans
  directory : first.directory = second.directory

theorem readDirectory_alike {logSection other : Document} (agree : AgreeBut "color" logSection other)
    (directory : String) {overrides overridesToo : Overrides}
    (same : { overrides with disableColor := overridesToo.disableColor } = overridesToo) :
    readDirectory directory logSection overrides = readDirectory directory other overridesToo := by
  rw [← same]
  unfold readDirectory
  rw [agree.fieldOr (by decide), agree.fieldOr (by decide), agree.fieldOr (by decide)]

theorem readConfiguration_alike {first second : Call} (calls : first.DifferInColor second)
    (directory : String) :
    Matches Reading.Alike (readConfiguration directory first.config first.overrides)
      (readConfiguration directory second.config second.overrides) := by
  have ⟨sections, same⟩ := calls
  apply sections.bind
  intro logSection other agree
  have directories := readDirectory_alike agree directory same
  have settings (key : String) (differs : key ≠ "color") (default : Document) :=
    agree.fieldOr differs default
  have levels : first.overrides.consoleLevel = second.overrides.consoleLevel ∧
      first.overrides.fileLevel = second.overrides.fileLevel ∧
      first.overrides.writeEvents = second.overrides.writeEvents := by
    rw [← same]
    exact ⟨rfl, rfl, rfl⟩
  rw [levels.1, levels.2.1, levels.2.2]
  apply Matches.bind_same (settings "console_level" (by decide) _)
  intro console
  apply Matches.bind_same rfl
  intro consoleLevel
  apply Matches.bind_same (settings "file_level" (by decide) _)
  intro file
  apply Matches.bind_same rfl
  intro fileLevel
  -- Whatever is read as the color goes nowhere but into the use of color.
  apply (agree.matches_fieldOr _).bind
  intro color colorToo _
  apply Matches.bind_same (settings "jsonl" (by decide) _)
  intro events
  apply Matches.bind_same (settings "plan_trace" (by decide) _)
  intro plans
  apply Matches.bind_same directories
  intro place
  exact .ok ⟨agree, rfl, rfl, rfl, rfl, rfl⟩

variable {first second : Reading}

theorem parallel_installFile (path : String) (sink : String → Sink) (threshold : Threshold) :
    Run.Parallel Eq (installFile path sink threshold) (installFile path sink threshold) := by
  apply Run.Parallel.get
  intro host twin alike
  unfold Host.directoryPath
  rw [alike.workingDirectory]
  apply (Run.Parallel.changeFiles ?_).bind
  · rintro _ _ rfl
    exact .addHandler rfl
  · intro host twin alike
    rw [alike.files, alike.workingDirectory]

namespace Reading.Alike

theorem parallel_installStreams (alike : first.Alike second) :
    Run.Parallel Eq (installStreams first) (installStreams second) := by
  unfold installStreams
  rw [alike.consoleLevel, alike.fileLevel]
  apply Run.Parallel.get
  intro host twin _
  apply (Run.Parallel.changeRouting ?_).bind
  · rintro _ _ rfl
    apply (Run.Parallel.addHandler ?_).bind
    · rintro _ _ rfl
      exact .addHandler rfl
    · rfl
  · exact fun _ => rfl

theorem fileName_eq (alike : first.Alike second) {host twin : Host} (hosts : host.Alike twin) :
    fileName first host = fileName second twin := by
  unfold fileName
  rw [alike.sections.fieldOr (by decide), alike.sections.fieldOr (by decide), hosts.now,
    hosts.memory]

theorem parallel_installFiles (alike : first.Alike second) :
    Run.Parallel Eq (installFiles first) (installFiles second) := by
  unfold installFiles
  rw [alike.directory, alike.fileLevel, alike.writesEvents]
  cases second.directory with
  | none => exact .pure rfl
  | some directory =>
      apply (Run.Parallel.changeFiles ?_).bind
      · rintro _ _ rfl
        apply Run.Parallel.get
        intro host twin hosts
        rw [alike.fileName_eq hosts]
        apply (Run.Parallel.lift (.refl _)).bind
        rintro name _ rfl
        apply (parallel_installFile _ _ _).bind
        rintro _ _ rfl
        split
        · apply (parallel_installFile _ _ _).bind
          rintro _ _ rfl
          exact .pure rfl
        · exact .pure rfl
      · intro host twin hosts
        rw [hosts.files, hosts.workingDirectory]

theorem parallel_installTrace (alike : first.Alike second) :
    Run.Parallel Eq (installTrace first) (installTrace second) := by
  unfold installTrace
  rw [alike.tracesPlans]
  apply Run.Parallel.changeRouting
  intro routing
  split <;> rfl

end Reading.Alike

/-- Calls that differ in color set up logging alike. -/
theorem parallel_configure {first second : Call} (calls : first.DifferInColor second) :
    Run.Parallel Eq (configure first.config first.overrides)
      (configure second.config second.overrides) := by
  have replaces : first.overrides.reconfigure = second.overrides.reconfigure := by
    rw [← calls.overrides]
  unfold configure
  rw [replaces]
  apply Run.Parallel.get
  intro host twin hosts
  rw [hosts.isConfigured, hosts.settings]
  split
  · exact .pure rfl
  · unfold Host.directoryPath
    rw [hosts.workingDirectory]
    apply (Run.Parallel.lift (readConfiguration_alike calls _)).bind
    intro reading other alike
    apply alike.parallel_installStreams.bind
    rintro _ _ rfl
    apply alike.parallel_installFiles.bind
    rintro ⟨textPath, eventPath⟩ _ rfl
    apply alike.parallel_installTrace.bind
    rintro _ _ rfl
    rw [alike.consoleLevel, alike.fileLevel, alike.writesEvents, alike.tracesPlans, alike.directory]
    apply (Run.Parallel.changeRouting ?_).bind
    · rintro _ _ rfl
      exact .pure rfl
    · exact fun _ => rfl

end Log

end EngineBridge
