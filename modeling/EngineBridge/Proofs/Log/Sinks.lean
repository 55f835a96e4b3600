import EngineBridge.Proofs.Log.Configured

/-!
Which sinks a record reaches.

A sink is open if a line can be added to it. Main statement: once logging has been set up, each
record of the library's loggers is written once to each sink whose levels it passes and to no other;
only what its logger does not record at all is held back.
-/

namespace EngineBridge

namespace Host

variable {before middle after host : Host} {sink : Log.Sink} {line : String}

/-- What a sink holds: the text of a stream, or of the file that a path leads to. -/
def held (host : Host) : Log.Sink → Except Failure String
  | .output => .ok host.output
  | .errorOutput => .ok host.errorOutput
  | .textFile path | .eventFile path => host.files.read host.workingDirectory path

/-- Whether lines can be added to a sink. -/
def IsOpen (host : Host) : Log.Sink → Prop
  | .output | .errorOutput => True
  | .textFile path | .eventFile path => host.files.IsOpen host.workingDirectory path

/-- Whether a line is added to a sink, behind what it holds, and nothing else happens. -/
structure Adds (before : Host) (sink : Log.Sink) (line : String) (after : Host) : Prop where
  written : after = before.writeLine sink line
  held : ∃ content, before.held sink = .ok content ∧
    after.held sink = .ok (content ++ (line ++ "\n"))

/-- Whether lines are added to sinks one after the other, and nothing else happens. -/
inductive Writes : Host → List (Log.Sink × String) → Host → Prop
  | nil (host : Host) : Writes host [] host
  | cons {before middle after : Host} {sink : Log.Sink} {line : String}
      {rest : List (Log.Sink × String)} (first : before.Adds sink line middle)
      (others : Writes middle rest after) : Writes before ((sink, line) :: rest) after

theorem adds_writeLine (isOpen : host.IsOpen sink) (line : String) :
    host.Adds sink line (host.writeLine sink line) := by
  -- Both kinds of files take a line in the same way.
  have appended {path : String} (isOpen : host.files.IsOpen host.workingDirectory path) :
      ∃ content, host.files.read host.workingDirectory path = .ok content ∧
        (host.writeLine (.textFile path) line).held (.textFile path) =
          .ok (content ++ (line ++ "\n")) := by
    obtain ⟨content, files, present, added, read⟩ := isOpen.exists_append (line ++ "\n")
    simp only [writeLine, added]
    exact ⟨content, present, read⟩
  refine ⟨rfl, ?_⟩
  cases sink with
  | output => exact ⟨host.output, rfl, by simp [writeLine, Host.held, String.append_assoc]⟩
  | errorOutput =>
      exact ⟨host.errorOutput, rfl, by simp [writeLine, Host.held, String.append_assoc]⟩
  | textFile path => exact appended isOpen
  | eventFile path => exact appended isOpen

theorem workingDirectory_writeLine (host : Host) (sink : Log.Sink) (line : String) :
    (host.writeLine sink line).workingDirectory = host.workingDirectory := by
  unfold writeLine
  split
  · rfl
  · rfl
  · split <;> rfl
  · split <;> rfl

theorem recordTime_writeLine (host : Host) (sink : Log.Sink) (line : String) :
    (host.writeLine sink line).recordTime = host.recordTime := by
  unfold writeLine
  split
  · rfl
  · rfl
  · split <;> rfl
  · split <;> rfl

/-- A line that is added to whatever sink keeps the others open, and its own. -/
theorem IsOpen.writeLine (isOpen : host.IsOpen sink) (other : Log.Sink) (line : String) :
    (host.writeLine other line).IsOpen sink := by
  have stays {path : String} (isOpen : host.files.IsOpen host.workingDirectory path) :
      (host.writeLine other line).files.IsOpen host.workingDirectory path := by
    unfold Host.writeLine
    split
    · exact isOpen
    · exact isOpen
    · split
      · exact isOpen.append ‹_›
      · exact isOpen
    · split
      · exact isOpen.append ‹_›
      · exact isOpen
  cases sink with
  | output => trivial
  | errorOutput => trivial
  | textFile path =>
      unfold IsOpen
      rw [workingDirectory_writeLine]
      exact stays isOpen
  | eventFile path =>
      unfold IsOpen
      rw [workingDirectory_writeLine]
      exact stays isOpen

/-- The lines of a record, for those of some handlers that let it pass. -/
def linesFor (handlers : List Log.Handler) (record : Log.Record) : List (Log.Sink × String) :=
  (handlers.filter fun handler => handler.accepts record.level).map fun handler =>
    (handler.sink, lineFor handler record)

theorem linesFor_append (handlers others : List Log.Handler) (record : Log.Record) :
    linesFor (handlers ++ others) record = linesFor handlers record ++ linesFor others record := by
  simp [linesFor]

theorem linesFor_singleton {handler : Log.Handler} {record : Log.Record} {passes : Prop}
    [Decidable passes] {lineTo : Log.Sink → String}
    (accepts : handler.accepts record.level = true ↔ passes)
    (written : lineFor handler record = lineTo handler.sink) :
    linesFor [handler] record =
      (if passes then [handler.sink] else []).map fun sink => (sink, lineTo sink) := by
  by_cases accepted : handler.accepts record.level
  · simp [linesFor, accepted, accepts.mp accepted, written]
  · have stopped : ¬passes := fun passed => accepted (accepts.mpr passed)
    simp [linesFor, accepted, stopped]

/-- Whether all handlers write to open sinks. -/
def IsReady (host : Host) : Prop :=
  ∀ handler ∈ host.logging.handlers, host.IsOpen handler.sink

/-- Handlers write one after the other. The lines of the first do not close the sinks of the
others. -/
theorem writes_handle (handlers : List Log.Handler) (record : Log.Record)
    (isOpen : ∀ handler ∈ handlers, host.IsOpen handler.sink) :
    host.Writes (linesFor handlers { record with created := host.recordTime })
      (handlers.foldl (fun host handler =>
        host.handle { record with created := host.recordTime } handler) host) := by
  induction handlers generalizing host with
  | nil => exact .nil host
  | cons handler rest induction =>
      have here := isOpen handler List.mem_cons_self
      have there (other : Log.Handler) (inside : other ∈ rest) : host.IsOpen other.sink :=
        isOpen other (List.mem_cons_of_mem _ inside)
      rw [List.foldl_cons]
      by_cases accepted : handler.accepts record.level
      · have handled : host.handle { record with created := host.recordTime } handler =
            host.writeLine handler.sink
              (lineFor handler { record with created := host.recordTime }) := if_pos accepted
        have lines : linesFor (handler :: rest) { record with created := host.recordTime } =
            (handler.sink, lineFor handler { record with created := host.recordTime }) ::
              linesFor rest { record with created := host.recordTime } := by
          simp [linesFor, accepted]
        have following := induction fun other inside =>
          (there other inside).writeLine handler.sink
            (lineFor handler { record with created := host.recordTime })
        rw [recordTime_writeLine] at following
        rw [handled, lines]
        exact .cons (adds_writeLine here _) following
      · have passed : host.handle { record with created := host.recordTime } handler = host :=
          if_neg accepted
        have lines : linesFor (handler :: rest) { record with created := host.recordTime } =
            linesFor rest { record with created := host.recordTime } := by
          simp [linesFor, accepted]
        rw [passed, lines]
        exact induction there

theorem IsOpen.deliver (isOpen : host.IsOpen sink) (record : Log.Record) :
    (host.deliver record).IsOpen sink := by
  have handled (handlers : List Log.Handler) (stamped : Host → Log.Record) {host : Host}
      (isOpen : host.IsOpen sink) :
      (handlers.foldl (fun host handler => host.handle (stamped host) handler) host).IsOpen
        sink := by
    induction handlers generalizing host with
    | nil => exact isOpen
    | cons handler rest induction =>
        apply induction
        change (if _ then _ else _ : Host).IsOpen sink
        split
        · exact isOpen.writeLine _ _
        · exact isOpen
  unfold Host.deliver
  split
  · exact handled _ (fun host => { record with created := host.recordTime }) isOpen
  · exact isOpen

theorem IsReady.deliverAll (ready : host.IsReady) (records : List Log.Record) :
    (records.foldl deliver host).IsReady := by
  induction records generalizing host with
  | nil => exact ready
  | cons record rest induction =>
      apply induction
      intro handler inside
      rw [(logs_deliver host record).routing] at inside
      exact (ready handler inside).deliver record

/-- A record of the library that its logger records goes to all handlers that let it pass. -/
theorem writes_deliver (ready : host.IsReady) (record : Log.Record)
    (within : Log.isWithin Log.libraryLogger record.logger = true) :
    host.Writes
      (if host.logging.isEnabled record.logger record.level then
        linesFor host.logging.handlers { record with created := host.recordTime } else [])
      (host.deliver record) := by
  unfold deliver
  split
  · rw [Log.Routing.handlersOf, if_pos within]
    exact writes_handle _ record ready
  · exact .nil host

end Host

/-- The log files that have paths. -/
def Host.logSinks (host : Host) (textPath eventPath : Option String) : List Log.Sink :=
  (textPath.map fun path => .textFile (host.logFile path)).toList ++
    (eventPath.map fun path => .eventFile (host.logFile path)).toList

namespace Log

namespace Threshold

theorem level_lower (first second : Threshold) :
    (first.lower second).level = min first.level second.level := by
  unfold lower
  split <;> omega

theorem level_higher (first second : Threshold) :
    (first.higher second).level = max first.level second.level := by
  unfold higher
  split <;> omega

end Threshold

variable {reading : Reading} {host : Host} {record : Record}

/-- The sinks that a record at a level is for. Errors go to the error output; files get what is at or
above their own level. -/
def Settings.sinks (settings : Settings) (host : Host) (level : Int) : List Sink :=
  (if settings.consoleLevel.level ≤ level ∧ level < Level.error then [.output] else []) ++
    (if max settings.consoleLevel.level Level.error ≤ level then [.errorOutput] else []) ++
    if settings.fileLevel.level ≤ level then host.logSinks settings.textPath settings.eventPath
    else []

/-- Whether a logger does not record a record, whatever the handlers are. Nothing is recorded at
level zero or below. The logger of decisions has a level of its own while these are recorded. For
all others, a lower level of zero is none: they take the level of the root. -/
def Settings.HoldsBack (settings : Settings) (record : Record) : Prop :=
  record.level ≤ 0 ∨
    if isWithin planLogger record.logger ∧ settings.tracesPlans.isTruthy then
      record.level < Level.trace
    else min settings.consoleLevel.level settings.fileLevel.level = 0 ∧
      record.level < Level.warning

namespace Reading

/-- The line of a record in a sink: a document in the log of JSON lines, and text elsewhere, in
color only on terminals. -/
def line (reading : Reading) (host : Host) (record : Record) : Sink → String
  | .output => record.text (reading.useColor && host.outputIsTerminal)
  | .errorOutput => record.text (reading.useColor && host.errorOutputIsTerminal)
  | .textFile _ => record.text false
  | .eventFile _ => record.json

/-- All handlers, once log files are in place. -/
def handlers (reading : Reading) (host : Host) (textPath eventPath : Option String) :
    List Handler :=
  reading.streams host ++
    (host.logSinks textPath eventPath).map fun sink => ⟨sink, reading.fileLevel, false⟩

/-- The handlers let a record pass to the sinks that it is for. -/
theorem linesFor_handlers (reading : Reading) (host : Host) (textPath eventPath : Option String)
    (record : Record) :
    Host.linesFor (reading.handlers host textPath eventPath) record =
      ((reading.settings textPath eventPath).sinks host record.level).map fun sink =>
        (sink, reading.line host record sink) := by
  have output : Host.linesFor [⟨.output, reading.consoleLevel,
      reading.useColor && host.outputIsTerminal⟩] record =
      (if reading.consoleLevel.level ≤ record.level ∧ record.level < Level.error then [.output]
        else []).map fun sink => (sink, reading.line host record sink) :=
    Host.linesFor_singleton (by simp [Handler.accepts]) rfl
  have errors : Host.linesFor [⟨.errorOutput, reading.consoleLevel.higher (.number Level.error),
      reading.useColor && host.errorOutputIsTerminal⟩] record =
      (if max reading.consoleLevel.level Level.error ≤ record.level then [.errorOutput]
        else []).map fun sink => (sink, reading.line host record sink) := by
    have level : (reading.consoleLevel.higher (.number Level.error)).level =
        max reading.consoleLevel.level Level.error := Threshold.level_higher _ _
    exact Host.linesFor_singleton (by simp [Handler.accepts, level]) rfl
  have files : Host.linesFor ((host.logSinks textPath eventPath).map fun sink =>
      ⟨sink, reading.fileLevel, false⟩) record =
      (if reading.fileLevel.level ≤ record.level then host.logSinks textPath eventPath
        else []).map fun sink => (sink, reading.line host record sink) := by
    by_cases passes : reading.fileLevel.level ≤ record.level
    · cases textPath <;> cases eventPath <;>
        simp [Host.linesFor, Host.lineFor, Host.logSinks, Handler.accepts, passes, line]
    · simp [Host.linesFor, Handler.accepts, passes]
  have together : reading.handlers host textPath eventPath =
      [⟨.output, reading.consoleLevel, reading.useColor && host.outputIsTerminal⟩] ++
        [⟨.errorOutput, reading.consoleLevel.higher (.number Level.error),
          reading.useColor && host.errorOutputIsTerminal⟩] ++
        (host.logSinks textPath eventPath).map fun sink => ⟨sink, reading.fileLevel, false⟩ := rfl
  rw [together, Host.linesFor_append, Host.linesFor_append, output, errors, files,
    ← List.map_append, ← List.map_append]
  rfl

end Reading

/-- Log files that were put in place are open, and they are there as it was asked for. -/
theorem Files.of_ok {textPath eventPath : Option String} {after : Host}
    (files : Files reading host (.ok (textPath, eventPath), after)) :
    (∃ tree, after = host.filing reading.fileLevel tree (host.logSinks textPath eventPath)) ∧
      (∀ sink ∈ host.logSinks textPath eventPath, after.IsOpen sink) ∧
      textPath.isSome = reading.directory.isSome ∧
      eventPath.isSome = (reading.directory.isSome && reading.writesEvents.isTruthy) := by
  cases files with
  | unasked unnamed =>
      exact ⟨⟨host.files, (host.filing_nil _ _).symm⟩, nofun, by simp [unnamed], by simp [unnamed]⟩
  | text named silent path tree isOpen =>
      refine ⟨⟨tree, rfl⟩, ?_, by simp [named], by simp [silent]⟩
      intro sink member
      rw [List.mem_singleton.mp member]
      exact isOpen
  | both named writes path eventPath tree isOpen isOpenToo =>
      refine ⟨⟨tree, rfl⟩, ?_, by simp [named], by simp [named, writes]⟩
      intro sink member
      rcases List.mem_cons.mp member with first | second
      · rw [first]
        exact isOpen
      · rw [List.mem_singleton.mp second]
        exact isOpenToo

/-- Whether the loggers have the levels that settings give them. -/
structure Routing.HasLevels (routing : Routing) (settings : Settings) : Prop where
  plan : routing.planLevel = settings.planLevel
  library : routing.libraryLevel =
    settings.libraryLevel (settings.consoleLevel.lower settings.fileLevel)

section

variable {routing : Routing} {settings : Settings}

theorem Routing.HasLevels.effectiveLevel (levels : routing.HasLevels settings) {logger : String}
    (within : isWithin libraryLogger logger = true) :
    (routing.effectiveLevel logger).level =
      if isWithin planLogger logger ∧ settings.tracesPlans.isTruthy then Level.trace
      else if min settings.consoleLevel.level settings.fileLevel.level = 0 then Level.warning
      else if settings.tracesPlans.isTruthy then
        min Level.trace (min settings.consoleLevel.level settings.fileLevel.level)
      else min settings.consoleLevel.level settings.fileLevel.level := by
  have lowest := Threshold.level_lower settings.consoleLevel settings.fileLevel
  have traced := Threshold.level_lower (.number Level.trace)
    (settings.consoleLevel.lower settings.fileLevel)
  unfold Routing.effectiveLevel
  rw [levels.plan, levels.library, Settings.planLevel, Settings.libraryLevel]
  cases traces : settings.tracesPlans.isTruthy with
  | true =>
      cases plan : isWithin planLogger logger with
      | true => rfl
      | false =>
          simp only [Bool.false_and, Bool.false_eq_true, false_and, within, if_true, if_false,
            Bool.true_and, traced, lowest]
          by_cases none : min settings.consoleLevel.level settings.fileLevel.level = 0
          · rw [none]
            rfl
          · have some : (min (Threshold.number Level.trace).level
                (min settings.consoleLevel.level settings.fileLevel.level) != 0) = true := by
              rw [bne_iff_ne]
              change min 5 _ ≠ 0
              omega
            rw [if_pos some, if_neg none, traced, lowest]
            rfl
  | false =>
      simp only [Bool.false_eq_true, and_false, if_false, within, Bool.true_and, lowest]
      by_cases none : min settings.consoleLevel.level settings.fileLevel.level = 0
      · rw [none]
        simp [Level.notSet]
        rfl
      · simp [Level.notSet, none, lowest]

/-- A record that is held back is not recorded. -/
theorem Routing.HasLevels.not_isEnabled (levels : routing.HasLevels settings)
    (within : isWithin libraryLogger record.logger = true)
    (heldBack : settings.HoldsBack record) :
    routing.isEnabled record.logger record.level = false := by
  have level := levels.effectiveLevel within
  have low : record.level ≤ 0 ∨ record.level < (routing.effectiveLevel record.logger).level := by
    rw [level]
    rcases heldBack with low | low
    · exact .inl low
    · right
      by_cases isPlan : isWithin planLogger record.logger ∧ settings.tracesPlans.isTruthy
      · rw [if_pos isPlan] at low ⊢
        exact low
      · rw [if_neg isPlan] at low ⊢
        rw [if_pos low.1]
        exact low.2
  simp only [isEnabled, Bool.and_eq_false_iff, decide_eq_false_iff_not]
  omega

/-- Only what is below both levels is not recorded without being held back. -/
theorem Routing.HasLevels.isEnabled_or (levels : routing.HasLevels settings)
    (within : isWithin libraryLogger record.logger = true)
    (notHeldBack : ¬settings.HoldsBack record) :
    routing.isEnabled record.logger record.level = true ∨
      record.level < settings.consoleLevel.level ∧ record.level < settings.fileLevel.level := by
  have level := levels.effectiveLevel within
  have ⟨positive, high⟩ := not_or.mp notHeldBack
  have recorded : (routing.effectiveLevel record.logger).level ≤ record.level ∨
      record.level < settings.consoleLevel.level ∧ record.level < settings.fileLevel.level := by
    rw [level]
    by_cases isPlan : isWithin planLogger record.logger ∧ settings.tracesPlans.isTruthy
    · rw [if_pos isPlan] at high ⊢
      omega
    · rw [if_neg isPlan] at high ⊢
      split
      · omega
      · split
        · omega
        · omega
  simp only [isEnabled, Bool.and_eq_true, decide_eq_true_eq]
  omega

/-- Nothing is for a sink that is below both levels. -/
theorem Settings.sinks_of_lt {level : Int}
    (low : level < settings.consoleLevel.level ∧ level < settings.fileLevel.level) (host : Host) :
    settings.sinks host level = [] := by
  unfold sinks
  rw [if_neg (by omega), if_neg (by omega), if_neg (by omega)]
  rfl

/-- No sink is there twice. -/
theorem Settings.nodup_sinks (settings : Settings) (host : Host) (level : Int) :
    (settings.sinks host level).Nodup := by
  have some {sinks : List Sink} (passes : Prop) [Decidable passes] :
      (if passes then sinks else []).Sublist sinks := by
    split
    · exact List.Sublist.refl _
    · exact List.nil_sublist _
  have all : ([Sink.output] ++ [Sink.errorOutput] ++
      host.logSinks settings.textPath settings.eventPath).Nodup := by
    cases settings.textPath <;> cases settings.eventPath <;> simp [Host.logSinks]
  exact List.Nodup.sublist (((some _).append (some _)).append (some _)) all

theorem Settings.output_mem_sinks (settings : Settings) (host : Host) (level : Int) :
    .output ∈ settings.sinks host level ↔
      settings.consoleLevel.level ≤ level ∧ level < Level.error := by
  simp [sinks, Host.logSinks, List.mem_ite_nil_right]

theorem Settings.errorOutput_mem_sinks (settings : Settings) (host : Host) (level : Int) :
    .errorOutput ∈ settings.sinks host level ↔
      max settings.consoleLevel.level Level.error ≤ level := by
  simp [sinks, Host.logSinks, List.mem_ite_nil_right]

end

/-- What is in place once a configuration has succeeded. -/
structure Routing.InPlace (routing : Routing) (reading : Reading) (host : Host)
    (textPath eventPath : Option String) : Prop where
  handlers : routing.handlers = reading.handlers host textPath eventPath
  levels : routing.HasLevels (reading.settings textPath eventPath)
  settings : routing.settings = some (reading.settings textPath eventPath)

/-- A record of the library is written once to each sink that it is for, unless it is held back. -/
theorem Routing.InPlace.writes {textPath eventPath : Option String} {now : Host}
    (inPlace : now.logging.InPlace reading host textPath eventPath) (ready : now.IsReady)
    (within : isWithin libraryLogger record.logger = true) :
    ∃ sinks : List Sink,
      now.Writes (sinks.map fun sink =>
        (sink, reading.line host { record with created := now.recordTime } sink))
        (now.deliver record) ∧
      ((reading.settings textPath eventPath).HoldsBack record → sinks = []) ∧
      (¬(reading.settings textPath eventPath).HoldsBack record →
        sinks = (reading.settings textPath eventPath).sinks host record.level) := by
  have written := Host.writes_deliver ready record within
  rw [inPlace.handlers, reading.linesFor_handlers] at written
  by_cases heldBack : (reading.settings textPath eventPath).HoldsBack record
  · rw [inPlace.levels.not_isEnabled within heldBack] at written
    exact ⟨[], written, fun _ => rfl, fun free => absurd heldBack free⟩
  · refine ⟨(reading.settings textPath eventPath).sinks host record.level, ?_,
      fun held => absurd held heldBack, fun _ => rfl⟩
    rcases inPlace.levels.isEnabled_or within heldBack with enabled | low
    · rw [enabled] at written
      exact written
    · rw [Settings.sinks_of_lt low host]
      change now.Writes (if _ then (List.map _ (Settings.sinks _ host record.level)) else []) _
        at written
      rw [Settings.sinks_of_lt low host, List.map_nil, ite_self] at written
      exact written

theorem inPlace_inForce (reading : Reading) (host : Host) (tree : FileTree)
    (textPath eventPath : Option String) :
    ((reading.settings textPath eventPath).inForce ((reading.streaming host).filing
      reading.fileLevel tree ((reading.streaming host).logSinks textPath eventPath))).logging.InPlace
        reading host textPath eventPath :=
  ⟨rfl, ⟨rfl, rfl⟩, rfl⟩

/-- The streams are open in any case. -/
theorem isReady_inForce {tree : FileTree} {textPath eventPath : Option String}
    (isOpen : ∀ sink ∈ (reading.streaming host).logSinks textPath eventPath,
      ((reading.streaming host).filing reading.fileLevel tree
        ((reading.streaming host).logSinks textPath eventPath)).IsOpen sink) :
    ((reading.settings textPath eventPath).inForce ((reading.streaming host).filing
      reading.fileLevel tree
        ((reading.streaming host).logSinks textPath eventPath))).IsReady := by
  intro handler inside
  rcases List.mem_append.mp inside with stream | file
  · rcases List.mem_cons.mp stream with first | second
    · rw [first]
      trivial
    · rw [List.mem_singleton.mp second]
      trivial
  · have ⟨sink, member, same⟩ := List.mem_map.mp file
    rw [← same]
    have opened := isOpen sink member
    cases sink with
    | output => trivial
    | errorOutput => trivial
    | textFile path => exact opened
    | eventFile path => exact opened

/-- Every record that goes through a logger of the library, once a configuration is in place, is
written to the sinks that it is for, to each of them once, and nowhere else. A record is lost only
if its logger holds it back. -/
theorem records_reach_sinks {config : Document} {overrides : Overrides} {host installed : Host}
    {given : Option Settings}
    (replaced : (host.logging.isConfigured && !overrides.reconfigure) = false)
    (ran : runFrom (configure config overrides) host = (.ok given, installed)) :
    ∃ reading settings, readConfiguration host.directoryPath config overrides = .ok reading ∧
      given = some settings ∧ installed.logging.settings = some settings ∧
      settings = reading.settings settings.textPath settings.eventPath ∧
      settings.textPath.isSome = reading.directory.isSome ∧
      settings.eventPath.isSome = (reading.directory.isSome && reading.writesEvents.isTruthy) ∧
      ∀ (earlier : List Record) (record : Record),
        isWithin libraryLogger record.logger = true →
        ∃ sinks : List Sink,
          (earlier.foldl Host.deliver installed).Writes
            (sinks.map fun sink => (sink, reading.line host { record with
              created := (earlier.foldl Host.deliver installed).recordTime } sink))
            ((earlier.foldl Host.deliver installed).deliver record) ∧
          sinks.Nodup ∧ ¬(.output ∈ sinks ∧ .errorOutput ∈ sinks) ∧
          (settings.HoldsBack record → sinks = []) ∧
          (¬settings.HoldsBack record → sinks = settings.sinks host record.level) := by
  have configured := configures_configure config overrides host
  rw [ran] at configured
  cases configured with
  | kept kept =>
      rw [replaced] at kept
      cases kept
  | done _ reading read textPath eventPath made filed =>
      have ⟨⟨tree, same⟩, isOpen, text, event⟩ := filed.of_ok
      subst same
      refine ⟨reading, _, read, rfl, rfl, rfl, text, event, ?_⟩
      intro earlier record within
      have inPlace := inPlace_inForce reading host tree textPath eventPath
      have ready := (isReady_inForce isOpen).deliverAll earlier
      rw [← (Host.logs_deliverAll earlier _).routing] at inPlace
      have ⟨sinks, written, held, free⟩ := inPlace.writes ready within
      have only : sinks = [] ∨ sinks =
          (reading.settings textPath eventPath).sinks host record.level :=
        (Classical.em _).imp held free
      refine ⟨sinks, written, ?_, ?_, held, free⟩
      · rcases only with none | all
        · rw [none]
          exact List.nodup_nil
        · rw [all]
          exact Settings.nodup_sinks _ _ _
      · rintro ⟨output, errors⟩
        rcases only with none | all
        · rw [none] at output
          cases output
        · rw [all, Settings.output_mem_sinks] at output
          rw [all, Settings.errorOutput_mem_sinks] at errors
          omega

/-- A host without files, in which nothing is set up. -/
def emptyHost : Host where
  files := [(["w".toList], .directory)]
  workingDirectory := ["w".toList]
  homes := []
  settingsVariable := none
  defaultSettings := none
  checkoutSettings := none
  output := ""
  errorOutput := ""
  outputIsTerminal := false
  errorOutputIsTerminal := false
  memory := 1000
  now := ⟨2026, 1, 1, 0, 0, 0⟩
  recordTime := 0
  logging := .initial

/-- A configuration with both log files. -/
def filesConfig : Document :=
  .table [("logging", .table [("console_level", .text "warning"), ("file_level", .int 5),
    ("to_file", .bool true), ("jsonl", .bool true), ("filename_pattern", .text "a.log")])]

/-- The settings that come of that configuration. -/
def filesSettings : Settings where
  directory := some "/w/logs"
  textPath := some "/w/logs/a.log"
  eventPath := some "/w/logs/a.jsonl"
  consoleLevel := .number Level.warning
  fileLevel := .number Level.trace
  writesEvents := .bool true
  tracesPlans := .bool false

/-- A record of the binder. -/
def binderRecord (level : Int) : Record :=
  Record.plain level "gdmarshal.binder" "binder" "bound"

theorem records_reach_sinks_of_files :
    ∃ installed, runFrom (configure filesConfig Overrides.none) emptyHost =
        (.ok (some filesSettings), installed) ∧
      ∃ lines : List (Sink × String), lines.map Prod.fst =
          [.errorOutput, .textFile "/w/logs/a.log", .eventFile "/w/logs/a.jsonl"] ∧
        installed.Writes lines
          (installed.deliver (binderRecord Level.error)) := by
  have configured : (runFrom (configure filesConfig Overrides.none) emptyHost).1 =
      .ok (some filesSettings) := by
    with_unfolding_all rfl
  have ⟨installed, ran⟩ : ∃ installed, runFrom (configure filesConfig Overrides.none) emptyHost =
      (.ok (some filesSettings), installed) := ⟨_, Prod.ext configured rfl⟩
  have ⟨reading, settings, _, given, _, _, _, _, delivered⟩ := records_reach_sinks rfl ran
  have ⟨sinks, written, _, _, _, free⟩ := delivered [] (binderRecord Level.error) (by decide +kernel)
  rw [← Option.some.inj given] at free
  have notHeldBack : ¬filesSettings.HoldsBack (binderRecord Level.error) := by
    unfold Settings.HoldsBack
    decide +kernel
  have all : filesSettings.sinks emptyHost Level.error =
      [.errorOutput, .textFile "/w/logs/a.log", .eventFile "/w/logs/a.jsonl"] := by
    decide +kernel
  refine ⟨installed, ran, _, ?_, written⟩
  rw [List.map_map, free notHeldBack]
  exact (List.map_id _).trans all

/-- A console level of zero is below the level of a record that is lost all the same: the library's
logger has no level then, and takes that of the root. -/
theorem record_lost_at_level_zero :
    ∃ settings installed,
      runFrom (configure (.table [("logging", .table [("console_level", .text "NOTSET")])])
        Overrides.none) emptyHost = (.ok (some settings), installed) ∧
      settings.consoleLevel.level ≤ Level.info ∧ Level.info < Level.error ∧
      .output ∈ settings.sinks emptyHost Level.info ∧
      installed.deliver (binderRecord Level.info) = installed ∧ installed.output = "" :=
  ⟨_, _, by with_unfolding_all rfl, by decide, by decide, by decide, by with_unfolding_all rfl, rfl⟩

end Log

end EngineBridge
