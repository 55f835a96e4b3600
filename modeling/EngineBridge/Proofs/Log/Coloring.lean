import EngineBridge.Proofs.Log.Lines
import EngineBridge.Proofs.Log.SharedRecord
import EngineBridge.Proofs.Log.TwoRuns

/-!
What color is for.

Color is for the streams only, and only for the level names there. Main statement: two runs that differ
in color leave the same files, and their streams show the same records, as lines that are the same
without the color codes.
-/

namespace EngineBridge

theorem Log.Sink.isStream_cases {stream : Log.Sink} (isStream : stream.path? = none) :
    stream = .output ∨ stream = .errorOutput := by
  cases stream with
  | output => exact .inl rfl
  | errorOutput => exact .inr rfl
  | textFile path | eventFile path => cases isStream

namespace Host

variable {before after host first second : Host} {stream sink : Log.Sink} {content line : String}
  {lines : List (Log.Sink × String)}

/-- Whether a stream is a terminal. -/
def isTerminal (host : Host) : Log.Sink → Bool
  | .output => host.outputIsTerminal
  | .errorOutput => host.errorOutputIsTerminal
  | .textFile _ | .eventFile _ => false

/-- Whether two hosts differ in nothing but which streams are terminals. -/
def DifferInTerminals (first second : Host) : Prop :=
  { first with
    outputIsTerminal := second.outputIsTerminal
    errorOutputIsTerminal := second.errorOutputIsTerminal } = second

theorem DifferInTerminals.alike (hosts : first.DifferInTerminals second) : first.Alike second := by
  unfold DifferInTerminals at hosts
  rw [← hosts]
  exact ⟨rfl⟩

/-- Whether a stream shows lines behind what it showed before. -/
def Streams (before : Host) (stream : Log.Sink) (lines : List String) (after : Host) : Prop :=
  ∃ content, before.held stream = .ok content ∧
    after.held stream = .ok (content ++ String.join lines)

/-- A line for another sink is not shown by a stream. -/
theorem held_writeLine_of_ne (isStream : stream.path? = none) (differs : sink ≠ stream)
    (host : Host) (line : String) : (host.writeLine sink line).held stream = host.held stream := by
  rcases Log.Sink.isStream_cases isStream with rfl | rfl
  · cases sink with
    | output => exact absurd rfl differs
    | errorOutput => rfl
    | textFile path | eventFile path =>
        simp only [writeLine]
        split <;> rfl
  · cases sink with
    | output => rfl
    | errorOutput => exact absurd rfl differs
    | textFile path | eventFile path =>
        simp only [writeLine]
        split <;> rfl

/-- Of lines to several sinks, a stream shows those to itself. -/
theorem Writes.held (isStream : stream.path? = none) (writes : before.Writes lines after)
    (held : before.held stream = .ok content) :
    after.held stream = .ok (content ++ String.join
      ((lines.filter fun entry => entry.1 = stream).map fun entry => entry.2 ++ "\n")) := by
  induction writes generalizing content with
  | nil => simpa using held
  | @cons before middle after sink line rest first _ induction =>
      by_cases same : sink = stream
      · have ⟨found, foundHeld, here⟩ := first.held
        rw [same, held] at foundHeld
        cases foundHeld
        rw [same] at here
        simpa [same, String.append_assoc] using induction here
      · have here := held_writeLine_of_ne isStream same before line
        rw [← first.written, held] at here
        simpa [same] using induction here

end Host

namespace Log

variable {reading : Reading} {host twin now installed : Host} {settings : Settings} {stream : Sink}

/-- Whether a call asks for color. -/
def Call.usesColor (call : Call) : Bool :=
  match loggingOf call.config >>= fun logSection => logSection.fieldOr "color" (.bool true) with
  | .ok color => color.isTruthy && !call.overrides.disableColor
  | .error _ => false

theorem usesColor_of_readConfiguration {call : Call} {directory : String}
    (read : readConfiguration directory call.config call.overrides = .ok reading) :
    reading.useColor = call.usesColor := by
  have ⟨logSection, inside, read⟩ := exists_of_bind_eq_ok read
  iterate 4 obtain ⟨_, _, read⟩ := exists_of_bind_eq_ok read
  have ⟨color, found, read⟩ := exists_of_bind_eq_ok read
  iterate 3 obtain ⟨_, _, read⟩ := exists_of_bind_eq_ok read
  cases read
  unfold Call.usesColor
  rw [inside]
  change _ = match logSection.fieldOr "color" (.bool true) with
    | .ok color => color.isTruthy && !call.overrides.disableColor
    | .error _ => false
  rw [found]

namespace Record

/-- Whether a record is one that the loggers of the library make: it has the name of its level. -/
structure IsOfLibrary (record : Record) : Prop where
  within : isWithin libraryLogger record.logger = true
  named : record.levelName = Level.name record.level

/-- The line of a record on a stream. -/
def streamLine (isColored : Bool) (record : Record) : String :=
  record.text isColored ++ "\n"

end Record

/-- The records that get to a sink, with the time put on them. -/
def Settings.received (settings : Settings) (host : Host) (sink : Sink) (records : List Record) :
    List Record :=
  (records.filter (settings.Reaches host sink)).map fun record =>
    { record with created := host.recordTime }

theorem Reading.line_of_stream (isStream : stream.path? = none) (reading : Reading) (host : Host)
    (record : Record) :
    reading.line host record stream =
      record.text (reading.useColor && host.isTerminal stream) := by
  rcases Sink.isStream_cases isStream with rfl | rfl <;> rfl

/-- What a stream shows of records once logging has been set up. -/
theorem streams_of_configure {call : Call} (isStream : stream.path? = none)
    (replaced : (host.logging.isConfigured && !call.overrides.reconfigure) = false)
    (ran : runFrom (configure call.config call.overrides) host = (.ok (some settings), installed))
    {records : List Record}
    (within : ∀ record ∈ records, isWithin libraryLogger record.logger = true) :
    host.Streams stream ((settings.received host stream records).map
      (Record.streamLine (call.usesColor && host.isTerminal stream)))
      (records.foldl Host.deliver installed) := by
  have ⟨reading, textPath, eventPath, read, same, inPlace, ready⟩ := inPlace_of_configure replaced ran
  cases same
  have after : installed = (runFrom (configure call.config call.overrides) host).2 := by
    rw [ran]
  have held : installed.held stream = host.held stream := by
    rw [after]
    have shows : Preserves (fun host => host.held stream)
        (configure call.config call.overrides) := by
      apply preserves_configure
      intro host files logging
      rcases Sink.isStream_cases isStream with rfl | rfl <;> rfl
    exact shows host
  have time : installed.recordTime = host.recordTime := by
    rw [after]
    exact preserves_configure (fun _ _ _ => rfl) _ _ host
  have color : reading.useColor = call.usesColor := usesColor_of_readConfiguration read
  have ⟨content, shown⟩ : ∃ content, host.held stream = .ok content := by
    rcases Sink.isStream_cases isStream with rfl | rfl <;> exact ⟨_, rfl⟩
  refine ⟨content, shown, ?_⟩
  rw [shown] at held
  have grows (now after : Host) (content : String) (lines : List (Sink × String))
      (held : now.held stream = .ok content) (written : now.Writes lines after)
      (_ : ∀ entry ∈ lines, ∃ level,
        entry.1 ∈ (reading.settings textPath eventPath).sinks host level) :
      after.held stream = .ok (content ++ String.join
        ((lines.filter fun entry => entry.1 = stream).map fun entry => entry.2 ++ "\n")) :=
    Host.Writes.held isStream written held
  have delivered := inPlace.shows_deliverAll (fun now content => now.held stream = .ok content)
    (· = stream) grows ready within held
  rw [time, Settings.flatMap_reached_eq _ _ _ fun record sink =>
    reading.line host { record with created := host.recordTime } sink ++ "\n"] at delivered
  simp only [reading.line_of_stream isStream, color] at delivered
  rw [Settings.received, List.map_map]
  exact delivered

/-- Two runs that differ in color come to the same outcome and leave the same files, whatever records
are delivered, and handlers that share a record do no more than each of them alone. Each stream shows
the same records in both, in the order in which they came, and without the color codes around the level
columns its lines are the plain ones. -/
theorem colors_stay_on_streams {first second : Call} {host twin : Host}
    (calls : first.DifferInColor second) (hosts : host.DifferInTerminals twin) :
    Host.deliverShared = Host.deliver ∧
      ∃ (given : Except Failure (Option Settings)) (installed installedToo : Host),
        runFrom (configure first.config first.overrides) host = (given, installed) ∧
        runFrom (configure second.config second.overrides) twin = (given, installedToo) ∧
        ∀ records : List Record,
          (records.foldl Host.deliver installed).files =
            (records.foldl Host.deliver installedToo).files ∧
          ∀ (settings : Settings) (stream : Sink), given = .ok (some settings) →
            (host.logging.isConfigured && !first.overrides.reconfigure) = false →
            (∀ record ∈ records, record.IsOfLibrary) → stream.path? = none →
            host.Streams stream ((settings.received host stream records).map
              (Record.streamLine (first.usesColor && host.isTerminal stream)))
              (records.foldl Host.deliver installed) ∧
            twin.Streams stream ((settings.received host stream records).map
              (Record.streamLine (second.usesColor && twin.isTerminal stream)))
              (records.foldl Host.deliver installedToo) ∧
            ∀ isColored : Bool,
              ((settings.received host stream records).map
                (Record.streamLine isColored)).map withoutColor =
                (settings.received host stream records).map (Record.streamLine false) := by
  have alike := hosts.alike
  have ⟨matched, after⟩ := parallel_configure calls host twin alike
  rcases ran : runFrom (configure first.config first.overrides) host with ⟨given, installed⟩
  rcases ranToo : runFrom (configure second.config second.overrides) twin with
    ⟨givenToo, installedToo⟩
  rw [ran, ranToo] at matched after
  cases matched.eq
  refine ⟨Host.deliverShared_eq, given, installed, installedToo, rfl, rfl, ?_⟩
  intro records
  refine ⟨(after.deliverAll records).files, ?_⟩
  rintro settings stream rfl replaced ours isStream
  have within (record : Record) (inside : record ∈ records) := (ours record inside).within
  have replacedToo : (twin.logging.isConfigured && !second.overrides.reconfigure) = false := by
    rw [← alike.isConfigured, ← calls.overrides]
    exact replaced
  have received : settings.received twin stream records = settings.received host stream records :=
    (alike.part_eq fun host => settings.received host stream records).symm
  refine ⟨streams_of_configure isStream replaced ran within, ?_, ?_⟩
  · rw [← received]
    exact streams_of_configure isStream replacedToo ranToo within
  · intro isColored
    rw [List.map_map]
    apply List.map_congr_left
    intro shown inside
    have ⟨record, member, same⟩ := List.mem_map.mp inside
    have uncoded : '\x1b' ∉ shown.levelName.toList := by
      rw [← same]
      change '\x1b' ∉ record.levelName.toList
      rw [(ours record (List.mem_of_mem_filter member)).named]
      exact Level.escape_not_mem_name _
    exact Record.withoutColor_text uncoded isColored "\n"

/-- A host whose streams are terminals. -/
def terminalHost : Host :=
  { emptyHost with outputIsTerminal := true, errorOutputIsTerminal := true }

/-- A call for both log files. -/
def filesCall : Call := ⟨filesConfig, Overrides.none⟩

/-- A call for both log files without color. -/
def plainFilesCall : Call where
  config := .table [("logging", .table [("color", .bool false), ("console_level", .text "warning"),
    ("file_level", .int 5), ("to_file", .bool true), ("jsonl", .bool true),
    ("filename_pattern", .text "a.log")])]
  overrides := { Overrides.none with disableColor := true }

theorem filesCall_differInColor : filesCall.DifferInColor plainFilesCall where
  sections := by
    apply Matches.ok
    intro key differs
    exact congrArg Except.ok ((Entries.get?_cons ..).trans (if_neg differs)).symm
  overrides := rfl

theorem colors_stay_on_streams_of_files :
    ∃ installed installedToo,
      runFrom (configure filesCall.config filesCall.overrides) terminalHost =
        (.ok (some filesSettings), installed) ∧
      runFrom (configure plainFilesCall.config plainFilesCall.overrides) emptyHost =
        (.ok (some filesSettings), installedToo) ∧
      (installed.deliver (binderRecord Level.error)).files =
        (installedToo.deliver (binderRecord Level.error)).files ∧
      (installed.deliver (binderRecord Level.error)).held .errorOutput =
        .ok "1970-01-01 00:00:00 | \x1b[31mERROR   \x1b[0m | gdmarshal.binder:0 | bound\n" ∧
      (installedToo.deliver (binderRecord Level.error)).held .errorOutput =
        .ok "1970-01-01 00:00:00 | ERROR    | gdmarshal.binder:0 | bound\n" := by
  have ⟨_, given, installed, installedToo, ran, ranToo, delivered⟩ :=
    @colors_stay_on_streams filesCall plainFilesCall terminalHost emptyHost
      filesCall_differInColor rfl
  have configured : (runFrom (configure filesCall.config filesCall.overrides) terminalHost).1 =
      .ok (some filesSettings) := by
    with_unfolding_all rfl
  rw [ran] at configured
  cases configured
  have ours : ∀ record ∈ [binderRecord Level.error], record.IsOfLibrary := by
    intro record only
    rw [List.mem_singleton.mp only]
    exact ⟨by decide +kernel, rfl⟩
  have ⟨same, streams⟩ := delivered [binderRecord Level.error]
  have ⟨⟨content, shown, colored⟩, ⟨contentToo, shownToo, plain⟩, _⟩ :=
    streams filesSettings .errorOutput rfl rfl ours rfl
  have received : filesSettings.received terminalHost .errorOutput [binderRecord Level.error] =
      [binderRecord Level.error] := by
    with_unfolding_all rfl
  cases shown
  cases shownToo
  rw [received] at colored plain
  refine ⟨installed, installedToo, ran, ranToo, same, colored.trans ?_, plain.trans ?_⟩
  · apply congrArg Except.ok
    with_unfolding_all rfl
  · apply congrArg Except.ok
    with_unfolding_all rfl

end Log

end EngineBridge
