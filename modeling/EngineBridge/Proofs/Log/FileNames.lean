import EngineBridge.Proofs.Files.Paths
import EngineBridge.Proofs.Log.Lines

/-!
The names of the two log files.

The log of JSON lines has the name of the text log with another ending. Main statement: the two are
one file just when the name of the text log has that ending already. One file then holds two lines of
each record, and only one of them is a line of JSON; else the log of JSON lines holds nothing else.
-/

namespace EngineBridge

theorem Host.isAbsolute_directoryPath (host : Host) :
    Path.isAbsolute host.directoryPath = true := by
  simp [directoryPath, Place.path, Path.isAbsolute]

/-- A log file is where the path of it leads, from the root of all directories. -/
theorem Host.place_of_logFile {host now : Host} {path : String} {place : Place}
    (found : now.files.find now.workingDirectory (host.logFile path) = .ok place) :
    place = Path.target (Path.join host.directoryPath path) :=
  FileTree.eq_of_find
    (Path.leadsTo_normal (Path.isAbsolute_join host.isAbsolute_directoryPath path)) found

namespace Log

variable {reading : Reading} {config : Document} {overrides : Overrides} {host installed : Host}
  {settings : Settings} {directory name textPath eventPath : String}

/-- The paths of the log files differ in their last parts at most. That of the log of JSON lines is
always a name, and the same as the other if that one has its ending. -/
theorem exists_filePaths (directory name : String) :
    ∃ front last other : String,
      filePaths directory name = (front ++ last, front ++ other) ∧ Path.IsFront front ∧
        '/' ∉ last.toList ∧ '/' ∉ other.toList ∧ Path.IsName other.toList ∧
        (last = other ↔ Path.HasEnding name "jsonl") := by
  obtain ⟨front, last, split, isFront, slashless⟩ := Path.exists_front name
  obtain ⟨outer, isOuter, joined⟩ := Path.exists_join_append isFront directory
  obtain ⟨stem, cut, slashlessStem⟩ : ∃ stem : String,
      Path.withoutEnding name = front ++ stem ∧ '/' ∉ stem.toList := by
    rw [split]
    rcases Path.withoutEnding_cases isFront slashless with whole | ⟨stem, cut, slashlessStem, _⟩
    · exact ⟨last, whole, slashless⟩
    · exact ⟨stem, cut, slashlessStem⟩
  have slashlessOther : '/' ∉ (stem ++ ".jsonl").toList := by
    simp [slashlessStem]
  have lengths : 6 ≤ (stem ++ ".jsonl").toList.length := by
    simp
  refine ⟨outer, last, stem ++ ".jsonl", ?_, isOuter, slashless, slashlessOther, ?_, ?_⟩
  · rw [filePaths, cut, String.append_assoc, joined _ slashlessOther, split, joined _ slashless]
  · constructor
    · rw [Path.isIdle, Bool.or_eq_false_iff, beq_eq_false_iff_ne]
      constructor
      · cases characters : (stem ++ ".jsonl").toList with
        | nil => simp [characters] at lengths
        | cons => rfl
      · intro same
        rw [same] at lengths
        simp [Path.current] at lengths
    · intro same
      rw [same] at lengths
      simp [Path.parent] at lengths
  · have ends : Path.withoutEnding name ++ ("." ++ "jsonl") = name ↔
        Path.HasEnding name "jsonl" :=
      Path.withoutEnding_append_eq_iff (by decide) (by decide)
    rw [← ends, cut, split, String.append_assoc, String.append_right_inj, eq_comm]
    rfl

theorem filePaths_eq_iff (directory name : String) :
    (filePaths directory name).1 = (filePaths directory name).2 ↔ Path.HasEnding name "jsonl" := by
  obtain ⟨front, last, other, paths, _, _, _, _, same⟩ := exists_filePaths directory name
  rw [paths, String.append_right_inj]
  exact same

/-- From a directory, paths that are not the same lead to different places. -/
theorem target_filePaths_eq_iff {working : String} (absolute : Path.isAbsolute working = true)
    (directory name : String) :
    Path.target (Path.join working (filePaths directory name).1) =
        Path.target (Path.join working (filePaths directory name).2) ↔
      Path.HasEnding name "jsonl" := by
  obtain ⟨front, last, other, paths, isFront, slashless, slashlessOther, isName, same⟩ :=
    exists_filePaths directory name
  obtain ⟨outer, isOuter, joined⟩ := Path.exists_join_append isFront working
  have isAbsolute : Path.isAbsolute outer = true := by
    have whole := Path.isAbsolute_join absolute (front ++ last)
    rwa [joined last slashless, Path.isAbsolute_append slashless] at whole
  rw [paths, joined last slashless, joined other slashlessOther,
    Path.target_eq_iff isOuter isAbsolute slashless slashlessOther isName]
  exact same

/-- Where both log files are asked for, their paths come of one name in one directory. -/
theorem paths_of_installFiles {paths : Option String × Option String} {after : Host}
    (named : reading.directory.isSome = true) (writes : reading.writesEvents.isTruthy = true)
    (ran : runFrom (installFiles reading) host = (.ok paths, after)) :
    ∃ directory name, fileName reading host = .ok name ∧
      paths = (some (filePaths directory name).1, some (filePaths directory name).2) := by
  unfold installFiles at ran
  split at ran
  · rename_i unnamed
    rw [unnamed] at named
    cases named
  · rename_i directory _
    have ⟨_, made, changed, ran⟩ := exists_of_runFrom_bind ran
    have ⟨files, _, same⟩ := Run.of_runFrom_changeFiles changed
    rw [runFrom_bind_of_ok (runFrom_get made)] at ran
    have ⟨name, _, built, ran⟩ := exists_of_runFrom_bind ran
    have ⟨isName, _⟩ := of_runFrom_lift built
    rw [same] at isName
    have ⟨_, _, _, ran⟩ := exists_of_runFrom_bind ran
    rw [if_pos writes] at ran
    have ⟨_, _, _, ran⟩ := exists_of_runFrom_bind ran
    cases ran
    exact ⟨directory, name, isName, rfl⟩

theorem paths_of_configure
    (replaced : (host.logging.isConfigured && !overrides.reconfigure) = false)
    (ran : runFrom (configure config overrides) host = (.ok (some settings), installed))
    (named : settings.directory.isSome = true) (writes : settings.writesEvents.isTruthy = true) :
    ∃ reading directory name, readConfiguration host.directoryPath config overrides = .ok reading ∧
      fileName reading host = .ok name ∧
      settings.textPath = some (filePaths directory name).1 ∧
      settings.eventPath = some (filePaths directory name).2 := by
  unfold configure at ran
  rw [runFrom_bind_of_ok (runFrom_get host), if_neg (by simp [replaced])] at ran
  have ⟨reading, ready, read, ran⟩ := exists_of_runFrom_bind ran
  have ⟨isRead, same⟩ := of_runFrom_lift read
  rw [same, runFrom_bind_of_ok (runFrom_installStreams reading host)] at ran
  have ⟨paths, _, filed, ran⟩ := exists_of_runFrom_bind ran
  have ⟨_, _, _, ran⟩ := exists_of_runFrom_bind ran
  have ⟨_, _, _, ran⟩ := exists_of_runFrom_bind ran
  cases ran
  have ⟨directory, name, built, same⟩ := paths_of_installFiles named writes filed
  exact ⟨reading, directory, name, isRead, built, congrArg Prod.fst same, congrArg Prod.snd same⟩

/-- The log files that were put in place are there. -/
theorem Routing.InPlace.exists_places
    (inPlace : installed.logging.InPlace reading host (some textPath) (some eventPath))
    (ready : installed.IsReady) :
    ∃ (textPlace eventPlace : Place) (content : String),
      installed.files.find installed.workingDirectory (host.logFile textPath) = .ok textPlace ∧
      installed.Holds (host.logFile eventPath) eventPlace content := by
  have handled (sink : Sink) (isLog : sink ∈ host.logSinks (some textPath) (some eventPath)) :
      ⟨sink, reading.fileLevel, false⟩ ∈ installed.logging.handlers := by
    rw [inPlace.handlers]
    exact List.mem_append_right _ (List.mem_map.mpr ⟨sink, isLog, rfl⟩)
  obtain ⟨textPlace, _, foundText, _⟩ :=
    ready _ (handled (.textFile (host.logFile textPath)) (by simp [Host.logSinks]))
  obtain ⟨_, content, foundEvents, isFile⟩ :=
    ready _ (handled (.eventFile (host.logFile eventPath)) (by simp [Host.logSinks]))
  obtain ⟨eventPlace, holds⟩ := Host.exists_holds_of_read (FileTree.read_of_find foundEvents isFile)
  exact ⟨textPlace, eventPlace, content, foundText, holds⟩

/-- With a log directory and JSON lines, both log files are there once logging has been set up. They
are one file just when the name of the text log ends in that of the other kind, behind something that
is not only dots. Then the file gets the line of each record in the text log as well, before the line
of JSON; else the log of JSON lines gets lines of JSON only. -/
theorem logs_are_one_file_iff
    (replaced : (host.logging.isConfigured && !overrides.reconfigure) = false)
    (ran : runFrom (configure config overrides) host = (.ok (some settings), installed))
    (named : settings.directory.isSome = true) (writes : settings.writesEvents.isTruthy = true) :
    ∃ (reading : Reading) (name textPath eventPath : String) (textPlace eventPlace : Place)
        (content : String),
      readConfiguration host.directoryPath config overrides = .ok reading ∧
      fileName reading host = .ok name ∧
      settings.textPath = some textPath ∧ settings.eventPath = some eventPath ∧
      installed.files.find installed.workingDirectory (host.logFile textPath) = .ok textPlace ∧
      installed.Holds (host.logFile eventPath) eventPlace content ∧
      (textPath = eventPath ↔ Path.HasEnding name "jsonl") ∧
      (textPlace = eventPlace ↔ Path.HasEnding name "jsonl") ∧
      ∀ records : List Record,
        (∀ record ∈ records, isWithin libraryLogger record.logger = true) →
        (records.foldl Host.deliver installed).Holds (host.logFile eventPath) eventPlace
          (content ++ String.join ((records.filter settings.Files).flatMap
            (Record.linesAt (textPlace = eventPlace) installed.recordTime))) := by
  have ⟨reading, directory, name, read, built, text, events⟩ :=
    paths_of_configure replaced ran named writes
  have ⟨readingToo, _, _, _, same, inPlace, ready⟩ := inPlace_of_configure replaced ran
  cases same
  cases text
  cases events
  obtain ⟨textPlace, eventPlace, content, found, holds⟩ := inPlace.exists_places ready
  have one := filePaths_eq_iff directory name
  have placed := target_filePaths_eq_iff host.isAbsolute_directoryPath directory name
  rw [← Host.place_of_logFile found, ← Host.place_of_logFile holds.found] at placed
  refine ⟨reading, name, _, _, textPlace, eventPlace, content, read, built, rfl, rfl, found, holds,
    one, placed, ?_⟩
  intro records within
  have shared : (some (filePaths directory name).1).map host.logFile =
      some (host.logFile (filePaths directory name).2) ↔ textPlace = eventPlace := by
    constructor
    · intro same
      rw [Option.some.inj same, holds.found] at found
      exact (Except.ok.inj found).symm
    · intro same
      exact congrArg (fun path => some (host.logFile path)) (one.mpr (placed.mp same))
  have events : HoldsEvents host (some (filePaths directory name).1) (filePaths directory name).2
      eventPlace installed content := by
    refine ⟨holds, ?_⟩
    rintro path ⟨⟩ differs other ⟨⟩
    exact ⟨textPlace, found, fun same => differs (Option.some.inj (shared.mpr same))⟩
  have after := inPlace.holds_linesAt_deliverAll ready events within
  rw [decide_eq_decide.mpr shared] at after
  exact after

/-- A configuration with both log files, whose names come of one pattern. -/
def patternConfig (pattern : String) : Document :=
  .table [("logging", .table [("to_file", .bool true), ("jsonl", .bool true),
    ("filename_pattern", .text pattern)])]

/-- The settings that come of that configuration if its pattern has two endings. -/
def patternSettings : Settings where
  directory := some "/w/logs"
  textPath := some "/w/logs/a.jsonl.log"
  eventPath := some "/w/logs/a.jsonl.jsonl"
  consoleLevel := .number Level.info
  fileLevel := .number Level.debug
  writesEvents := .bool true
  tracesPlans := .bool false

theorem logs_are_one_file_iff_of_pattern :
    ∃ installed textPlace eventPlace,
      runFrom (configure (patternConfig "a.jsonl.log") Overrides.none) emptyHost =
        (.ok (some patternSettings), installed) ∧
      installed.files.find installed.workingDirectory "/w/logs/a.jsonl.log" =
        .ok textPlace ∧
      textPlace ≠ eventPlace ∧
      (installed.deliver (binderRecord Level.warning)).Holds "/w/logs/a.jsonl.jsonl"
        eventPlace ((binderRecord Level.warning).lineAt 0 ++ "\n") := by
  have configured : (runFrom (configure (patternConfig "a.jsonl.log") Overrides.none)
      emptyHost).1 = .ok (some patternSettings) := by
    with_unfolding_all rfl
  have ⟨installed, ran⟩ : ∃ installed,
      runFrom (configure (patternConfig "a.jsonl.log") Overrides.none) emptyHost =
        (.ok (some patternSettings), installed) := ⟨_, Prod.ext configured rfl⟩
  have after : installed =
      (runFrom (configure (patternConfig "a.jsonl.log") Overrides.none) emptyHost).2 := by
    rw [ran]
  have ⟨empty, time⟩ : installed.files.read installed.workingDirectory
        "/w/logs/a.jsonl.jsonl" = .ok "" ∧ installed.recordTime = 0 := by
    rw [after]
    exact ⟨by with_unfolding_all rfl, by with_unfolding_all rfl⟩
  have seen : ∀ path ∈ ["/w/logs/a.jsonl.log", "/w/logs/a.jsonl.jsonl"],
      emptyHost.logFile path = path := by
    decide +kernel
  obtain ⟨_, name, _, _, textPlace, eventPlace, content, _, _, ⟨⟩, ⟨⟩, found, holds, one, placed,
    delivered⟩ := logs_are_one_file_iff rfl ran rfl rfl
  rw [seen _ (by simp)] at found holds
  have differ : textPlace ≠ eventPlace := fun same => absurd (one.mpr (placed.mp same)) (by decide)
  have passes : patternSettings.Files (binderRecord Level.warning) := by decide +kernel
  have grown := delivered [binderRecord Level.warning] (by decide +kernel)
  rw [seen _ (by simp)] at grown
  rw [holds.read_eq] at empty
  refine ⟨installed, textPlace, eventPlace, ran, found, differ, ?_⟩
  simpa [passes, differ, Except.ok.inj empty, Record.linesAt, time] using grown

/-- The last part of a pattern may be the name of a log of JSON lines. Then both logs are one file, in
which the line of a record for people stands before the one for programs. -/
theorem text_line_among_events :
    ∃ settings installed,
      runFrom (configure (patternConfig "a.jsonl") Overrides.none) emptyHost =
        (.ok (some settings), installed) ∧
      settings.textPath = some "/w/logs/a.jsonl" ∧ settings.eventPath = some "/w/logs/a.jsonl" ∧
      (installed.deliver (binderRecord Level.warning)).files.read installed.workingDirectory
          "/w/logs/a.jsonl" =
        .ok ((binderRecord Level.warning).textAt 0 ++ "\n" ++
          ((binderRecord Level.warning).lineAt 0 ++ "\n")) :=
  ⟨_, _, by with_unfolding_all rfl, rfl, rfl, by with_unfolding_all rfl⟩

end Log

end EngineBridge
