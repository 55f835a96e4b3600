import EngineBridge.Proofs.Document.JsonLine
import EngineBridge.Proofs.Log.LogFiles
import EngineBridge.Proofs.Log.Sinks

/-!
The log of JSON lines.

Each record that gets to the log adds one line to it, and no other handler touches its file unless it
is the text log as well. Main statement: the log is the lines of these records in order, each of them
a single line, from which JSON gives back what the record says.
-/

namespace EngineBridge

theorem FileTree.entry?_of_file? {tree : FileTree} {place : Place} {content : String}
    (isFile : tree.file? place = some content) : tree.entry? place = some (.file content) := by
  unfold FileTree.file? at isFile
  split at isFile
  · cases isFile
    assumption
  · cases isFile

namespace Host

variable {host before after : Host} {place : Place} {path content line : String}
  {sink target : Log.Sink} {lines : List (Log.Sink × String)}

/-- A line changes no file but the one that its sink writes to. -/
theorem changesOnly_writeLine (host : Host) (sink : Log.Sink) (line : String) :
    FileTree.ChangesOnly (fun place => ∃ path, sink.path? = some path ∧
      host.files.find host.workingDirectory path = .ok place) host.files
      (host.writeLine sink line).files := by
  have appended (path : String) (isFile : sink.path? = some path) (files : FileTree)
      (added : host.files.append host.workingDirectory path (line ++ "\n") = .ok files) :
      FileTree.ChangesOnly (fun place => ∃ path, sink.path? = some path ∧
        host.files.find host.workingDirectory path = .ok place) host.files files := by
    have ⟨place, found, changes, _⟩ := FileTree.changesOnly_update added
    apply changes.mono
    rintro _ rfl
    exact ⟨path, isFile, found⟩
  unfold writeLine
  cases sink with
  | output => exact .refl _ _
  | errorOutput => exact .refl _ _
  | textFile path =>
      dsimp only
      split
      · exact appended path rfl _ ‹_›
      · exact .refl _ _
  | eventFile path =>
      dsimp only
      split
      · exact appended path rfl _ ‹_›
      · exact .refl _ _

/-- Whether a sink does not write to the file at a place. -/
def IsApart (host : Host) (place : Place) (sink : Log.Sink) : Prop :=
  ∀ path, sink.path? = some path →
    ∃ other, host.files.find host.workingDirectory path = .ok other ∧ other ≠ place

/-- Whether a path leads to a place where a file holds a text. -/
structure Holds (host : Host) (path : String) (place : Place) (content : String) : Prop where
  found : host.files.find host.workingDirectory path = .ok place
  text : host.files.file? place = some content

theorem IsApart.writeLine (apart : host.IsApart place sink) (other : Log.Sink) (line : String) :
    (host.writeLine other line).IsApart place sink := by
  intro path isFile
  have ⟨elsewhere, found, differs⟩ := apart path isFile
  rw [workingDirectory_writeLine]
  exact ⟨elsewhere, (changesOnly_writeLine host other line).finds _ _ _ found, differs⟩

theorem Holds.writeLine_of_isApart (holds : host.Holds path place content)
    (apart : host.IsApart place sink) (line : String) :
    (host.writeLine sink line).Holds path place content := by
  have changes := changesOnly_writeLine host sink line
  constructor
  · rw [workingDirectory_writeLine]
    exact changes.finds _ _ _ holds.found
  · rw [changes.files place, holds.text]
    rintro ⟨other, isFile, found⟩
    have ⟨elsewhere, foundToo, differs⟩ := apart other isFile
    rw [foundToo] at found
    exact differs (Except.ok.inj found)

theorem Holds.isOpen (holds : host.Holds path place content) :
    host.files.IsOpen host.workingDirectory path :=
  ⟨place, content, holds.found, FileTree.entry?_of_file? holds.text⟩

theorem Holds.read_eq (holds : host.Holds path place content) :
    host.files.read host.workingDirectory path = .ok content :=
  FileTree.read_of_find holds.found (FileTree.entry?_of_file? holds.text)

theorem exists_holds_of_read (present : host.files.read host.workingDirectory path = .ok content) :
    ∃ place, host.Holds path place content := by
  have ⟨place, found, present⟩ := exists_of_bind_eq_ok present
  refine ⟨place, found, ?_⟩
  unfold FileTree.file?
  split at present
  · cases present
    rename_i isFile
    rw [isFile]
  · cases present
  · cases present

/-- A line that is added to the file itself stands behind what was there. -/
theorem Holds.writeLine_self (holds : host.Holds path place content)
    (isFile : sink.path? = some path) (line : String) :
    (host.writeLine sink line).Holds path place (content ++ (line ++ "\n")) := by
  obtain ⟨present, files, _, added, _⟩ := holds.isOpen.exists_append (line ++ "\n")
  have same : host.writeLine sink line = { host with files } := by
    cases sink with
    | output => cases isFile
    | errorOutput => cases isFile
    | textFile other =>
        cases isFile
        simp only [writeLine, added]
    | eventFile other =>
        cases isFile
        simp only [writeLine, added]
  obtain ⟨target, found, changes, text⟩ := FileTree.changesOnly_update added
  rw [holds.found] at found
  cases found
  rw [same]
  refine ⟨changes.finds _ _ _ holds.found, text.trans ?_⟩
  rw [holds.text, Option.getD_some]

theorem Writes.isApart (writes : before.Writes lines after) (apart : before.IsApart place sink) :
    after.IsApart place sink := by
  induction writes with
  | nil => exact apart
  | cons first _ induction =>
      apply induction
      rw [first.written]
      exact apart.writeLine _ _

theorem Writes.recordTime (writes : before.Writes lines after) :
    after.recordTime = before.recordTime := by
  induction writes with
  | nil => rfl
  | cons first _ induction => rw [induction, first.written, recordTime_writeLine]

/-- Of lines to several sinks, a file gets those to the sinks that lead to it. -/
theorem Holds.writes {leads : Log.Sink → Bool} (holds : before.Holds path place content)
    (own : ∀ sink, leads sink = true → sink.path? = some path) (writes : before.Writes lines after)
    (each : ∀ entry ∈ lines, leads entry.1 = true ∨ before.IsApart place entry.1) :
    after.Holds path place (content ++ String.join
      ((lines.filter fun entry => leads entry.1).map fun entry => entry.2 ++ "\n")) := by
  induction writes generalizing content with
  | nil => simpa using holds
  | @cons before middle after sink line rest first _ induction =>
      have others : ∀ entry ∈ rest, leads entry.1 = true ∨ middle.IsApart place entry.1 := by
        intro entry inside
        rw [first.written]
        exact (each entry (List.mem_cons_of_mem _ inside)).imp_right fun apart =>
          apart.writeLine sink line
      by_cases same : leads sink = true
      · have here := holds.writeLine_self (own sink same) line
        rw [← first.written] at here
        simpa [same, String.append_assoc] using induction here others
      · have apart := (each (sink, line) List.mem_cons_self).resolve_left same
        have here := holds.writeLine_of_isApart apart line
        rw [← first.written] at here
        simpa [same] using induction here others

end Host

/-- What some items of a list stand for. -/
theorem flatMap_ite_nil {α β : Type} (items : List α) (chosen : α → Prop) [DecidablePred chosen]
    (results : α → List β) :
    (items.flatMap fun item => if chosen item then results item else []) =
      (items.filter chosen).flatMap results := by
  induction items with
  | nil => rfl
  | cons item rest induction =>
      rw [List.flatMap_cons, induction, List.filter_cons]
      by_cases isChosen : chosen item <;> simp [isChosen]

namespace Log

namespace Record

/-- Whether JSON keeps the decision that a record is about, inside the object of the record. -/
def KeepsEvent (record : Record) : Prop :=
  ∀ event, record.event = some event →
    Document.Json.Keeps (Document.Json.nestingRoom - 1) event ∧
      Document.Json.isWritable event = true

/-- Whether a text is a single line that JSON reads as what a record says. -/
structure ReadsFrom (record : Record) (line : String) : Prop where
  single : '\n' ∉ line.toList
  read : record.KeepsEvent → ∃ entries : Entries Document,
    Document.Json.read line = .ok (.table entries) ∧
      entries.get? "level" = some (.text record.levelName) ∧
      entries.get? "logger" = some (.text record.logger) ∧
      entries.get? "message" = some (.text record.message) ∧
      entries.get? "where" = some (.text (record.place ++ ":" ++ Number.writeInt record.line)) ∧
      entries.get? "plan_event" = record.event

/-- The line of a record at a time. -/
def lineAt (record : Record) (time : Int) : String :=
  { record with created := time }.json

theorem readsFrom_lineAt (record : Record) (time : Int) :
    record.ReadsFrom (record.lineAt time) where
  single := by
    rw [lineAt, json, Document.Json.writeUnicode, String.toList_ofList]
    exact Document.Json.newLine_not_mem_compact _ _
  read kept := by
    obtain ⟨level, levelName, logger, place, line, created, message, event, failure⟩ := record
    have text (value : String) :
        Document.Json.Keeps (Document.Json.nestingRoom - 1) (.text value) ∧
          Document.Json.isWritable (.text value) = true := ⟨.text value, rfl⟩
    have read := fun entries distinct each =>
      @Document.Json.read_compact_table (Document.Json.nestingRoom - 1) rfl entries distinct each
        .unicode
    refine ⟨_, read _ ?_ ?_, ?_⟩
    · cases event <;> cases failure <;> simp [Entries.keys]
    · intro entry inside
      rcases List.mem_append.mp inside with inside | isFailure
      · rcases List.mem_append.mp inside with isText | isEvent
        · simp only [List.mem_cons, List.not_mem_nil, or_false] at isText
          rcases isText with rfl | rfl | rfl | rfl | rfl <;> exact text _
        · obtain ⟨event, given, same⟩ := Option.map_eq_some_iff.mp (Option.mem_toList.mp isEvent)
          rw [← same]
          exact kept event given
      · obtain ⟨failure, _, same⟩ := Option.map_eq_some_iff.mp (Option.mem_toList.mp isFailure)
        rw [← same]
        exact text failure
    · cases event <;> cases failure <;> simp [Entries.get?_cons]

end Record

variable {reading : Reading} {host now installed : Host} {record : Record} {settings : Settings}

instance (settings : Settings) (record : Record) : Decidable (settings.HoldsBack record) := by
  unfold Settings.HoldsBack
  infer_instance

/-- Whether a record gets to the log files: their level lets it pass, and its logger records it. -/
def Settings.Files (settings : Settings) (record : Record) : Prop :=
  settings.fileLevel.level ≤ record.level ∧ ¬settings.HoldsBack record

instance (settings : Settings) (record : Record) : Decidable (settings.Files record) := by
  unfold Settings.Files
  infer_instance

/-- The sinks of files are the log files. -/
theorem Settings.eq_of_mem_sinks {level : Int} {sink : Sink}
    (inside : sink ∈ settings.sinks host level) :
    sink.path? = none ∨
      (∃ path, settings.textPath = some path ∧ sink = .textFile (host.logFile path)) ∨
        ∃ path, settings.eventPath = some path ∧ sink = .eventFile (host.logFile path) := by
  simp only [sinks, Host.logSinks, List.mem_append, List.mem_ite_nil_right, List.mem_singleton,
    Option.mem_toList, Option.map_eq_some_iff] at inside
  rcases inside with (⟨_, rfl⟩ | ⟨_, rfl⟩) | ⟨_, ⟨path, found, rfl⟩ | ⟨path, found, rfl⟩⟩
  · exact .inl rfl
  · exact .inl rfl
  · exact .inr (.inl ⟨path, found, rfl⟩)
  · exact .inr (.inr ⟨path, found, rfl⟩)

/-- Whether a record gets to a sink: it is for it, and its logger records it. -/
def Settings.Reaches (settings : Settings) (host : Host) (sink : Sink) (record : Record) : Prop :=
  sink ∈ settings.sinks host record.level ∧ ¬settings.HoldsBack record

instance (settings : Settings) (host : Host) (sink : Sink) (record : Record) :
    Decidable (settings.Reaches host sink record) := by
  unfold Settings.Reaches
  infer_instance

/-- The sinks that a record gets to. -/
def Settings.reached (settings : Settings) (host : Host) (record : Record) : List Sink :=
  if settings.HoldsBack record then [] else settings.sinks host record.level

theorem Settings.mem_sinks_of_mem_reached {sink : Sink}
    (inside : sink ∈ settings.reached host record) : sink ∈ settings.sinks host record.level := by
  unfold reached at inside
  split at inside
  · cases inside
  · exact inside

section

variable {textPath eventPath : Option String}

/-- A record is written once to each sink that it gets to, and to no other. -/
theorem Routing.InPlace.writes_reached
    (inPlace : now.logging.InPlace reading host textPath eventPath) (ready : now.IsReady)
    (within : isWithin libraryLogger record.logger = true) :
    now.Writes (((reading.settings textPath eventPath).reached host record).map fun sink =>
      (sink, reading.line host { record with created := now.recordTime } sink))
      (now.deliver record) := by
  have ⟨sinks, written, held, free⟩ := inPlace.writes ready within
  unfold Settings.reached
  split
  · rw [held ‹_›] at written
    exact written
  · rw [free ‹_›] at written
    exact written

/-- What is shown of lines as they are written shows, once records have been delivered, the lines to
those of its sinks that each record gets to. -/
theorem Routing.InPlace.shows_deliverAll (shows : Host → String → Prop) (leads : Sink → Bool)
    {content : String}
    (grows : ∀ (now after : Host) (content : String) (lines : List (Sink × String)),
      shows now content → now.Writes lines after →
      (∀ entry ∈ lines, ∃ level,
        entry.1 ∈ (reading.settings textPath eventPath).sinks host level) →
      shows after (content ++ String.join
        ((lines.filter fun entry => leads entry.1).map fun entry => entry.2 ++ "\n")))
    (inPlace : now.logging.InPlace reading host textPath eventPath) (ready : now.IsReady)
    {records : List Record}
    (within : ∀ record ∈ records, isWithin libraryLogger record.logger = true)
    (shown : shows now content) :
    shows (records.foldl Host.deliver now) (content ++ String.join (records.flatMap fun record =>
      (((reading.settings textPath eventPath).reached host record).filter leads).map fun sink =>
        reading.line host { record with created := now.recordTime } sink ++ "\n")) := by
  induction records generalizing now content with
  | nil => simpa using shown
  | cons record rest induction =>
      have written := inPlace.writes_reached ready (within record List.mem_cons_self)
      have here := grows _ _ _ _ shown written fun entry inside => by
        have ⟨sink, member, same⟩ := List.mem_map.mp inside
        rw [← same]
        exact ⟨_, Settings.mem_sinks_of_mem_reached member⟩
      have inPlaceThen : (now.deliver record).logging.InPlace reading host textPath eventPath := by
        rw [(Host.logs_deliver now record).routing]
        exact inPlace
      have readyThen : (now.deliver record).IsReady := ready.deliverAll [record]
      have others := induction inPlaceThen readyThen
        (fun other inside => within other (List.mem_cons_of_mem _ inside)) here
      rw [written.recordTime, String.append_assoc, ← String.join_append, List.filter_map,
        List.map_map] at others
      exact others

/-- Of one sink, those are the lines of the records that get to it. -/
theorem Settings.flatMap_reached_eq (settings : Settings) (host : Host) (target : Sink)
    (line : Record → Sink → String) (records : List Record) :
    (records.flatMap fun record => ((settings.reached host record).filter (· = target)).map
        (line record)) =
      (records.filter (settings.Reaches host target)).map fun record => line record target := by
  have each (record : Record) : (settings.reached host record).filter (· = target) =
      if settings.Reaches host target record then [target] else [] := by
    unfold Settings.reached
    by_cases reaches : settings.Reaches host target record
    · rw [if_pos reaches, if_neg reaches.2, List.filter_eq,
        List.count_eq_one_of_mem (settings.nodup_sinks host record.level) reaches.1]
      rfl
    · rw [if_neg reaches]
      split
      · rfl
      · rename_i free
        rw [List.filter_eq, List.count_eq_zero_of_not_mem fun isFor => reaches ⟨isFor, free⟩]
        rfl
  rw [List.map_eq_flatMap, ← flatMap_ite_nil]
  apply List.flatMap_congr
  intro record _
  rw [each record]
  split <;> rfl

/-- The log of JSON lines gets the lines of all records that get to the log files. Those of the text
log come before them if it has the same path. -/
theorem Settings.filter_reached {eventPath : String} (written : settings.eventPath = some eventPath)
    (host : Host) (record : Record) :
    (settings.reached host record).filter (fun sink => sink.path? = some (host.logFile eventPath)) =
      if settings.Files record then
        (if settings.textPath.map host.logFile = some (host.logFile eventPath) then
          [.textFile (host.logFile eventPath)] else []) ++ [.eventFile (host.logFile eventPath)]
      else [] := by
  unfold Settings.reached Settings.Files
  by_cases heldBack : settings.HoldsBack record
  · simp [heldBack]
  · simp only [heldBack, not_false_eq_true, and_true, if_false, Settings.sinks, Host.logSinks,
      written, List.filter_append]
    have streams (passes : Prop) [Decidable passes] (sink : Sink) (isStream : sink.path? = none) :
        (if passes then [sink] else []).filter
          (fun sink => sink.path? = some (host.logFile eventPath)) = [] := by
      split <;> simp [isStream]
    rw [streams _ _ rfl, streams _ _ rfl, List.nil_append, List.nil_append]
    split
    · cases settings.textPath with
      | none => simp [Sink.path?]
      | some path =>
          by_cases same : host.logFile path = host.logFile eventPath <;> simp [Sink.path?, same]
    · rfl

end

namespace Record

/-- The line of a record in the text log at a time. -/
def textAt (record : Record) (time : Int) : String :=
  { record with created := time }.text false

/-- The lines of a record in the log of JSON lines. If both logs are one file, the line of the text
log stands before the other. -/
def linesAt (shared : Bool) (time : Int) (record : Record) : List String :=
  (if shared then [record.textAt time ++ "\n"] else []) ++ [record.lineAt time ++ "\n"]

end Record

/-- Whether the log of JSON lines of a configuration holds a text, and the text log has the same path
or leads elsewhere. -/
structure HoldsEvents (host : Host) (textPath : Option String) (eventPath : String) (place : Place)
    (now : Host) (content : String) : Prop where
  holds : now.Holds (host.logFile eventPath) place content
  apart : ∀ path, textPath = some path → host.logFile path ≠ host.logFile eventPath →
    now.IsApart place (.textFile (host.logFile path))

/-- Lines for log files are added to the log of JSON lines if they go to its path. Another text log
stays another one. -/
theorem HoldsEvents.writes {textPath : Option String} {eventPath content : String} {place : Place}
    {after : Host} {lines : List (Sink × String)}
    (events : HoldsEvents host textPath eventPath place now content)
    (written : now.Writes lines after)
    (each : ∀ entry ∈ lines, ∃ level,
      entry.1 ∈ (reading.settings textPath (some eventPath)).sinks host level) :
    HoldsEvents host textPath eventPath place after (content ++ String.join
      ((lines.filter fun entry => entry.1.path? = some (host.logFile eventPath)).map fun entry =>
        entry.2 ++ "\n")) where
  holds := by
    refine events.holds.writes (fun sink isFile => of_decide_eq_true isFile) written ?_
    intro entry inside
    have ⟨level, isFor⟩ := each entry inside
    rcases Settings.eq_of_mem_sinks isFor with noFile | ⟨path, isText, same⟩ | ⟨path, isEvent, same⟩
    · right
      intro path isFile
      rw [noFile] at isFile
      cases isFile
    · rw [same]
      by_cases shared : host.logFile path = host.logFile eventPath
      · exact .inl (decide_eq_true (congrArg some shared))
      · exact .inr (events.apart path isText shared)
    · cases isEvent
      rw [same]
      exact .inl (decide_eq_true rfl)
  apart path isText differs := written.isApart (events.apart path isText differs)

/-- What the log of JSON lines holds once records have been delivered. -/
theorem Routing.InPlace.holds_linesAt_deliverAll {textPath : Option String}
    {eventPath content : String} {place : Place}
    (inPlace : now.logging.InPlace reading host textPath (some eventPath)) (ready : now.IsReady)
    (events : HoldsEvents host textPath eventPath place now content) {records : List Record}
    (within : ∀ record ∈ records, isWithin libraryLogger record.logger = true) :
    (records.foldl Host.deliver now).Holds (host.logFile eventPath) place (content ++ String.join
      ((records.filter (reading.settings textPath (some eventPath)).Files).flatMap
        (Record.linesAt (textPath.map host.logFile = some (host.logFile eventPath))
          now.recordTime))) := by
  let settings := reading.settings textPath (some eventPath)
  let leads (sink : Sink) : Bool := sink.path? = some (host.logFile eventPath)
  have shown := (inPlace.shows_deliverAll (HoldsEvents host textPath eventPath place) leads
    (fun _ _ _ _ events written each => events.writes written each) ready within events).holds
  have lines : (records.flatMap fun record => ((settings.reached host record).filter leads).map
        fun sink => reading.line host { record with created := now.recordTime } sink ++ "\n") =
      (records.filter settings.Files).flatMap
        (Record.linesAt (textPath.map host.logFile = some (host.logFile eventPath))
          now.recordTime) := by
    rw [← flatMap_ite_nil]
    apply List.flatMap_congr
    intro record _
    rw [settings.filter_reached rfl]
    split
    · change (List.map _ ((if textPath.map host.logFile = some (host.logFile eventPath) then _
        else _) ++ _)) = _
      unfold Record.linesAt
      by_cases shared : textPath.map host.logFile = some (host.logFile eventPath)
      · rw [if_pos shared, decide_eq_true shared]
        rfl
      · rw [if_neg shared, decide_eq_false shared]
        rfl
    · rfl
  exact lines ▸ shown

/-- The log of JSON lines holds nothing else if the text log leads elsewhere. -/
theorem Routing.InPlace.holds_deliverAll {textPath : Option String} {eventPath content : String}
    {place : Place}
    (inPlace : now.logging.InPlace reading host textPath (some eventPath)) (ready : now.IsReady)
    (apart : ∀ path, textPath = some path → now.IsApart place (.textFile (host.logFile path)))
    (holds : now.Holds (host.logFile eventPath) place content) {records : List Record}
    (within : ∀ record ∈ records, isWithin libraryLogger record.logger = true) :
    (records.foldl Host.deliver now).Holds (host.logFile eventPath) place (content ++ String.join
      ((records.filter (reading.settings textPath (some eventPath)).Files).map fun record =>
        record.lineAt now.recordTime ++ "\n")) := by
  have differs : textPath.map host.logFile ≠ some (host.logFile eventPath) := by
    intro same
    have ⟨path, isText, shared⟩ := Option.map_eq_some_iff.mp same
    have ⟨other, found, elsewhere⟩ := apart path isText _ rfl
    rw [shared, holds.found] at found
    exact elsewhere (Except.ok.inj found).symm
  have shown := inPlace.holds_linesAt_deliverAll ready ⟨holds, fun path isText _ => apart path isText⟩
    within
  rw [decide_eq_false differs] at shown
  rw [List.map_eq_flatMap]
  exact shown

/-- What is in place once a configuration that changes something has succeeded. -/
theorem inPlace_of_configure {config : Document} {overrides : Overrides} {given : Option Settings}
    (replaced : (host.logging.isConfigured && !overrides.reconfigure) = false)
    (ran : runFrom (configure config overrides) host = (.ok given, installed)) :
    ∃ (reading : Reading) (textPath eventPath : Option String),
      readConfiguration host.directoryPath config overrides = .ok reading ∧
      given = some (reading.settings textPath eventPath) ∧
      installed.logging.InPlace reading host textPath eventPath ∧ installed.IsReady := by
  have configured := configures_configure config overrides host
  rw [ran] at configured
  cases configured with
  | kept kept =>
      rw [replaced] at kept
      cases kept
  | done _ reading read textPath eventPath made filed =>
      have ⟨⟨tree, same⟩, isOpen, _⟩ := filed.of_ok
      subst same
      exact ⟨reading, textPath, eventPath, read, rfl,
        inPlace_inForce reading host tree textPath eventPath, isReady_inForce isOpen⟩

/-- The log of JSON lines after any records of the library, when nothing was in it and the text log is
another file. -/
theorem events_line_by_line {config : Document} {overrides : Overrides} {eventPath : String}
    (replaced : (host.logging.isConfigured && !overrides.reconfigure) = false)
    (ran : runFrom (configure config overrides) host = (.ok (some settings), installed))
    (written : settings.eventPath = some eventPath)
    (apart : ∀ path, settings.textPath = some path →
      installed.files.find installed.workingDirectory (host.logFile path) ≠
        installed.files.find installed.workingDirectory (host.logFile eventPath))
    (empty : installed.files.read installed.workingDirectory (host.logFile eventPath) = .ok "")
    (records : List Record)
    (within : ∀ record ∈ records, isWithin libraryLogger record.logger = true) :
    ∃ lines : List String,
      (records.foldl Host.deliver installed).files.read
          (records.foldl Host.deliver installed).workingDirectory (host.logFile eventPath) =
        .ok (String.join (lines.map fun line => line ++ "\n")) ∧
      List.Forall₂ Record.ReadsFrom (records.filter settings.Files) lines := by
  have ⟨reading, textPath, given, _, same, inPlace, ready⟩ := inPlace_of_configure replaced ran
  cases same
  cases written
  have ⟨place, holds⟩ := Host.exists_holds_of_read empty
  have elsewhere : ∀ path, textPath = some path →
      installed.IsApart place (.textFile (host.logFile path)) := by
    rintro path isText _ ⟨⟩
    have handled : ⟨.textFile (host.logFile path), reading.fileLevel, false⟩ ∈
        installed.logging.handlers := by
      rw [inPlace.handlers]
      simp [Reading.handlers, Host.logSinks, isText]
    obtain ⟨other, _, found, _⟩ := ready _ handled
    refine ⟨other, found, ?_⟩
    rintro rfl
    exact apart path isText (found.trans holds.found.symm)
  have after := inPlace.holds_deliverAll ready elsewhere holds within
  rw [String.empty_append] at after
  refine ⟨(records.filter (reading.settings textPath (some eventPath)).Files).map fun record =>
    record.lineAt installed.recordTime, ?_, ?_⟩
  · rw [List.map_map]
    exact after.read_eq
  · rw [List.forall₂_map_right_iff, List.forall₂_same]
    exact fun record _ => record.readsFrom_lineAt installed.recordTime

/-- A decision with line feeds, quotes and backslashes in its texts. -/
def brokenRecord : Record :=
  { Record.plain Level.trace "gdmarshal.plan" "logging" "a\n\"b\" -> \\" with
    event := some (.table [("argument", .text "\"b\"\r\n")]) }

/-- JSON keeps the decision. -/
theorem keepsEvent_brokenRecord : brokenRecord.KeepsEvent := by
  rintro event ⟨⟩
  exact ⟨.table (by decide) (by simp), by decide +kernel⟩

theorem events_line_by_line_of_files :
    ∃ installed, runFrom (configure filesConfig Overrides.none) emptyHost =
        (.ok (some filesSettings), installed) ∧
      ∃ line, ([brokenRecord].foldl Host.deliver installed).files.read
          ([brokenRecord].foldl Host.deliver installed).workingDirectory "/w/logs/a.jsonl" =
            .ok (line ++ "\n") ∧
        '\n' ∉ line.toList ∧ ∃ entries : Entries Document,
          Document.Json.read line = .ok (.table entries) ∧
            entries.get? "level" = some (.text "TRACE") ∧
            entries.get? "logger" = some (.text "gdmarshal.plan") ∧
            entries.get? "message" = some (.text "a\n\"b\" -> \\") ∧
            entries.get? "where" = some (.text "logging:0") ∧
            entries.get? "plan_event" =
              some (.table [("argument", .text "\"b\"\r\n")]) := by
  have configured : (runFrom (configure filesConfig Overrides.none) emptyHost).1 =
      .ok (some filesSettings) := by
    with_unfolding_all rfl
  have ⟨installed, ran⟩ : ∃ installed, runFrom (configure filesConfig Overrides.none) emptyHost =
      (.ok (some filesSettings), installed) := ⟨_, Prod.ext configured rfl⟩
  have after : installed = (runFrom (configure filesConfig Overrides.none) emptyHost).2 := by
    rw [ran]
  have files : installed.files.find installed.workingDirectory "/w/logs/a.log" =
        .ok ["w".toList, "logs".toList, "a.log".toList] ∧
      installed.files.find installed.workingDirectory "/w/logs/a.jsonl" =
        .ok ["w".toList, "logs".toList, "a.jsonl".toList] ∧
      installed.files.read installed.workingDirectory "/w/logs/a.jsonl" = .ok "" := by
    rw [after]
    exact ⟨by with_unfolding_all rfl, by with_unfolding_all rfl, by with_unfolding_all rfl⟩
  have seen : ∀ path ∈ ["/w/logs/a.log", "/w/logs/a.jsonl"], emptyHost.logFile path = path := by
    decide +kernel
  have ⟨lines, read, each⟩ := @events_line_by_line emptyHost installed filesSettings filesConfig
    Overrides.none "/w/logs/a.jsonl" rfl ran rfl (by
      rintro path ⟨⟩
      rw [seen _ (by simp), seen _ (by simp), files.1, files.2.1]
      intro same
      exact absurd (Except.ok.inj same) (by decide)) (by
      rw [seen _ (by simp)]
      exact files.2.2) [brokenRecord] (by decide +kernel)
  have passes : filesSettings.Files brokenRecord := by decide +kernel
  have all : [brokenRecord].filter filesSettings.Files = [brokenRecord] := by simp [passes]
  rw [all] at each
  rw [seen _ (by simp)] at read
  cases each with
  | cons first rest =>
      cases rest
      exact ⟨installed, ran, _, by simpa using read, first.single,
        first.read keepsEvent_brokenRecord⟩

/-- A record at the level of the files is lost where this level is zero: the library's logger has
none of its own then, and takes that of the root. -/
theorem event_lost_at_level_zero :
    ∃ settings installed,
      runFrom (configure (.table [("logging", .table [("file_level", .text "NOTSET"),
          ("to_file", .bool true), ("jsonl", .bool true), ("filename_pattern", .text "a.log")])])
        Overrides.none) emptyHost = (.ok (some settings), installed) ∧
      settings.fileLevel.level ≤ Level.debug ∧ settings.eventPath = some "/w/logs/a.jsonl" ∧
      installed.deliver (binderRecord Level.debug) = installed ∧
      installed.files.read installed.workingDirectory "/w/logs/a.jsonl" = .ok "" :=
  ⟨_, _, by with_unfolding_all rfl, by decide, rfl, by with_unfolding_all rfl,
    by with_unfolding_all rfl⟩

end Log

end EngineBridge
