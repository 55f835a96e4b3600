import EngineBridge.Proofs.Command.Binding
import EngineBridge.Proofs.Files.Bundled
import EngineBridge.Proofs.Files.Written

/-!
What `plan` writes to the standard output.

Main statement: a run that ends well writes one document, behind the log lines that go to the
standard output. The document is read back as what the bindings are, and is the one that a file would
get.
-/

namespace EngineBridge

namespace Run

variable {host after : Host}

theorem of_runFrom_printDocument {document : Document}
    (ran : runFrom (printDocument document) host = (.ok (), after)) :
    Document.Json.isWritable document = true ∧
      after = { host with output := host.output ++ Document.Json.writeFile document } := by
  have ⟨_, printed, printing, ran⟩ := exists_of_runFrom_bind ran
  cases printing
  exact of_runFrom_requireWritable ran

/-- A document that does not break off is printed to its end. -/
theorem runFrom_printDocument {document : Document}
    (writable : Document.Json.isWritable document = true) (host : Host) :
    runFrom (printDocument document) host =
      (.ok (), { host with output := host.output ++ Document.Json.writeFile document }) := by
  have printed : runFrom (print (Document.Json.writeFile document)) host =
      (.ok (), { host with output := host.output ++ Document.Json.writeFile document }) := rfl
  rw [printDocument, runFrom_bind_of_ok printed, requireWritable, if_pos writable]
  rfl

end Run

namespace Command

variable {request : PlanRequest} {bindings : Bindings} {host after : Host}

theorem runRequest_plan (request : PlanRequest) (host : Host) :
    runRequest (.plan request) host =
      match runFrom (plan request) host with
      | (.ok (.ok ()), host) => (.status 0, host)
      | (.ok (.error (.unknownClass name)), host) =>
          (.status usageStatus, complain programName ("Unknown class: " ++ name) host)
      | (.error failure, host) =>
          if failure.isReported then
            (.status 1, host.deliver (failureRecord (failure.message.getD "")))
          else (.failed failure, host) := rfl

theorem of_run_plan {arguments : List String} (parsed : read arguments = .ok (.plan request))
    (ended : run arguments host = (.status 0, after)) :
    runFrom (plan request) host = (.ok (.ok ()), after) := by
  unfold run at ended
  rw [parsed] at ended
  change runRequest (.plan request) host = _ at ended
  rw [runRequest_plan] at ended
  split at ended
  · rename_i ran
    cases ended
    exact ran
  · cases ended
  · split at ended
    · cases ended
    · cases ended

/-- What is planned is bound first, and then written. -/
theorem of_runFrom_plan (ran : runFrom (plan request) host = (.ok (.ok ()), after)) :
    ∃ bindings bound, runFrom (bindRequested request) host = (.ok (.ok bindings), bound) ∧
      runFrom (writeBindings request.output bindings) bound = (.ok (), after) := by
  have ⟨outcome, bound, binding, ran⟩ := exists_of_runFrom_bind ran
  cases outcome with
  | error stop => cases ran
  | ok bindings =>
      have ⟨_, written, writing, ran⟩ := exists_of_runFrom_bind ran
      cases ran
      exact ⟨bindings, bound, binding, writing⟩

theorem writeBindings_of_unnamed {output : Option String} (unnamed : output.getD "" = "")
    (bindings : Bindings) :
    writeBindings output bindings = Run.printDocument bindings.document := by
  cases output with
  | none => rfl
  | some path =>
      change path = "" at unnamed
      rw [unnamed]
      rfl

theorem writeBindings_of_named {path : String} (named : path ≠ "") (bindings : Bindings) :
    writeBindings (some path) bindings = (do
      Run.writeDocument path bindings.document
      Run.log (wroteRecord bindings.done.length path)) := by
  unfold writeBindings
  split
  · cases ‹some path = none›
  · cases ‹some path = some ""›
    exact absurd rfl named
  · cases ‹some path = some _›
    rfl

/-- A run that binds ends well, if it names no file and what it binds can be written. -/
theorem run_of_bindRequested {arguments : List String} {bound : Host}
    (parsed : read arguments = .ok (.plan request)) (unnamed : request.output.getD "" = "")
    (binding : runFrom (bindRequested request) host = (.ok (.ok bindings), bound))
    (writable : Document.Json.isWritable bindings.document = true) :
    ∃ after, run arguments host = (.status 0, after) ∧
      after.output = bound.output ++ Document.Json.writeFile bindings.document := by
  have planned : runFrom (plan request) host = (.ok (.ok ()),
      { bound with output := bound.output ++ Document.Json.writeFile bindings.document }) := by
    rw [plan, runFrom_bind_of_ok binding]
    change runFrom (writeBindings request.output bindings >>= _) bound = _
    rw [writeBindings_of_unnamed unnamed,
      runFrom_bind_of_ok (Run.runFrom_printDocument writable bound)]
    rfl
  rw [run, parsed]
  change ∃ after, runRequest (.plan request) host = _ ∧ _
  rw [runRequest_plan, planned]
  exact ⟨_, rfl, rfl⟩

/-- What is bound is read back from its text, if the text is written to its end. -/
theorem read_bindings (plain : bindings.IsPlain)
    (writable : Document.Json.isWritable bindings.document = true) :
    Document.Json.read (Document.Json.writeFile bindings.document) = .ok bindings.document :=
  Document.Json.read_writeFile (plain.keeps _) writable

/-- What a run that ends well writes to a file that it names. -/
theorem plan_writes {arguments : List String} {path : String} {bound : Host} (named : path ≠ "")
    (parsed : read arguments = .ok (.plan { request with output := some path }))
    (binding : runFrom (bindRequested request) host = (.ok (.ok bindings), bound))
    (ended : run arguments host = (.status 0, after)) :
    ∃ written, runFrom (Run.writeDocument path bindings.document) bound = (.ok (), written) ∧
      written.files.read written.workingDirectory path =
        .ok (Document.Json.writeFile bindings.document) ∧
      after = written.deliver (wroteRecord bindings.done.length path) := by
  have ⟨others, other, bindingOther, ran⟩ := of_runFrom_plan (of_run_plan parsed ended)
  have same : (others, other) = (bindings, bound) := by
    change runFrom (bindRequested request) host = _ at bindingOther
    rw [binding] at bindingOther
    cases bindingOther
    rfl
  cases same
  rw [writeBindings_of_named named] at ran
  have ⟨_, written, writing, ran⟩ := exists_of_runFrom_bind ran
  cases ran
  exact ⟨written, writing, Run.read_of_writeDocument writing, rfl⟩

/-- A run that names no file and ends well prints one document, behind the log lines that the
handlers of the standard output let pass. There are none from the level of errors on. A file that the
run had named would have got the same text. -/
theorem plan_prints_document {arguments : List String}
    (parsed : read arguments = .ok (.plan request)) (unnamed : request.output.getD "" = "")
    (ended : run arguments host = (.status 0, after)) :
    ∃ bindings bound,
      runFrom (bindRequested request) host = (.ok (.ok bindings), bound) ∧
      Document.Json.read (Document.Json.writeFile bindings.document) = .ok bindings.document ∧
      (∃ lines, after.output =
          host.output ++ String.join lines ++ Document.Json.writeFile bindings.document ∧
        ∀ line ∈ lines, after.logging.Shows line) ∧
      (host.logging.handlers = [] → ∃ level,
        request.consoleLevel host = .ok level ∧ after.logging.PrintsFrom level ∧
        (Log.Level.error ≤ level.level →
          after.output = host.output ++ Document.Json.writeFile bindings.document)) ∧
      ∀ others path last, path ≠ "" →
        read others = .ok (.plan { request with output := some path }) →
        run others host = (.status 0, last) →
        ∃ written, runFrom (Run.writeDocument path bindings.document) bound = (.ok (), written) ∧
          written.files.read written.workingDirectory path =
            .ok (Document.Json.writeFile bindings.document) ∧
          last = written.deliver (wroteRecord bindings.done.length path) := by
  have ⟨bindings, bound, binding, ran⟩ := of_runFrom_plan (of_run_plan parsed ended)
  rw [writeBindings_of_unnamed unnamed] at ran
  have ⟨writable, printed⟩ := Run.of_runFrom_printDocument ran
  have ⟨⟨lines, logged, shown⟩, fresh⟩ := bindRequested_prints binding
  rw [printed]
  have readBack := read_bindings (isPlain_bindRequested binding) writable
  refine ⟨bindings, bound, binding, readBack, ?_, ?_, ?_⟩
  · exact ⟨lines, by rw [logged], shown⟩
  · intro unconfigured
    have ⟨level, decided, prints, silent⟩ := fresh unconfigured
    refine ⟨level, decided, prints, ?_⟩
    intro high
    rw [silent high]
  · intro others path last named parsed ended
    exact plan_writes named parsed binding ended

/-- Where nothing is set up, the bundled settings alone decide how logging is. -/
theorem runFrom_setUp_of_alone (alone : Settings.Alone host)
    (unconfigured : host.logging.handlers = []) {logLevel : Option String}
    {settings : Option Log.Settings}
    (configured : runFrom (Log.configure Settings.bundled (overridesOf logLevel)) host =
      (.ok settings, after)) :
    runFrom (setUp none logLevel) host = (.ok Settings.bundled, after) := by
  have loaded : runFrom (Run.logged (Settings.load host none)) host =
      (.ok Settings.bundled, host) := by
    rw [Run.runFrom_logged, Settings.load_of_alone alone,
      Host.deliverAll_of_unconfigured unconfigured]
  unfold setUp
  rw [runFrom_bind_of_ok (runFrom_get _), runFrom_bind_of_ok loaded,
    runFrom_bind_of_ok configured, runFrom_pure]

/-- A host with the description of one class, and with the bundled settings. -/
def describedHost : Host where
  files := [(["w".toList], .directory),
    (["w".toList, "api.json".toList],
      .file "\x7b\"classes\": [\x7b\"name\": \"Object\"\x7d]\x7d")]
  workingDirectory := ["w".toList]
  homes := []
  settingsVariable := none
  defaultSettings := some Settings.bundledText
  checkoutSettings := none
  output := ""
  errorOutput := ""
  outputIsTerminal := false
  errorOutputIsTerminal := false
  memory := 1000
  now := ⟨2026, 1, 1, 0, 0, 0⟩
  recordTime := 0
  logging := .initial

/-- The host once logging is set up. -/
def loggingHost (level : Int) : Host :=
  { describedHost with logging := {
    handlers := [⟨.output, .number level, false⟩, ⟨.errorOutput, .number Log.Level.error, false⟩]
    libraryLevel := .number Log.Level.debug
    planLevel := Log.Level.notSet
    propagates := false
    settings := some ⟨none, none, none, .number level, .number Log.Level.debug, .bool false,
      .bool false⟩
    revision := 1 } }

def describedRequest (logLevel : Option String) : PlanRequest :=
  ⟨"api.json", [], false, none, none, logLevel⟩

theorem alone_describedHost : Settings.Alone describedHost := ⟨rfl, rfl, rfl, rfl⟩

/-- Whether an outcome is that of binding, and what is bound can be written. -/
def bindsWritable : Except Failure (Except Stop Bindings) → Bool
  | .ok (.ok bindings) => Document.Json.isWritable bindings.document
  | _ => false

theorem exists_of_bindsWritable (alone : Settings.Alone host)
    (unconfigured : host.logging.handlers = []) {logLevel : Option String}
    {settings : Option Log.Settings} {ready : Host}
    (configured : runFrom (Log.configure Settings.bundled (overridesOf logLevel)) host =
      (.ok settings, ready))
    (binds : bindsWritable
      (runFrom (bindConfigured (describedRequest logLevel) Settings.bundled) ready).1 = true) :
    ∃ bindings bound, Document.Json.isWritable bindings.document = true ∧
      runFrom (bindRequested (describedRequest logLevel)) host = (.ok (.ok bindings), bound) ∧
      bound = (runFrom (bindConfigured (describedRequest logLevel) Settings.bundled) ready).2 := by
  have set := runFrom_setUp_of_alone alone unconfigured configured
  have bound : runFrom (bindRequested (describedRequest logLevel)) host =
      runFrom (bindConfigured (describedRequest logLevel) Settings.bundled) ready :=
    runFrom_bind_of_ok set _
  rw [bound]
  unfold bindsWritable at binds
  split at binds
  · rename_i bindings outcome
    exact ⟨bindings, _, binds, Prod.ext outcome rfl, rfl⟩
  · cases binds

theorem consoleLevel_described :
    (describedRequest (some "ERROR")).consoleLevel describedHost =
      .ok (.number Log.Level.error) := by
  change ((Settings.load describedHost none).outcome >>= _) = _
  rw [Settings.load_of_alone alone_describedHost]
  with_unfolding_all rfl

theorem plan_prints_document_only :
    ∃ after, run ["plan", "api.json", "--log-level", "ERROR"] describedHost = (.status 0, after) ∧
      ∃ bindings : Bindings, after.output = Document.Json.writeFile bindings.document ∧
        Document.Json.read after.output = .ok bindings.document := by
  have configured : runFrom (Log.configure Settings.bundled (overridesOf (some "ERROR")))
      describedHost = (.ok (loggingHost Log.Level.error).logging.settings,
        loggingHost Log.Level.error) := by
    with_unfolding_all rfl
  have parsed : read ["plan", "api.json", "--log-level", "ERROR"] =
      .ok (.plan (describedRequest (some "ERROR"))) := by
    with_unfolding_all rfl
  have ⟨_, _, writable, binding, _⟩ :=
    exists_of_bindsWritable alone_describedHost rfl configured (by decide +kernel)
  have ⟨after, ended, _⟩ := run_of_bindRequested parsed rfl binding writable
  have ⟨bindings, _, _, readBack, _, fresh, _⟩ := plan_prints_document parsed rfl ended
  have ⟨level, decided, _, silent⟩ := fresh rfl
  have isError : level = .number Log.Level.error :=
    Except.ok.inj (decided.symm.trans consoleLevel_described)
  have only : after.output = Document.Json.writeFile bindings.document := by
    rw [silent (by rw [isError]; decide)]
    exact String.empty_append
  refine ⟨after, ended, bindings, only, ?_⟩
  rw [only]
  exact readBack

/-- A text that begins as a date does is no document. -/
theorem read_dated (rest : String) :
    Document.Json.read ("1970-" ++ rest) = .error .malformedJson := by
  rw [Document.Json.read, String.toList_append]
  with_unfolding_all rfl

theorem plan_prints_log_line :
    ∃ after, run ["plan", "api.json"] describedHost = (.status 0, after) ∧
      ∀ document, Document.Json.read after.output ≠ .ok document := by
  have configured : runFrom (Log.configure Settings.bundled (overridesOf none)) describedHost =
      (.ok (loggingHost Log.Level.info).logging.settings, loggingHost Log.Level.info) := by
    with_unfolding_all rfl
  have parsed : read ["plan", "api.json"] = .ok (.plan (describedRequest none)) := by
    with_unfolding_all rfl
  have ⟨_, bound, writable, binding, same⟩ :=
    exists_of_bindsWritable alone_describedHost rfl configured (by decide +kernel)
  have logged : bound.output = "1970-" ++ ("01-01 00:00:00 | INFO     | gdmarshal.binder:0 | " ++
      "Bound Object: 0 plan(s), 0 virtual, 0 skipped\n") := by
    rw [same]
    decide +kernel
  have ⟨after, ended, printed⟩ := run_of_bindRequested parsed rfl binding writable
  refine ⟨after, ended, ?_⟩
  intro document isRead
  rw [printed, logged, String.append_assoc, read_dated] at isRead
  cases isRead

end Command

end EngineBridge
