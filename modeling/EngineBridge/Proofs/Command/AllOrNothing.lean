import EngineBridge.Proofs.Command.Selection
import EngineBridge.Proofs.Log.LogFiles

/-!
All of the output, or nothing of it.

Everything is bound before anything is written. Main statement: a run of `plan` that does not end well
changes no file but its log files and prints nothing but log lines, unless the document breaks off at
an integer that is too long to be written; and one that ends well has put all that was selected into
the file that it names, unless that is a log file, and has changed no other.
-/

namespace EngineBridge

namespace Run

variable {path : String} {document : Document} {host : Host}

/-- How writing a document to a file ends. Either the file cannot be made, or it holds as much of the
document as can be written. -/
inductive Writes (path : String) (document : Document) (host : Host) :
    Except Failure Unit × Host → Prop
  | unmade (failure : Failure) (after : Host) (changes : host.ChangesOnly (fun _ => False) after) :
      Writes path document host (.error failure, after)
  | written {place : Place} (after : Host)
      (found : after.files.find after.workingDirectory path = .ok place)
      (text : after.files.file? place = some (Document.Json.writeFile document))
      (changes : host.ChangesOnly (· = place) after) :
      Writes path document host (runFrom (requireWritable document) after)

theorem writes_writeFile (path : String) (document : Document) (host : Host) :
    Writes path document host (runFrom (do
      changeFiles fun host =>
        host.files.write host.workingDirectory path (Document.Json.writeFile document)
      requireWritable document) host) := by
  rw [runFrom_bind, runFrom_changeFiles]
  cases wrote : host.files.write host.workingDirectory path (Document.Json.writeFile document) with
  | error failure => exact .unmade failure host (.refl _ host)
  | ok files =>
      have ⟨place, found, changes, text⟩ := FileTree.changesOnly_update wrote
      have written : host.ChangesOnly (· = place) { host with files } :=
        Host.changesOnly_files (changes.mono fun _ inside => .inl inside)
      exact .written { host with files } (changes.finds _ _ _ found) text written

/-- What was done before does not matter, if it changed log files only. -/
theorem Writes.after_changes {ready : Host} {ended : Except Failure Unit × Host}
    (writes : Writes path document ready ended)
    (changes : host.ChangesOnly (fun _ => False) ready) : Writes path document host ended := by
  cases writes with
  | unmade failure after unmade => exact .unmade failure after (changes.trans unmade)
  | written after found text written =>
      exact .written after found text ((changes.mono fun _ none => none.elim).trans written)

theorem writes_writeDocument (path : String) (document : Document) (host : Host) :
    Writes path document host (runFrom (writeDocument path document) host) := by
  unfold writeDocument
  dsimp only
  split
  · rcases made : runFrom (changeFiles fun host =>
        host.files.makeDirectories host.workingDirectory (Path.directory path)) host
      with ⟨outcome, ready⟩
    have making : host.ChangesOnly (fun _ => False) ready :=
      (makeDirectories_changesOnly (Path.directory path)).relates made
    cases outcome with
    | error failure =>
        rw [runFrom_bind_of_error made]
        exact .unmade failure ready making
    | ok =>
        rw [runFrom_bind_of_ok made]
        exact (writes_writeFile path document ready).after_changes making
  · exact writes_writeFile path document host

end Run

namespace Command

open BindingCall (Returns)

variable {request : PlanRequest} {host after : Host}

theorem setUp_changesOnly {places : Place → Prop} (settingsFile logLevel : Option String) :
    Advances (Host.ChangesOnly places) (setUp settingsFile logLevel) := by
  refine .bind .get fun host => ?_
  refine .bind (Run.changesOnly_of_delivers (Run.logged_delivers _)) fun config => ?_
  exact .bind (Log.configure_changesOnly rfl config) fun _ => .pure _

/-- Up to the point where everything is bound, nothing changes but log files. -/
theorem bindRequested_changesOnly {places : Place → Prop} (request : PlanRequest) :
    Advances (Host.ChangesOnly places) (bindRequested request) :=
  .bind (setUp_changesOnly _ _) fun config =>
    Run.changesOnly_of_delivers (bindConfigured_delivers request config)

/-- What is there after a document was not written to its end: its beginning, on the standard output
or in the file that the document was to go to. -/
inductive Begins (output : Option String) (document : Document) (host : Host) : Host → Prop
  | printed (unnamed : output.getD "" = "") : Begins output document host
      { host with output := host.output ++ Document.Json.writeFile document }
  | written {path : String} {place : Place} {after : Host} (named : output = some path)
      (found : after.files.find after.workingDirectory path = .ok place)
      (beginning : after.files.file? place = some (Document.Json.writeFile document))
      (changes : host.ChangesOnly (· = place) after) : Begins output document host after

/-- What a run that binds leaves, where writing fails. -/
theorem writeBindings_fails {output : Option String} {bindings : Bindings} {failure : Failure}
    (ran : runFrom (writeBindings output bindings) host = (.error failure, after)) :
    host.ChangesOnly (fun _ => False) after ∨
      Document.Json.isWritable bindings.document = false ∧ failure = .unreadable ∧
        Begins output bindings.document host after := by
  have unwritable {ready : Host}
      (refused : runFrom (Run.requireWritable bindings.document) ready = (.error failure, after)) :
      Document.Json.isWritable bindings.document = false ∧ failure = .unreadable ∧
        after = ready := by
    unfold Run.requireWritable at refused
    split at refused
    · cases refused
    · next tooLong =>
        cases refused
        exact ⟨eq_false_of_ne_true tooLong, rfl, rfl⟩
  by_cases unnamed : output.getD "" = ""
  · rw [writeBindings_of_unnamed unnamed] at ran
    rcases runFrom_bind_eq_error ran with printing | ⟨_, printed, printing, refused⟩
    · cases printing
    · have ⟨tooLong, isUnreadable, same⟩ := unwritable refused
      rw [same]
      cases printing
      exact .inr ⟨tooLong, isUnreadable, .printed unnamed⟩
  · cases output with
    | none => exact absurd rfl unnamed
    | some path =>
        have named : path ≠ "" := unnamed
        rw [writeBindings_of_named named] at ran
        rcases runFrom_bind_eq_error ran with writing | ⟨_, written, _, logging⟩
        · have writes := Run.writes_writeDocument path bindings.document host
          generalize ended : runFrom (Run.writeDocument path bindings.document) host = result
            at writes
          rw [ended] at writing
          cases writes with
          | unmade other last changes =>
              cases writing
              exact .inl changes
          | written last found text changes =>
              have ⟨tooLong, isUnreadable, same⟩ := unwritable writing
              rw [same]
              exact .inr ⟨tooLong, isUnreadable, .written rfl found text changes⟩
        · cases logging

/-- The file that a run names holds the document, if it is no log file. -/
theorem writeBindings_writes {path : String} (named : path ≠ "") {bindings : Bindings}
    (ran : runFrom (writeBindings (some path) bindings) host = (.ok (), after)) :
    Document.Json.isWritable bindings.document = true ∧ ∃ place,
      after.files.find after.workingDirectory path = .ok place ∧
        host.ChangesOnly (· = place) after ∧
        (¬after.IsLog place →
          after.files.file? place = some (Document.Json.writeFile bindings.document)) := by
  rw [writeBindings_of_named named] at ran
  have ⟨_, written, writing, logging⟩ := exists_of_runFrom_bind ran
  have writes := Run.writes_writeDocument path bindings.document host
  rw [writing] at writes
  generalize ended : ((.ok (), written) : Except Failure Unit × Host) = result at writes
  cases writes with
  | unmade => cases ended
  | written last found text changes =>
      have ⟨writable, same⟩ := Run.of_runFrom_requireWritable ended.symm
      subst same
      cases logging
      have logged : written.ChangesOnly (fun _ => False) (written.deliver _) :=
        Host.changesOnly_deliver written (wroteRecord bindings.done.length path)
      refine ⟨writable, _, ?_, changes.trans (logged.mono fun _ none => none.elim), ?_⟩
      · rw [logged.directory]
        exact logged.files.finds _ _ _ found
      · intro noLog
        rw [logged.file?_eq id noLog]
        exact text

/-- Whether all that a request asks for is bound, and its document breaks off. -/
inductive PlanRequest.BreaksOff (request : PlanRequest) (host : Host) : Host → Prop
  | mk {bindings : Bindings} {bound after : Host}
      (binding : runFrom (bindRequested request) host = (.ok (.ok bindings), bound))
      (changes : host.ChangesOnly (fun _ => False) bound)
      (tooLong : Document.Json.isWritable bindings.document = false)
      (leaves : Begins request.output bindings.document bound after) :
      request.BreaksOff host after

/-- What a run leaves that fails, or that stops at a class that is not described. -/
theorem plan_fails {outcome : Except Failure (Except Stop Unit)}
    (ran : runFrom (plan request) host = (outcome, after)) (notWell : outcome ≠ .ok (.ok ())) :
    host.ChangesOnly (fun _ => False) after ∨
      outcome = .error .unreadable ∧ request.BreaksOff host after := by
  rcases binding : runFrom (bindRequested request) host with ⟨bound, ready⟩
  have changes : host.ChangesOnly (fun _ => False) ready :=
    (bindRequested_changesOnly request).relates binding
  unfold plan at ran
  rw [runFrom_bind, binding] at ran
  cases bound with
  | error failure =>
      cases ran
      exact .inl changes
  | ok bound =>
      cases bound with
      | error stop =>
          cases ran
          exact .inl changes
      | ok bindings =>
          change runFrom (writeBindings request.output bindings >>= _) ready = _ at ran
          rcases wrote : runFrom (writeBindings request.output bindings) ready with ⟨written, last⟩
          rw [runFrom_bind, wrote] at ran
          cases written with
          | ok =>
              cases ran
              exact absurd rfl notWell
          | error failure =>
              cases ran
              rcases writeBindings_fails wrote with unmade | ⟨tooLong, isUnreadable, leaves⟩
              · exact .inl (changes.trans unmade)
              · rw [isUnreadable]
                exact .inr ⟨rfl, .mk binding changes tooLong leaves⟩

theorem complain_changesOnly (program complaint : String) (host : Host) :
    host.ChangesOnly (fun _ => False) (complain program complaint host) where
  directory := rfl
  handlers _ inside := inside
  files := .refl _ _
  printed := Host.prints_of_output_eq rfl

/-- What a request leaves that does not end well. -/
theorem runRequest_fails {ending : Ending} (notWell : ending ≠ .status 0)
    (ended : runRequest (.plan request) host = (ending, after)) :
    host.ChangesOnly (fun _ => False) after ∨
      ending = .failed .unreadable ∧ request.BreaksOff host after := by
  rw [runRequest_plan] at ended
  rcases ran : runFrom (plan request) host with ⟨outcome, last⟩
  rw [ran] at ended
  cases outcome with
  | ok outcome =>
      cases outcome with
      | ok =>
          cases ended
          exact absurd rfl notWell
      | error stop =>
          cases ended
          rcases plan_fails ran nofun with changes | ⟨isUnreadable, _⟩
          · exact .inl (changes.trans (complain_changesOnly _ _ last))
          · cases isUnreadable
  | error failure =>
      rcases plan_fails ran nofun with changes | ⟨isUnreadable, breaksOff⟩
      · dsimp only at ended
        split at ended
        · cases ended
          exact .inl (changes.trans (Host.changesOnly_deliver last _))
        · cases ended
          exact .inl changes
      · cases isUnreadable
        cases ended
        exact .inr ⟨rfl, breaksOff⟩

/-- Whether all that a request selects is bound in its order, and the file at a path holds the
document of it, if it is no log file. Nothing else has changed but log files. -/
inductive PlanRequest.Fulfilled (request : PlanRequest) (path : String) (host : Host) : Host → Prop
  | mk {config : Document} {ready loaded after : Host} {api : ApiDescription}
      {compiler : PlanCompiler} {calls : List BindingCall} {bindings : Bindings} {place : Place}
      (set : runFrom (setUp request.settingsFile request.logLevel) host = (.ok config, ready))
      (loading : runFrom (loadApi request.apiFile) ready = (.ok api, loaded))
      (made : compilerFor config api = .ok compiler) (selects : request.Selects api calls)
      (returns : Returns compiler calls .empty bindings.registrar bindings.done)
      (found : after.files.find after.workingDirectory path = .ok place)
      (changes : host.ChangesOnly (· = place) after)
      (holds : ¬after.IsLog place → ∃ text, after.files.file? place = some text ∧
        Document.Json.read text = .ok bindings.document) :
      request.Fulfilled path host after

theorem fulfilled_of_runFrom_plan {path : String} (named : request.output = some path)
    (notEmpty : path ≠ "") (ran : runFrom (plan request) host = (.ok (.ok ()), after)) :
    request.Fulfilled path host after := by
  have ⟨bindings, bound, binding, wrote⟩ := of_runFrom_plan ran
  have ⟨config, ready, api, loaded, compiler, calls, set, loading, made, selects, returns⟩ :=
    returns_of_bindRequested binding
  rw [named] at wrote
  have ⟨writable, place, found, written, holds⟩ := writeBindings_writes notEmpty wrote
  have changes : host.ChangesOnly (· = place) bound :=
    (bindRequested_changesOnly request).relates binding
  refine .mk set loading made selects returns found (changes.trans written) fun noLog => ?_
  exact ⟨_, holds noLog, read_bindings (isPlain_bindRequested binding) writable⟩

/-- A run that does not end well changes log files and prints log lines only, unless what it binds
holds an integer that is too long to be written; then the beginning of the document is left. A run
that ends well and names a file has bound all that was selected, in its order, and the file holds the
document of these bindings, if it is no log file. No other file but log files is changed. -/
theorem plan_all_or_nothing {arguments : List String} {ending : Ending}
    (isPlan : ∀ other, read arguments ≠ .ok (.classify other))
    (ended : run arguments host = (ending, after)) :
    (ending ≠ .status 0 → host.ChangesOnly (fun _ => False) after ∨
      ∃ request, read arguments = .ok (.plan request) ∧ ending = .failed .unreadable ∧
        request.BreaksOff host after) ∧
    ∀ request path, read arguments = .ok (.plan request) → request.output = some path →
      path ≠ "" → ending = .status 0 → request.Fulfilled path host after := by
  constructor
  · intro notWell
    rw [run] at ended
    cases parsed : read arguments with
    | error refusal =>
        rw [parsed] at ended
        cases refusal with
        | help =>
            cases ended
            exact absurd rfl notWell
        | usage program complaint =>
            cases ended
            exact .inl (complain_changesOnly program complaint host)
    | ok request =>
        rw [parsed] at ended
        cases request with
        | classify other => exact absurd parsed (isPlan other)
        | plan request =>
            rcases runRequest_fails notWell ended with changes | ⟨isUnreadable, breaksOff⟩
            · exact .inl changes
            · exact .inr ⟨request, rfl, isUnreadable, breaksOff⟩
  · rintro request path parsed named notEmpty rfl
    exact fulfilled_of_runFrom_plan named notEmpty (of_run_plan parsed ended)

/-- What is left of `plan` once it is known what comes of loading the settings. -/
def planLoaded (request : PlanRequest) (loaded : Except Failure Document) :
    Run (Except Stop Unit) := do
  let config ← loaded
  let _ ← Log.configure config (overridesOf request.logLevel)
  match ← bindConfigured request config with
  | .error stop => return .error stop
  | .ok bindings => do
      writeBindings request.output bindings
      return .ok ()

/-- Where no handler is there yet, what loading the settings has to say is lost. -/
theorem runFrom_plan_of_unconfigured (unconfigured : host.logging.handlers = []) :
    runFrom (plan request) host =
      runFrom (planLoaded request (Settings.load host request.settingsFile).outcome) host := by
  have loading : runFrom (Run.logged (Settings.load host request.settingsFile)) host =
      ((Settings.load host request.settingsFile).outcome, host) := by
    rw [Run.runFrom_logged, Host.deliverAll_of_unconfigured unconfigured]
  rw [plan, bindRequested, planLoaded, runFrom_bind, runFrom_bind, setUp,
    runFrom_bind_of_ok (runFrom_get host), runFrom_bind, loading, runFrom_bind, runFrom_lift]
  cases (Settings.load host request.settingsFile).outcome with
  | error failure => rfl
  | ok config =>
      dsimp only
      rw [runFrom_bind, runFrom_bind]
      rcases runFrom (Log.configure config (overridesOf request.logLevel)) host with
        ⟨outcome, ready⟩
      cases outcome with
      | error failure => rfl
      | ok => exact (runFrom_bind (bindConfigured request config) _ ready).symm

/-- What becomes of a request once it is known what comes of loading the settings. -/
def runLoaded (request : PlanRequest) (loaded : Except Failure Document) (host : Host) :
    Ending × Host :=
  match runFrom (planLoaded request loaded) host with
  | (.ok (.ok ()), host) => (.status 0, host)
  | (.ok (.error (.unknownClass name)), host) =>
      (.status usageStatus, complain programName ("Unknown class: " ++ name) host)
  | (.error failure, host) =>
      if failure.isReported then
        (.status 1, host.deliver (failureRecord (failure.message.getD "")))
      else (.failed failure, host)

theorem run_of_unconfigured {arguments : List String} {loaded : Except Failure Document}
    (parsed : read arguments = .ok (.plan request)) (unconfigured : host.logging.handlers = [])
    (outcome : (Settings.load host request.settingsFile).outcome = loaded) :
    run arguments host = runLoaded request loaded host := by
  rw [run, parsed]
  change runRequest (.plan request) host = _
  rw [runRequest_plan, runFrom_plan_of_unconfigured unconfigured, outcome]
  rfl

/-- Whether a run ends with a status, in a host that passes a check. -/
def exitsIn (status : Nat) (check : Host → Bool) : Ending × Host → Bool
  | (.status code, after) => decide (code = status) && check after
  | (.failed _, _) => false

theorem exists_of_exitsIn {status : Nat} {check : Host → Bool} {ended : Ending × Host}
    (exits : exitsIn status check ended = true) :
    ∃ after, ended = (.status status, after) ∧ check after = true := by
  unfold exitsIn at exits
  split at exits
  · have ⟨same, passes⟩ := Bool.and_eq_true_iff.mp exits
    rw [of_decide_eq_true same]
    exact ⟨_, rfl, passes⟩
  · cases exits

/-- Whether a run breaks off at an integer, in a host that passes a check. -/
def breaksOffIn (check : Host → Bool) : Ending × Host → Bool
  | (.failed .unreadable, after) => check after
  | _ => false

theorem exists_of_breaksOffIn {check : Host → Bool} {ended : Ending × Host}
    (breaks : breaksOffIn check ended = true) :
    ∃ after, ended = (.failed .unreadable, after) ∧ check after = true := by
  unfold breaksOffIn at breaks
  split at breaks
  · exact ⟨_, rfl, breaks⟩
  · cases breaks

/-- Whether no handler writes to a file. -/
def logsToStreams (host : Host) : Bool :=
  host.logging.handlers.all fun handler => handler.sink.path?.isNone

theorem not_isLog_of_logsToStreams (streams : logsToStreams host = true) (place : Place) :
    ¬host.IsLog place := by
  rintro ⟨handler, inside, path, writes, _⟩
  have noFile := List.all_eq_true.mp streams handler inside
  rw [writes] at noFile
  cases noFile

/-- A request to write what is described to a file. -/
def writingRequest (path : String) (classNames : List String) : PlanRequest :=
  { describedRequest none with output := some path, classNames }

theorem not_classify_of_plan {arguments : List String}
    (parsed : read arguments = .ok (.plan request)) (other : ClassifyRequest) :
    read arguments ≠ .ok (.classify other) := by
  rw [parsed]
  exact nofun

/-- A class that is not described stops a run before anything is written, although another one is
already bound. Without it the file holds the document of what is bound. -/
theorem plan_all_or_nothing_of_described :
    (∃ after, run ["plan", "api.json", "--class", "Object", "--class", "Missing",
        "--output", "plans.json"] describedHost = (.status usageStatus, after) ∧
      describedHost.ChangesOnly (fun _ => False) after) ∧
    ∃ after place text, run ["plan", "api.json", "--output", "plans.json"] describedHost =
        (.status 0, after) ∧
      after.files.find after.workingDirectory "plans.json" = .ok place ∧
      describedHost.ChangesOnly (· = place) after ∧ after.files.file? place = some text ∧
      ∃ bindings : Bindings, Document.Json.read text = .ok bindings.document := by
  have unconfigured : describedHost.logging.handlers = [] := rfl
  have loaded : (Settings.load describedHost none).outcome = .ok Settings.bundled := by
    rw [Settings.load_of_alone alone_describedHost]
  constructor
  · have parsed : read ["plan", "api.json", "--class", "Object", "--class", "Missing",
        "--output", "plans.json"] =
          .ok (.plan (writingRequest "plans.json" ["Object", "Missing"])) := by
      with_unfolding_all rfl
    have ends : exitsIn usageStatus (fun _ => true)
        (runLoaded (writingRequest "plans.json" ["Object", "Missing"]) (.ok Settings.bundled)
          describedHost) = true := by
      decide +kernel
    rw [← run_of_unconfigured parsed unconfigured loaded] at ends
    have ⟨after, ended, _⟩ := exists_of_exitsIn ends
    have ⟨fails, _⟩ := plan_all_or_nothing (not_classify_of_plan parsed) ended
    rcases fails nofun with changes | ⟨_, _, broken, _⟩
    · exact ⟨after, ended, changes⟩
    · cases broken
  · have parsed : read ["plan", "api.json", "--output", "plans.json"] =
        .ok (.plan (writingRequest "plans.json" [])) := by
      with_unfolding_all rfl
    have ends : exitsIn 0 logsToStreams
        (runLoaded (writingRequest "plans.json" []) (.ok Settings.bundled) describedHost) =
          true := by
      decide +kernel
    rw [← run_of_unconfigured parsed unconfigured loaded] at ends
    have ⟨after, ended, streams⟩ := exists_of_exitsIn ends
    have ⟨_, writes⟩ := plan_all_or_nothing (not_classify_of_plan parsed) ended
    cases writes _ "plans.json" parsed rfl (by decide) rfl with
    | mk _ _ _ _ _ found changes holds =>
        have ⟨text, isText, isRead⟩ := holds (not_isLog_of_logsToStreams streams _)
        exact ⟨after, _, text, ended, found, changes, isText, _, isRead⟩

/-- A host with a description and with settings of its own. -/
def settledHost (description settings : String) : Host :=
  { describedHost with files := [(["w".toList], .directory),
    (["w".toList, "api.json".toList], .file description),
    (["w".toList, "gdmarshal.toml".toList], .file settings)] }

theorem aloneWith_settledHost (description settings : String) :
    Settings.AloneWith (settledHost description settings) settings :=
  ⟨rfl, rfl, rfl, rfl⟩

/-- Settings that give a type a size of thousands of digits. -/
def hugeSize : List Char :=
  "[types.size_overrides]\nHuge = 0x".toList ++ (List.replicate 3600 'f' ++ ['\n'])

/-- A host with a method that returns a value of this size. -/
def hugeHost : Host :=
  settledHost ("\x7b\"classes\": [\x7b\"name\": \"Object\", \"methods\": [" ++
    "\x7b\"name\": \"f\", \"hash\": 1, \"return_type\": \"Huge\"\x7d]\x7d]\x7d")
    (String.ofList hugeSize)

/-- Settings that give the log file the name of the output. -/
def collidingSettings : String :=
  "[logging]\nto_file = true\nfilename_pattern = \"plans.json\"\n"

def collidingHost : Host :=
  settledHost "\x7b\x7d" collidingSettings

/-- Whether there is a file at a place that no handler writes to. -/
def leavesFile (place : Place) (host : Host) : Bool :=
  logsToStreams host && (host.files.file? place).isSome

/-- Whether a path leads to a file whose text is no document. -/
def leavesNoDocument (path : String) (host : Host) : Bool :=
  match host.files.read host.workingDirectory path with
  | .ok text => !(Document.Json.read text).isOk
  | .error _ => false

set_option maxRecDepth 100000 in
theorem hugeHost_leavesFile :
    breaksOffIn (leavesFile ["w".toList, "plans.json".toList])
      (runLoaded (writingRequest "plans.json" [])
        (Settings.mergedWith Settings.bundled (String.ofList hugeSize)) hugeHost) = true := by
  unfold Settings.mergedWith Document.Toml.read
  rw [@String.toList_ofList hugeSize]
  decide +kernel

theorem collidingHost_leavesNoDocument :
    exitsIn 0 (leavesNoDocument "logs/plans.json")
      (runLoaded (writingRequest "logs/plans.json" [])
        (Settings.mergedWith Settings.bundled collidingSettings) collidingHost) = true := by
  decide +kernel

/-- An integer that is too long leaves a file behind although the run fails, and a log file that is
the output spoils the document although it does not. -/
theorem part_of_document_left_or_spoiled :
    (∃ after, run ["plan", "api.json", "--output", "plans.json"] hugeHost =
        (.failed .unreadable, after) ∧
      ¬hugeHost.ChangesOnly (fun _ => False) after) ∧
    ∃ after text, run ["plan", "api.json", "--output", "logs/plans.json"] collidingHost =
        (.status 0, after) ∧
      after.files.read after.workingDirectory "logs/plans.json" = .ok text ∧
      ∀ document, Document.Json.read text ≠ .ok document := by
  constructor
  · have parsed : read ["plan", "api.json", "--output", "plans.json"] =
        .ok (.plan (writingRequest "plans.json" [])) := by
      with_unfolding_all rfl
    have unconfigured : hugeHost.logging.handlers = [] := rfl
    have loaded : (Settings.load hugeHost none).outcome =
        Settings.mergedWith Settings.bundled (String.ofList hugeSize) :=
      Settings.load_of_aloneWith (aloneWith_settledHost _ _)
    have breaks := hugeHost_leavesFile
    rw [← run_of_unconfigured parsed unconfigured loaded] at breaks
    have ⟨after, ended, leaves⟩ := exists_of_breaksOffIn breaks
    refine ⟨after, ended, fun changes => ?_⟩
    have ⟨streams, made⟩ := Bool.and_eq_true_iff.mp leaves
    have kept := changes.file?_eq id (not_isLog_of_logsToStreams streams
      ["w".toList, "plans.json".toList])
    rw [kept] at made
    cases made
  · have parsed : read ["plan", "api.json", "--output", "logs/plans.json"] =
        .ok (.plan (writingRequest "logs/plans.json" [])) := by
      with_unfolding_all rfl
    have unconfigured : collidingHost.logging.handlers = [] := rfl
    have loaded : (Settings.load collidingHost none).outcome =
        Settings.mergedWith Settings.bundled collidingSettings :=
      Settings.load_of_aloneWith (aloneWith_settledHost _ _)
    have exits := collidingHost_leavesNoDocument
    rw [← run_of_unconfigured parsed unconfigured loaded] at exits
    have ⟨after, ended, leaves⟩ := exists_of_exitsIn exits
    unfold leavesNoDocument at leaves
    split at leaves
    · next text isText =>
        refine ⟨after, text, ended, isText, fun document isRead => ?_⟩
        rw [isRead] at leaves
        cases leaves
    · cases leaves

end Command

end EngineBridge
