import EngineBridge.Proofs.Log.Sinks

/-!
What is left when setting up logging fails.

Setting up is not undone when a later step fails. Main statement: a failure leaves the settings and
the level of the logger of decisions as they are, but where only the files could not be put in place,
the handlers of the streams are there; so after any calls handlers are in place if one of the
configurations could be read, and there are settings if one of the calls succeeded.
-/

namespace EngineBridge.Log

variable {config : Document} {overrides : Overrides} {host after : Host} {failure : Failure}

/-- What is there after a call that failed. -/
inductive Leaves (config : Document) (overrides : Overrides) (host : Host) : Host → Prop
  | unread (failure : Failure)
      (unreadable : readConfiguration host.directoryPath config overrides = .error failure) :
      Leaves config overrides host host
  /-- The handlers of the streams are in place, and that of the text log at most. -/
  | streams (reading : Reading)
      (read : readConfiguration host.directoryPath config overrides = .ok reading)
      (named : reading.directory.isSome) (files : FileTree) (path : Option String) :
      Leaves config overrides host ((reading.streaming host).filing reading.fileLevel files
        (host.logSinks path none))

theorem leaves_of_configure
    (ran : runFrom (configure config overrides) host = (.error failure, after)) :
    Leaves config overrides host after := by
  have configured := configures_configure config overrides host
  rw [ran] at configured
  cases configured with
  | unread _ failure unreadable => exact .unread failure unreadable
  | unfiled _ reading read failure after filed =>
      cases filed with
      | unmade named _ files => exact .streams reading read named files none
      | textOnly named _ path files => exact .streams reading read named files (some path)

/-- The settings and the level of the logger of decisions are as they were. -/
theorem Leaves.settings (leaves : Leaves config overrides host after) :
    after.logging.settings = host.logging.settings ∧
      after.logging.planLevel = host.logging.planLevel ∧
      after.logging.revision = host.logging.revision := by
  cases leaves with
  | unread => exact ⟨rfl, rfl, rfl⟩
  | streams => exact ⟨rfl, rfl, rfl⟩

/-- Where the configuration cannot be read, nothing has changed. -/
theorem Leaves.eq_of_unreadable (leaves : Leaves config overrides host after)
    (unreadable : (readConfiguration host.directoryPath config overrides).isOk = false) :
    after = host := by
  cases leaves with
  | unread => rfl
  | streams reading read named files path =>
      rw [read] at unreadable
      cases unreadable

/-- Once a configuration could be read, handlers are in place whether the call succeeds or not. -/
theorem isConfigured_configure (config : Document) (overrides : Overrides) (host : Host) :
    (runFrom (configure config overrides) host).2.logging.isConfigured = true ↔
      host.logging.isConfigured = true ∨
        (readConfiguration host.directoryPath config overrides).isOk = true := by
  have configured := configures_configure config overrides host
  rcases ran : runFrom (configure config overrides) host with ⟨outcome, after⟩
  rw [ran] at configured
  cases configured with
  | kept kept =>
      have isConfigured := (Bool.and_eq_true _ _ ▸ kept).1
      simp [isConfigured]
  | unread _ failure unreadable => simp [unreadable, Except.isOk, Except.toBool]
  | unfiled _ reading read failure after filed =>
      obtain ⟨tree, sinks, same, _⟩ := filed.exists_filing
      rw [same]
      simp [read, Except.isOk, Except.toBool, Routing.isConfigured, Host.filing, Reading.streaming,
        Reading.streams]
  | done _ reading read textPath eventPath after filed =>
      obtain ⟨tree, sinks, same, _⟩ := filed.exists_filing
      rw [same]
      simp [read, Except.isOk, Except.toBool, Routing.isConfigured, Host.filing, Reading.streaming,
        Reading.streams, Settings.inForce]

/-- Settings are there once a call has given some. -/
theorem isSome_settings_configure (config : Document) (overrides : Overrides) (host : Host) :
    (runFrom (configure config overrides) host).2.logging.settings.isSome = true ↔
      host.logging.settings.isSome = true ∨
        ∃ settings, (runFrom (configure config overrides) host).1 = .ok (some settings) := by
  have configured := configures_configure config overrides host
  rcases ran : runFrom (configure config overrides) host with ⟨outcome, after⟩
  rw [ran] at configured
  cases configured with
  | kept kept => simp [Option.isSome_iff_exists]
  | unread _ failure unreadable => simp
  | unfiled _ reading read failure after filed =>
      rw [(leaves_of_configure ran).settings.1]
      simp
  | done _ reading read textPath eventPath after filed => simp [Settings.inForce]

/-- What is neither in the files nor in the state of logging is left as it is. -/
theorem preserves_configure {τ : Type} {observe : Host → τ}
    (blind : ∀ (host : Host) (files : FileTree) (logging : Routing),
      observe { host with files, logging } = observe host)
    (config : Document) (overrides : Overrides) :
    Preserves observe (configure config overrides) := by
  intro host
  have configured := configures_configure config overrides host
  rcases ran : runFrom (configure config overrides) host with ⟨outcome, after⟩
  rw [ran] at configured
  cases configured with
  | kept => rfl
  | unread => rfl
  | unfiled _ reading read failure after filed =>
      have ⟨tree, sinks, same, _⟩ := filed.exists_filing
      rw [same]
      exact blind host _ _
  | done _ reading read textPath eventPath after filed =>
      have ⟨tree, sinks, same, _⟩ := filed.exists_filing
      rw [same]
      exact blind host _ _

theorem workingDirectory_configure (config : Document) (overrides : Overrides) (host : Host) :
    (runFrom (configure config overrides) host).2.workingDirectory = host.workingDirectory :=
  preserves_configure (fun _ _ _ => rfl) config overrides host

/-- A call that is not to replace the handlers that are in place gives the settings as they are. -/
theorem runFrom_configure_of_isConfigured (keeps : overrides.reconfigure = false)
    (isConfigured : host.logging.isConfigured = true) (config : Document) :
    runFrom (configure config overrides) host = (.ok host.logging.settings, host) := by
  unfold configure
  rw [runFrom_bind_of_ok (runFrom_get host), if_pos (by rw [isConfigured, keeps]; rfl)]
  rfl

/-- A call that sets up logging. -/
structure Call where
  config : Document
  overrides : Overrides

/-- The outcomes of calls one after the other, and the host as it stands afterwards. -/
def configureAll : List Call → Host → List (Except Failure (Option Settings)) × Host
  | [], host => ([], host)
  | call :: rest, host =>
      let (outcome, middle) := runFrom (configure call.config call.overrides) host
      let (outcomes, after) := configureAll rest middle
      (outcome :: outcomes, after)

/-- Whether the configuration of a call can be read in a host. -/
def Call.IsReadable (call : Call) (host : Host) : Prop :=
  (readConfiguration host.directoryPath call.config call.overrides).isOk = true

theorem isConfigured_configureAll (calls : List Call) (host : Host) :
    (configureAll calls host).2.logging.isConfigured = true ↔
      host.logging.isConfigured = true ∨ ∃ call ∈ calls, call.IsReadable host := by
  induction calls generalizing host with
  | nil => simp [configureAll]
  | cons call rest induction =>
      have first := isConfigured_configure call.config call.overrides host
      have later := induction (runFrom (configure call.config call.overrides) host).2
      have same (other : Call) : other.IsReadable
          (runFrom (configure call.config call.overrides) host).2 ↔ other.IsReadable host := by
        unfold Call.IsReadable Host.directoryPath
        rw [workingDirectory_configure]
      simp only [same] at later
      rw [configureAll, later, first, or_assoc]
      simp only [List.mem_cons, exists_eq_or_imp]
      rfl

theorem isSome_settings_configureAll (calls : List Call) (host : Host) :
    (configureAll calls host).2.logging.settings.isSome = true ↔
      host.logging.settings.isSome = true ∨
        ∃ settings, .ok (some settings) ∈ (configureAll calls host).1 := by
  induction calls generalizing host with
  | nil => simp [configureAll]
  | cons call rest induction =>
      have first := isSome_settings_configure call.config call.overrides host
      have later := induction (runFrom (configure call.config call.overrides) host).2
      rw [configureAll, later, first, or_assoc]
      simp only [List.mem_cons, exists_or, @eq_comm _ (Except.ok (some _))]

/-- A call that fails keeps the settings that were in force, and it keeps all the rest where the
configuration cannot be read, but not always the handlers. From a fresh state on, handlers are in
place if the configuration of some call could be read, and settings are there if some call gave
them; where there are handlers but no settings, a call that is not to replace them gives none. -/
theorem failed_configuration (host : Host) (config : Document) (overrides : Overrides) :
    (∀ (failure : Failure) (after : Host),
      runFrom (configure config overrides) host = (.error failure, after) →
        Leaves config overrides host after ∧
        ((readConfiguration host.directoryPath config overrides).isOk = false → after = host) ∧
        after.logging.settings = host.logging.settings ∧
        after.logging.planLevel = host.logging.planLevel) ∧
      ∀ calls : List Call, host.logging = .initial →
        ((configureAll calls host).2.logging.isConfigured = true ↔
          ∃ call ∈ calls, call.IsReadable host) ∧
        ((configureAll calls host).2.logging.settings.isSome = true ↔
          ∃ settings, .ok (some settings) ∈ (configureAll calls host).1) ∧
        (overrides.reconfigure = false →
          (configureAll calls host).2.logging.isConfigured = true →
          runFrom (configure config overrides) (configureAll calls host).2 =
            (.ok (configureAll calls host).2.logging.settings, (configureAll calls host).2)) := by
  refine ⟨?_, ?_⟩
  · intro failure after ran
    have leaves := leaves_of_configure ran
    exact ⟨leaves, leaves.eq_of_unreadable, leaves.settings.1, leaves.settings.2.1⟩
  · intro calls fresh
    have configured := isConfigured_configureAll calls host
    have given := isSome_settings_configureAll calls host
    rw [fresh] at configured given
    refine ⟨by simpa [Routing.initial, Routing.isConfigured] using configured,
      by simpa [Routing.initial] using given, ?_⟩
    intro keeps isConfigured
    exact runFrom_configure_of_isConfigured keeps isConfigured config

/-- A configuration whose text log is in a directory that is not there. -/
def unmadeConfig : Document :=
  .table [("logging", .table [("to_file", .bool true), ("filename_pattern", .text "b/a.log")])]

theorem failed_configuration_of_unmade :
    ∃ after, runFrom (configure unmadeConfig Overrides.none) emptyHost =
        (.error .fileNotFound, after) ∧
      Leaves unmadeConfig Overrides.none emptyHost after ∧
      (configureAll [⟨unmadeConfig, Overrides.none⟩] emptyHost).2.logging.isConfigured = true := by
  have failed : (runFrom (configure unmadeConfig Overrides.none) emptyHost).1 =
      .error .fileNotFound := by
    with_unfolding_all rfl
  have ⟨after, ran⟩ : ∃ after, runFrom (configure unmadeConfig Overrides.none) emptyHost =
      (.error .fileNotFound, after) := ⟨_, Prod.ext failed rfl⟩
  have ⟨kept, reached⟩ := failed_configuration emptyHost unmadeConfig Overrides.none
  have ⟨leaves, _⟩ := kept _ _ ran
  have ⟨configured, _⟩ := reached [⟨unmadeConfig, Overrides.none⟩] rfl
  have readable : Call.IsReadable ⟨unmadeConfig, Overrides.none⟩ emptyHost := by
    with_unfolding_all rfl
  exact ⟨after, ran, leaves, configured.mpr ⟨_, List.mem_singleton_self _, readable⟩⟩

/-- A first call that fails in its files leaves handlers without settings, and the call after it
gives none. -/
theorem handlers_remain_without_settings :
    ∃ after, runFrom (configure unmadeConfig Overrides.none) emptyHost =
        (.error .fileNotFound, after) ∧
      emptyHost.logging.isConfigured = false ∧ after.logging.isConfigured = true ∧
      after.logging.settings = none ∧ after.logging.propagates ≠ emptyHost.logging.propagates ∧
      after.logging.libraryLevel ≠ emptyHost.logging.libraryLevel ∧
      runFrom (configure unmadeConfig Overrides.none) after = (.ok none, after) :=
  ⟨_, by with_unfolding_all rfl, rfl, by with_unfolding_all rfl, by with_unfolding_all rfl,
    by decide +kernel, by decide +kernel, by with_unfolding_all rfl⟩

end EngineBridge.Log
