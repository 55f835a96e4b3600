import EngineBridge.Proofs.Log.Delivery
import EngineBridge.Proofs.Log.Installed

/-!
What setting up logging does to a host.

Setting up prints nothing. Main statement: handlers that are in place stay, and otherwise the handler
of the standard output has the console level of the configuration.
-/

namespace EngineBridge

namespace Log

/-- Whether the standard output gets records from a threshold on. -/
def Routing.PrintsFrom (threshold : Threshold) (routing : Routing) : Prop :=
  ∀ handler ∈ routing.handlers, handler.sink = .output → handler.threshold = threshold

variable {routing : Routing} {threshold : Threshold} {host : Host}

/-- What is shown is at or above the threshold, and below an error. -/
theorem Routing.PrintsFrom.between (prints : routing.PrintsFrom threshold) {line : String}
    (shown : routing.Shows line) : threshold.level < Level.error := by
  have ⟨handler, inside, record, isOutput, accepted, _⟩ := shown
  have same := prints handler inside isOutput
  simp only [Handler.accepts, isOutput, bne_self_eq_false, Bool.false_or, Bool.and_eq_true,
    decide_eq_true_eq] at accepted
  rw [← same]
  exact Int.lt_of_le_of_lt accepted.1 accepted.2

theorem printsFrom_streaming (reading : Reading) (host : Host) :
    (reading.streaming host).logging.PrintsFrom reading.consoleLevel := by
  intro handler inside isOutput
  rcases List.mem_cons.mp inside with first | second
  · rw [first]
  · rw [List.mem_singleton.mp second] at isOutput
    cases isOutput

/-- The handlers of files print nothing. -/
theorem Routing.PrintsFrom.filing (prints : host.logging.PrintsFrom threshold) (level : Threshold)
    (files : FileTree) {sinks : List Sink} (notOutput : ∀ sink ∈ sinks, sink ≠ .output) :
    (host.filing level files sinks).logging.PrintsFrom threshold := by
  intro handler inside isOutput
  rcases List.mem_append.mp inside with old | new
  · exact prints handler old isOutput
  · have ⟨sink, member, same⟩ := List.mem_map.mp new
    rw [← same] at isOutput
    exact absurd isOutput (notOutput sink member)

/-- The level from which the standard output gets records. -/
def consoleLevel (config : Document) (overrides : Overrides) : Except Failure Threshold := do
  let configured ← (← loggingOf config).fieldOr "console_level" .null
  readLevel Level.info configured overrides.consoleLevel

theorem consoleLevel_of_readConfiguration {directory : String} {config : Document}
    {overrides : Overrides} {reading : Reading}
    (read : readConfiguration directory config overrides = .ok reading) :
    consoleLevel config overrides = .ok reading.consoleLevel := by
  have ⟨logSection, inside, read⟩ := exists_of_bind_eq_ok read
  have ⟨configured, given, read⟩ := exists_of_bind_eq_ok read
  have ⟨console, level, read⟩ := exists_of_bind_eq_ok read
  -- The rest of the configuration is read behind the level.
  iterate 6 obtain ⟨_, _, read⟩ := exists_of_bind_eq_ok read
  cases read
  rw [consoleLevel, inside]
  change (logSection.fieldOr "console_level" .null >>= _) = _
  rw [given]
  exact level

/-- What has been set up stays as it is, and what has not is set up as the configuration says. -/
theorem runFrom_configure {config : Document} {overrides : Overrides} {host after : Host}
    {settings : Option Settings} (keeps : overrides.reconfigure = false)
    (ran : runFrom (configure config overrides) host = (.ok settings, after)) :
    if host.logging.isConfigured then after = host
    else after.output = host.output ∧ ∃ level,
      consoleLevel config overrides = .ok level ∧ after.logging.PrintsFrom level := by
  have configured := configures_configure config overrides host
  rw [ran] at configured
  cases configured with
  | kept kept =>
      rw [keeps, Bool.not_false, Bool.and_true] at kept
      rw [if_pos kept]
  | done replaced reading read textPath eventPath made filed =>
      rw [keeps, Bool.not_false, Bool.and_true] at replaced
      rw [if_neg (ne_true_of_eq_false replaced)]
      have ⟨tree, sinks, same, areFiles⟩ := filed.exists_filing
      subst same
      have notOutput : ∀ sink ∈ sinks, sink ≠ .output := by
        intro sink member isOutput
        have ⟨path, isFile⟩ := areFiles sink member
        simp [isOutput] at isFile
      exact ⟨rfl, reading.consoleLevel, consoleLevel_of_readConfiguration read,
        (printsFrom_streaming reading host).filing reading.fileLevel tree notOutput⟩

end Log

end EngineBridge
