import EngineBridge.Command.Run
import EngineBridge.Proofs.Binding.Written
import EngineBridge.Proofs.Log.Configured

/-!
Binding what a command line asks for.

Main statements: a run that binds prints log lines only, and what it binds can be written as JSON and
read back.
-/

namespace EngineBridge

namespace ApiDescription

/-- The names of all classes are among those that are known. -/
theorem isText_classNames {api : ApiDescription} {config : Document} {known : ClassSet}
    (collected : ClassSet.known (.table api.entries) config = .ok known)
    (texts : ∀ name ∈ known, name.IsText) {names : List Document}
    (listed : api.classNames = .ok names) : ∀ name ∈ names, name.IsText := by
  unfold ClassSet.known at collected
  have ⟨field, fielded, collected⟩ := exists_of_bind_eq_ok collected
  have ⟨entries, members, collected⟩ := exists_of_bind_eq_ok collected
  have ⟨described, inserted, collected⟩ := exists_of_bind_eq_ok collected
  have describedTexts : ∀ name ∈ described, name.IsText := by
    simp only at collected
    split at collected
    · have ⟨types, _, collected⟩ := exists_of_bind_eq_ok collected
      have ⟨extra, _, collected⟩ := exists_of_bind_eq_ok collected
      have ⟨classes, _, collected⟩ := exists_of_bind_eq_ok collected
      have ⟨extended, extending, collected⟩ := exists_of_bind_eq_ok collected
      exact (ClassSet.isText_of_insertAll extending
        (ClassSet.isText_of_insert collected texts).2).2
    · have ⟨extended, kept, collected⟩ := exists_of_bind_eq_ok collected
      cases kept
      exact (ClassSet.isText_of_insert collected texts).2
  have entryTexts := (ClassSet.isText_of_insertAll inserted describedTexts).1
  have ⟨items, itemsListed, named⟩ := exists_of_bind_eq_ok listed
  have same : items = entries := by
    cases fielded
    exact Except.ok.inj (itemsListed.symm.trans members)
  intro name inside
  have ⟨index, found⟩ := List.mem_iff_getElem?.mp inside
  have ⟨entry, here, fieldAt⟩ := (exists_of_mapM_eq_ok named).2 index name found
  apply entryTexts
  apply List.mem_filterMap.mpr
  refine ⟨entry, same ▸ List.mem_of_getElem? here, ?_⟩
  unfold Document.fieldAt at fieldAt
  split at fieldAt
  · split at fieldAt
    · rename_i value
      cases fieldAt
      exact value
    · cases fieldAt
  · cases fieldAt

end ApiDescription

namespace Command

open Document.Json (Keeps)

variable {host after : Host}

/-- The console level of a process that carries out a request and nothing else. -/
def PlanRequest.consoleLevel (request : PlanRequest) (host : Host) : Except Failure Log.Threshold := do
  Log.consoleLevel (← (Settings.load host request.settingsFile).outcome)
    (overridesOf request.logLevel)

/-- Whether JSON keeps all bindings. -/
structure Bindings.IsPlain (bindings : Bindings) : Prop where
  done : ∀ binding ∈ bindings.done, binding.IsPlain
  registrar : ∃ entries, bindings.registrar.Records entries

namespace Bindings

variable {bindings next : Bindings}

theorem isPlain_empty : empty.IsPlain where
  done _ none := absurd none List.not_mem_nil
  registrar := ⟨[], VirtualRegistrar.records_empty⟩

theorem IsPlain.keeps (plain : bindings.IsPlain) (room : Nat) :
    Keeps (room + 8) bindings.document := by
  have ⟨entries, records⟩ := plain.registrar
  have done : Keeps (room + 7) (.array (bindings.done.map ClassBinding.document)) := by
    apply Keeps.array
    intro document inside
    have ⟨binding, member, same⟩ := List.mem_map.mp inside
    rw [← same]
    exact (plain.done binding member).keeps room
  apply Keeps.table
  · simp [Entries.keys]
  · simp [done, VirtualRegistrar.keeps_of_records records]

/-- What is bound in one more call is kept with the rest. -/
theorem isPlain_add {compiler : PlanCompiler} (measured : compiler.IsMeasured)
    (plain : bindings.IsPlain) (call : BindingCall)
    (ran : runFrom (bindings.add (call.perform compiler bindings.registrar)) host =
      (.ok next, after)) : next.IsPlain := by
  have ⟨entries, records⟩ := plain.registrar
  have ⟨result, performed, recorded, _⟩ := BindingCall.perform_leaves compiler records call
  unfold add at ran
  rw [runFrom_bind, Run.runFrom_logged, performed] at ran
  have ⟨binding, middle, returned, ran⟩ := exists_of_runFrom_bind ran
  have ⟨isReturned, _⟩ := of_runFrom_lift returned
  have isPlain := BindResult.isPlain_addMethods measured call.descriptors
    (ClassBinding.isPlain_empty call.className call.kind) performed isReturned
  cases ran
  constructor
  · intro other inside
    rcases List.mem_append.mp inside with old | new
    · exact plain.done other old
    · rw [List.mem_singleton.mp new]
      exact isPlain
  · exact ⟨_, recorded⟩

theorem add_delivers (binding : Logged BindResult) :
    Advances Host.Delivers (bindings.add binding) := by
  refine .bind (Run.logged_delivers binding) fun result => ?_
  exact .bind (.lift _) fun _ => .pure _

end Bindings

theorem bindClasses_delivers (compiler : PlanCompiler) (api : ApiDescription)
    (names : List Document) (bindings : Bindings) :
    Advances Host.Delivers (bindClasses compiler api names bindings) := by
  induction names generalizing bindings with
  | nil => exact .pure _
  | cons name rest induction =>
      unfold bindClasses
      refine .bind (.lift _) fun found => ?_
      split
      · exact .bind (.lift _) fun _ => .pure _
      · exact .bind (Bindings.add_delivers _) induction

theorem isPlain_bindClasses {compiler : PlanCompiler} (measured : compiler.IsMeasured)
    (api : ApiDescription) {names : List Document} (texts : ∀ name ∈ names, name.IsText)
    {bindings bound : Bindings} (plain : bindings.IsPlain)
    (ran : runFrom (bindClasses compiler api names bindings) host = (.ok (.ok bound), after)) :
    bound.IsPlain := by
  induction names generalizing bindings host with
  | nil =>
      cases ran
      exact plain
  | cons name rest induction =>
      have ⟨found, middle, looked, ran⟩ := exists_of_runFrom_bind ran
      have ⟨className, isText⟩ := texts name List.mem_cons_self
      split at ran
      · have ⟨_, _, _, stopped⟩ := exists_of_runFrom_bind ran
        cases stopped
      · rename_i description
        have ⟨next, last, added, ran⟩ := exists_of_runFrom_bind ran
        rw [isText] at added
        apply induction (fun other inside => texts other (List.mem_cons_of_mem _ inside)) _ ran
        exact Bindings.isPlain_add measured plain ⟨some className, description.methods, .classMethod⟩
          added

/-- Setting up prints log lines only, and none in a process in which nothing was set up before. -/
theorem setUp_prints {settingsFile logLevel : Option String} {config : Document}
    (ran : runFrom (setUp settingsFile logLevel) host = (.ok config, after)) :
    host.Prints after ∧ (host.logging.handlers = [] → after.output = host.output ∧
      (Settings.load host settingsFile).outcome = .ok config ∧ ∃ level,
        Log.consoleLevel config (overridesOf logLevel) = .ok level ∧
          after.logging.PrintsFrom level) := by
  unfold setUp at ran
  rw [runFrom_bind_of_ok (runFrom_get host)] at ran
  have ⟨loaded, middle, loading, ran⟩ := exists_of_runFrom_bind ran
  have ⟨settings, last, configured, ran⟩ := exists_of_runFrom_bind ran
  have logs := ((Run.logged_delivers _).relates loading).logs
  have setUp := Log.runFrom_configure rfl configured
  rw [Run.runFrom_logged] at loading
  cases ran
  by_cases unconfigured : host.logging.handlers = []
  · have same : middle = host :=
      (Prod.ext_iff.mp loading).2.symm.trans (Host.deliverAll_of_unconfigured unconfigured _)
    rw [same] at setUp
    simp only [Log.Routing.isConfigured, unconfigured, List.isEmpty_nil, Bool.not_true,
      Bool.false_eq_true, if_false] at setUp
    have ⟨output, level, decided, prints⟩ := setUp
    exact ⟨Host.prints_of_output_eq output,
      fun _ => ⟨output, (Prod.ext_iff.mp loading).1, level, decided, prints⟩⟩
  · have isConfigured : middle.logging.isConfigured = true := by
      rw [logs.routing]
      simpa [Log.Routing.isConfigured] using unconfigured
    rw [if_pos isConfigured] at setUp
    rw [setUp]
    exact ⟨logs.printed, fun none => absurd none unconfigured⟩

theorem loadApi_delivers (path : String) : Advances Host.Delivers (loadApi path) := by
  refine .bind (Run.log_delivers _) fun _ => ?_
  refine .bind (.bind .get fun _ => .bind (.lift _) fun _ => .lift _) fun _ => .lift _

theorem isText_requestedNames {request : PlanRequest} {api : ApiDescription} {config : Document}
    {known : ClassSet} (collected : ClassSet.known (.table api.entries) config = .ok known)
    (texts : ∀ name ∈ known, name.IsText) {names : List Document}
    (requested : requestedNames request api = .ok names) : ∀ name ∈ names, name.IsText := by
  unfold requestedNames at requested
  split at requested
  · exact ApiDescription.isText_classNames collected texts requested
  · cases requested
    intro name inside
    have ⟨className, _, same⟩ := List.mem_map.mp inside
    exact ⟨className, same.symm⟩

theorem isPlain_addUtilities {compiler : PlanCompiler} (measured : compiler.IsMeasured)
    (api : ApiDescription) {bindings next : Bindings} (plain : bindings.IsPlain)
    (ran : runFrom (bindings.addUtilities compiler api) host = (.ok next, after)) :
    next.IsPlain := by
  have ⟨descriptors, middle, _, ran⟩ := exists_of_runFrom_bind ran
  exact Bindings.isPlain_add measured plain (.utilities descriptors) ran

theorem addUtilities_delivers (bindings : Bindings) (compiler : PlanCompiler)
    (api : ApiDescription) : Advances Host.Delivers (bindings.addUtilities compiler api) :=
  .bind (.lift _) fun _ => Bindings.add_delivers _

/-- Binding does nothing to a host but to hand records to its handlers. -/
theorem bindConfigured_delivers (request : PlanRequest) (config : Document) :
    Advances Host.Delivers (bindConfigured request config) := by
  refine .bind (loadApi_delivers _) fun api => ?_
  refine .bind (.lift _) fun compiler => ?_
  refine .bind (.lift _) fun names => ?_
  refine .bind (bindClasses_delivers _ _ _ _) fun outcome => ?_
  split
  · exact .pure _
  · split
    · exact .bind (addUtilities_delivers _ _ _) fun _ => .pure _
    · exact .pure _

/-- What is bound can be written. -/
theorem isPlain_bindConfigured {request : PlanRequest} {config : Document} {bindings : Bindings}
    (ran : runFrom (bindConfigured request config) host = (.ok (.ok bindings), after)) :
    bindings.IsPlain := by
  have ⟨api, loaded, _, ran⟩ := exists_of_runFrom_bind ran
  have ⟨compiler, afterCompiler, compiled, ran⟩ := exists_of_runFrom_bind ran
  have ⟨names, afterNames, requested, ran⟩ := exists_of_runFrom_bind ran
  have ⟨outcome, bound, binding, ran⟩ := exists_of_runFrom_bind ran
  have ⟨known, collected, made⟩ := exists_of_bind_eq_ok (of_runFrom_lift compiled).1
  have ⟨measured, texts⟩ := PlanCompiler.isText_of_ofConfig made
  have nameTexts := isText_requestedNames collected texts (of_runFrom_lift requested).1
  split at ran
  · cases ran
  · have plain := isPlain_bindClasses measured api nameTexts Bindings.isPlain_empty binding
    split at ran
    · have ⟨next, last, added, ran⟩ := exists_of_runFrom_bind ran
      cases ran
      exact isPlain_addUtilities measured api plain added
    · cases ran
      exact plain

theorem isPlain_bindRequested {request : PlanRequest} {bindings : Bindings}
    (ran : runFrom (bindRequested request) host = (.ok (.ok bindings), after)) :
    bindings.IsPlain := by
  have ⟨_, _, _, ran⟩ := exists_of_runFrom_bind ran
  exact isPlain_bindConfigured ran

/-- What a run that binds prints. -/
theorem bindRequested_prints {request : PlanRequest} {bindings : Bindings}
    (ran : runFrom (bindRequested request) host = (.ok (.ok bindings), after)) :
    host.Prints after ∧ (host.logging.handlers = [] → ∃ level,
      request.consoleLevel host = .ok level ∧ after.logging.PrintsFrom level ∧
        (Log.Level.error ≤ level.level → after.output = host.output)) := by
  have ⟨config, ready, set, ran⟩ := exists_of_runFrom_bind ran
  have logs := ((bindConfigured_delivers request config).relates ran).logs
  have ⟨prints, fresh⟩ := setUp_prints set
  refine ⟨prints.trans logs, ?_⟩
  intro unconfigured
  have ⟨output, loaded, level, decided, printsFrom⟩ := fresh unconfigured
  have requested : request.consoleLevel host = .ok level := by
    rw [PlanRequest.consoleLevel, loaded]
    exact decided
  have same : after.logging.PrintsFrom level := by
    rw [logs.routing]
    exact printsFrom
  refine ⟨level, requested, same, ?_⟩
  intro high
  have ⟨lines, printed, shown⟩ := logs.printed
  cases lines with
  | nil => rw [printed, String.join_nil, String.append_empty, output]
  | cons line rest =>
      have below := same.between (shown line List.mem_cons_self)
      omega

end Command

end EngineBridge
