import EngineBridge.Proofs.Binding.PublicNames
import EngineBridge.Proofs.Command.Output
import EngineBridge.Proofs.Descriptor.Classes
import EngineBridge.Proofs.Plan.Scalars

/-!
What a command line selects for binding.

The classes that are named, or else all classes of the description, are bound one after the other, and
the utility functions last if they are asked for. Main statements: what a run binds is what the calls
for these return, in their order, and it binds the classes if they return; without names there is one
call for each entry, but its methods are those of the first entry with its name.
-/

namespace EngineBridge

namespace BindingCall

/-- The bindings that calls return one after the other, each call going on with the register that the
one before left behind. -/
inductive Returns (compiler : PlanCompiler) :
    List BindingCall → VirtualRegistrar → VirtualRegistrar → List ClassBinding → Prop
  | nil (registrar : VirtualRegistrar) : Returns compiler [] registrar registrar []
  | cons {call : BindingCall} {rest : List BindingCall} {registrar middle last : VirtualRegistrar}
      {binding : ClassBinding} {bindings : List ClassBinding}
      (performed : (call.perform compiler registrar).outcome = .ok ⟨middle, .ok binding⟩)
      (others : Returns compiler rest middle last bindings) :
      Returns compiler (call :: rest) registrar last (binding :: bindings)

namespace Returns

variable {compiler : PlanCompiler} {call : BindingCall} {calls others : List BindingCall}
  {registrar middle last : VirtualRegistrar} {binding : ClassBinding}
  {bindings more : List ClassBinding}

theorem single (performed : (call.perform compiler registrar).outcome = .ok ⟨last, .ok binding⟩) :
    Returns compiler [call] registrar last [binding] :=
  .cons performed (.nil last)

theorem append (first : Returns compiler calls registrar middle bindings)
    (second : Returns compiler others middle last more) :
    Returns compiler (calls ++ others) registrar last (bindings ++ more) := by
  induction first with
  | nil => exact second
  | cons performed _ induction => exact .cons performed (induction second)

/-- Calls that have no method to stop at return one after the other. -/
theorem exists_of_goes (typed : compiler.policy.WellTyped)
    (goes : ∀ call ∈ calls, ∀ descriptor ∈ call.descriptors,
      ¬StopsAt call.className descriptor) (registrar : VirtualRegistrar) :
    ∃ last bindings, Returns compiler calls registrar last bindings := by
  induction calls generalizing registrar with
  | nil => exact ⟨registrar, [], .nil registrar⟩
  | cons call rest induction =>
      obtain ⟨here, later⟩ := List.forall_mem_cons.mp goes
      obtain ⟨⟨middle, outcome⟩, performed, ends⟩ := endsWith_perform typed registrar call
      obtain ⟨binding, returned⟩ := ends.exists_of_goes here
      obtain ⟨last, bindings, others⟩ := induction later middle
      exact ⟨last, binding :: bindings, .cons (returned ▸ performed) others⟩

end Returns

end BindingCall

namespace Command

open BindingCall (Returns)
open ClassDescription (answering)

variable {request : PlanRequest} {api : ApiDescription} {compiler : PlanCompiler}
  {bindings bound : Bindings} {host after : Host}

/-- The call that binds the methods of a class that is asked for by name. -/
inductive ClassCall (api : ApiDescription) : Document → BindingCall → Prop
  | mk {className : String} {description : ClassDescription}
      (found : api.getClass (.text className) = .ok (some description)) :
      ClassCall api (.text className) ⟨some className, description.methods, .classMethod⟩

/-- The call that binds the utility functions, if they are asked for. -/
inductive PlanRequest.UtilityCalls (request : PlanRequest) (api : ApiDescription) :
    List BindingCall → Prop
  | none (unasked : request.withUtilities = false) : UtilityCalls request api []
  | some {functions : List MethodDescriptor} (asked : request.withUtilities = true)
      (listed : api.utilityFunctions = .ok functions) :
      UtilityCalls request api [.utilities functions]

/-- The calls that a request stands for: one for each class in the order of the names, and the one for
the utility functions last. -/
inductive PlanRequest.Selects (request : PlanRequest) (api : ApiDescription) :
    List BindingCall → Prop
  | mk {names : List Document} {calls utilityCalls : List BindingCall}
      (requested : requestedNames request api = .ok names)
      (each : List.Forall₂ (ClassCall api) names calls)
      (utilities : request.UtilityCalls api utilityCalls) :
      Selects request api (calls ++ utilityCalls)

/-- What is bound in one more call is what the call returns. -/
theorem returns_of_add {call : BindingCall}
    (added : runFrom (bindings.add (call.perform compiler bindings.registrar)) host =
      (.ok bound, after)) :
    ∃ binding, Returns compiler [call] bindings.registrar bound.registrar [binding] ∧
      bound.done = bindings.done ++ [binding] := by
  unfold Bindings.add at added
  have ⟨result, middle, logged, added⟩ := exists_of_runFrom_bind added
  have ⟨binding, last, returned, added⟩ := exists_of_runFrom_bind added
  have ⟨isReturned, _⟩ := of_runFrom_lift returned
  rw [Run.runFrom_logged] at logged
  have performed := (Prod.ext_iff.mp logged).1
  cases added
  refine ⟨binding, .single ?_, rfl⟩
  rw [← isReturned]
  exact performed

/-- A description that is read from a file is loaded. -/
theorem runFrom_loadApi_of_read {path text : String} {entries : Entries Document}
    (unlogged : host.deliver (loadingRecord path) = host)
    (found : host.files.read host.workingDirectory path = .ok text)
    (read : Document.Json.read text = .ok (.table entries)) :
    runFrom (loadApi path) host = (.ok ⟨entries⟩, host) := by
  have document : runFrom (Run.readDocument path) host = (.ok (.table entries), host) := by
    unfold Run.readDocument
    rw [runFrom_bind_of_ok (runFrom_get _), found, runFrom_bind_of_ok (runFrom_lift _ _), read]
    rfl
  unfold loadApi Run.log
  rw [runFrom_bind_of_ok (runFrom_modify _ _), unlogged, runFrom_bind_of_ok document]
  rfl

/-- What a call returns is bound. -/
theorem runFrom_add_of_performed {call : BindingCall} {last : VirtualRegistrar}
    {binding : ClassBinding}
    (performed : (call.perform compiler bindings.registrar).outcome = .ok ⟨last, .ok binding⟩)
    (host : Host) :
    runFrom (bindings.add (call.perform compiler bindings.registrar)) host =
      (.ok ⟨bindings.done ++ [binding], last⟩,
        (call.perform compiler bindings.registrar).records.foldl Host.deliver host) := by
  unfold Bindings.add
  rw [runFrom_bind, Run.runFrom_logged, performed]
  rfl

theorem returns_of_bindClasses {names : List Document} (texts : ∀ name ∈ names, name.IsText)
    (ran : runFrom (bindClasses compiler api names bindings) host = (.ok (.ok bound), after)) :
    ∃ calls done, List.Forall₂ (ClassCall api) names calls ∧
      Returns compiler calls bindings.registrar bound.registrar done ∧
      bound.done = bindings.done ++ done := by
  induction names generalizing bindings host with
  | nil =>
      cases ran
      exact ⟨[], [], .nil, .nil _, (List.append_nil _).symm⟩
  | cons name rest induction =>
      have ⟨className, isText⟩ := texts name List.mem_cons_self
      subst isText
      have ⟨found, middle, looked, ran⟩ := exists_of_runFrom_bind ran
      have ⟨isFound, _⟩ := of_runFrom_lift looked
      split at ran
      · cases ran
      · rename_i description
        have ⟨next, last, added, ran⟩ := exists_of_runFrom_bind ran
        have ⟨binding, here, hereDone⟩ :=
          @returns_of_add compiler bindings next middle last
            ⟨some className, description.methods, .classMethod⟩ added
        have ⟨calls, done, each, others, allDone⟩ :=
          induction (fun other inside => texts other (List.mem_cons_of_mem _ inside)) ran
        refine ⟨_ :: calls, binding :: done, .cons (.mk isFound) each, here.append others, ?_⟩
        rw [allDone, hereDone, List.append_assoc]
        rfl

/-- What a run binds is what the calls return that the request stands for. -/
theorem returns_of_bindConfigured {config : Document}
    (ran : runFrom (bindConfigured request config) host = (.ok (.ok bindings), after)) :
    ∃ api loaded compiler calls, runFrom (loadApi request.apiFile) host = (.ok api, loaded) ∧
      compilerFor config api = .ok compiler ∧ request.Selects api calls ∧
      Returns compiler calls .empty bindings.registrar bindings.done := by
  have ⟨api, loaded, loading, ran⟩ := exists_of_runFrom_bind ran
  have ⟨compiler, afterCompiler, made, ran⟩ := exists_of_runFrom_bind ran
  have ⟨names, afterNames, requesting, ran⟩ := exists_of_runFrom_bind ran
  have ⟨outcome, middle, binding, ran⟩ := exists_of_runFrom_bind ran
  have ⟨isMade, _⟩ := of_runFrom_lift made
  have ⟨requested, _⟩ := of_runFrom_lift requesting
  have ⟨known, collected, configured⟩ := exists_of_bind_eq_ok isMade
  have texts := isText_requestedNames collected (PlanCompiler.isText_of_ofConfig configured).2
    requested
  refine ⟨api, loaded, compiler, ?_⟩
  split at ran
  · cases ran
  · rename_i classes
    have ⟨calls, done, each, returns, isDone⟩ := returns_of_bindClasses texts binding
    rw [Bindings.empty, List.nil_append] at isDone
    subst isDone
    split at ran
    · next asked =>
        have ⟨last, afterUtilities, added, ran⟩ := exists_of_runFrom_bind ran
        have ⟨functions, afterFunctions, reading, added⟩ := exists_of_runFrom_bind added
        have ⟨listed, _⟩ := of_runFrom_lift reading
        have ⟨binding, more, allDone⟩ := @returns_of_add compiler classes last afterFunctions
          afterUtilities (.utilities functions) added
        cases ran
        refine ⟨_, loading, isMade, .mk requested each (.some asked listed), ?_⟩
        rw [allDone]
        exact returns.append more
    · next unasked =>
        cases ran
        refine ⟨_, loading, isMade, .mk requested each (.none (eq_false_of_ne_true unasked)), ?_⟩
        rw [List.append_nil]
        exact returns

/-- Calls that return are what is bound: their bindings come after those that were there. -/
theorem exists_bindClasses_of_returns {names : List Document} {calls : List BindingCall}
    {last : VirtualRegistrar} {done : List ClassBinding}
    (each : List.Forall₂ (ClassCall api) names calls)
    (returns : Returns compiler calls bindings.registrar last done) (host : Host) :
    ∃ after, runFrom (bindClasses compiler api names bindings) host =
      (.ok (.ok ⟨bindings.done ++ done, last⟩), after) := by
  induction each generalizing bindings done host with
  | nil =>
      cases returns
      rw [List.append_nil]
      exact ⟨host, rfl⟩
  | cons isCall _ induction =>
      cases isCall with
      | mk found =>
          cases returns with
          | @cons _ _ _ middle _ binding more performed others =>
              have added := runFrom_add_of_performed performed host
              obtain ⟨after, bound⟩ :=
                @induction ⟨bindings.done ++ [binding], middle⟩ more others _
              rw [List.append_assoc] at bound
              unfold bindClasses
              rw [found, runFrom_bind_of_ok (runFrom_lift _ host)]
              exact ⟨after, (runFrom_bind_of_ok added _).trans bound⟩

/-- A run binds what is described if the calls for it return. -/
theorem exists_bindConfigured_of_returns {config : Document} {loaded : Host}
    {calls : List BindingCall} {last : VirtualRegistrar} {done : List ClassBinding}
    (loading : runFrom (loadApi request.apiFile) host = (.ok api, loaded))
    (made : compilerFor config api = .ok compiler) (unasked : request.withUtilities = false)
    {names : List Document} (requested : requestedNames request api = .ok names)
    (each : List.Forall₂ (ClassCall api) names calls)
    (returns : Returns compiler calls .empty last done) :
    ∃ after, runFrom (bindConfigured request config) host = (.ok (.ok ⟨done, last⟩), after) := by
  obtain ⟨after, bound⟩ := @exists_bindClasses_of_returns api compiler Bindings.empty names calls last
    done each returns loaded
  unfold bindConfigured
  rw [runFrom_bind_of_ok loading, made, runFrom_bind_of_ok (runFrom_lift _ loaded), requested,
    runFrom_bind_of_ok (runFrom_lift _ loaded), runFrom_bind_of_ok bound]
  simp only [unasked]
  exact ⟨after, rfl⟩

theorem returns_of_bindRequested
    (ran : runFrom (bindRequested request) host = (.ok (.ok bindings), after)) :
    ∃ config ready api loaded compiler calls,
      runFrom (setUp request.settingsFile request.logLevel) host = (.ok config, ready) ∧
      runFrom (loadApi request.apiFile) ready = (.ok api, loaded) ∧
      compilerFor config api = .ok compiler ∧ request.Selects api calls ∧
      Returns compiler calls .empty bindings.registrar bindings.done := by
  have ⟨config, ready, set, ran⟩ := exists_of_runFrom_bind ran
  have ⟨api, loaded, compiler, calls, loading, made, selects, returns⟩ :=
    returns_of_bindConfigured ran
  exact ⟨config, ready, api, loaded, compiler, calls, set, loading, made, selects, returns⟩

/-! ## Classes without names -/

/-- The call that binds a class that is described. -/
def callOf (description : ClassDescription) : BindingCall :=
  ⟨some description.name.wording, description.methods, .classMethod⟩

/-- The call for a name binds the methods of the first entry with this name. -/
theorem eq_callOf_answering {entries : List Document} {described : List ClassDescription}
    (listed : api.listed "classes" = .ok entries)
    (gives : List.Forall₂ Document.GivesClass entries described) {description : ClassDescription}
    {call : BindingCall} (isCall : ClassCall api description.name call) :
    call = callOf (answering described description) := by
  generalize named : description.name = name at isCall
  cases isCall with
  | @mk className first found =>
      rw [ApiDescription.getClass_eq listed gives] at found
      have isFirst := Except.ok.inj found
      have sameName := ClassDescription.name_of_firstNamed isFirst
      have answers : answering described description = first := by
        rw [answering, named, isFirst]
        rfl
      rw [answers, callOf, sameName]
      rfl

theorem calls_of_described {entries : List Document} {described : List ClassDescription}
    (listed : api.listed "classes" = .ok entries)
    (gives : List.Forall₂ Document.GivesClass entries described) {calls : List BindingCall}
    (each : List.Forall₂ (ClassCall api) (described.map (·.name)) calls) :
    calls = described.map fun description => callOf (answering described description) := by
  rw [List.forall₂_map_left_iff] at each
  have same := each.imp fun description call isCall => eq_callOf_answering listed gives isCall
  symm
  rw [← List.forall₂_eq_eq_eq, List.forall₂_map_left_iff]
  exact same.imp fun description call isCall => isCall.symm

/-- Classes are described for each entry in order, as the first entry of its name says. These are the
entries' own descriptions exactly if entries of one name do not differ. A run without class names
binds what is so described, one call for each entry, and the utility functions if they are asked
for. -/
theorem classes_answered_by_first {entries : List Document}
    (listed : api.listed "classes" = .ok entries)
    (inForm : ∀ entry ∈ entries, entry.IsClassEntry) :
    ∃ described, List.Forall₂ Document.GivesClass entries described ∧
      api.classNames = .ok (described.map (·.name)) ∧
      api.classes = .ok (described.map (answering described)) ∧
      (described.map (answering described) = described ↔
        ∀ one ∈ described, ∀ other ∈ described, one.name = other.name → one = other) ∧
      ∀ (request : PlanRequest) (host ready loaded after : Host) (config : Document)
        (bindings : Bindings), request.classNames = [] →
        runFrom (setUp request.settingsFile request.logLevel) host = (.ok config, ready) →
        runFrom (loadApi request.apiFile) ready = (.ok api, loaded) →
        runFrom (bindRequested request) host = (.ok (.ok bindings), after) →
        ∃ compiler utilityCalls, compilerFor config api = .ok compiler ∧
          request.UtilityCalls api utilityCalls ∧
          Returns compiler (described.map (fun description =>
            callOf (answering described description)) ++ utilityCalls)
            .empty bindings.registrar bindings.done := by
  have ⟨described, gives⟩ : ∃ described, List.Forall₂ Document.GivesClass entries described := by
    clear listed
    induction entries with
    | nil => exact ⟨[], .nil⟩
    | cons entry rest induction =>
        have ⟨here, others⟩ := List.forall_mem_cons.mp inForm
        have ⟨description, givesHere⟩ := here.exists_gives
        have ⟨described, gives⟩ := induction others
        exact ⟨description :: described, .cons givesHere gives⟩
  have texts := ApiDescription.isText_of_gives gives
  refine ⟨described, gives, ApiDescription.classNames_eq listed gives,
    ApiDescription.classes_eq_map listed gives, ApiDescription.map_answering_eq_iff texts, ?_⟩
  intro request host ready loaded after config bindings unnamed set loading ran
  rw [bindRequested, runFrom_bind_of_ok set] at ran
  have ⟨other, otherLoaded, compiler, calls, otherLoading, made, selects, returns⟩ :=
    returns_of_bindConfigured ran
  rw [loading] at otherLoading
  cases otherLoading
  cases selects with
  | @mk names calls utilityCalls requested each utilities =>
      rw [requestedNames, unnamed, ApiDescription.classNames_eq listed gives] at requested
      cases requested
      rw [calls_of_described listed gives each] at returns
      exact ⟨compiler, utilityCalls, made, utilities, returns⟩

/-- The entry of a class that has one method, with a hash. -/
def classEntry (name method : String) (hash : Int) : Document :=
  .table [("name", .text name),
    ("methods", .array [.table [("name", .text method), ("hash", .int hash)]])]

/-- What the entry of a class with one method describes. -/
def classDescription (name method : String) (hash : Int) : ClassDescription :=
  ⟨.text name, [⟨method, [], none, false, false, false, false, some (.int hash)⟩]⟩

theorem isMethodEntry_of_hash {method : String} (filled : method ≠ "") (hash : Int) :
    Document.IsMethodEntry (.table [("name", .text method), ("hash", .int hash)]) := by
  refine .mk ⟨method, rfl, filled⟩ ?_ ?_ ?_ (.inl rfl) ?_ ?_
  · exact fun _ found => by cases found
  · exact fun _ found => by cases found
  · exact fun _ found => by cases found
  · intro key listed value found
    simp only [List.mem_cons, List.not_mem_nil, or_false] at listed
    rcases listed with rfl | rfl | rfl | rfl <;> cases found
  · rintro value ⟨⟩
    exact .inl ⟨hash, rfl⟩

theorem isClassEntry_classEntry (name : String) {method : String} (filled : method ≠ "")
    (hash : Int) : (classEntry name method hash).IsClassEntry := by
  refine .mk rfl ?_
  rintro value ⟨⟩
  exact ⟨_, rfl, by simpa using isMethodEntry_of_hash filled hash⟩

theorem gives_classEntry (name : String) {method : String} (filled : method ≠ "") (hash : Int) :
    (classEntry name method hash).GivesClass (classDescription name method hash) := by
  have isEntry := isMethodEntry_of_hash filled hash
  exact .mk rfl rfl (by simpa using isEntry) (.cons isEntry.gives .nil)

theorem keeps_classEntry (name method : String) (hash : Int) {room : Nat} :
    Document.Json.Keeps (room + 3) (classEntry name method hash) := by
  have entry : Document.Json.Keeps (room + 1)
      (.table [("name", .text method), ("hash", .int hash)]) :=
    .table (by simp [Entries.keys]) (by simp)
  have methods : Document.Json.Keeps (room + 2)
      (.array [.table [("name", .text method), ("hash", .int hash)]]) :=
    .array (by simpa using entry)
  exact .table (by simp [Entries.keys]) (by simpa using methods)

/-- Three classes with a method each, the third of which has the name of the first. -/
def namesakeEntries : List Document :=
  [classEntry "A" "f" 1, classEntry "B" "h" 2, classEntry "A" "g" 3]

theorem isClassEntry_namesakes : ∀ entry ∈ namesakeEntries, entry.IsClassEntry := by
  simp [namesakeEntries, isClassEntry_classEntry]

theorem gives_namesakes : List.Forall₂ Document.GivesClass namesakeEntries
    [classDescription "A" "f" 1, classDescription "B" "h" 2, classDescription "A" "g" 3] := by
  simp [namesakeEntries, gives_classEntry]

def namesakes : ApiDescription :=
  ⟨[("classes", .array namesakeEntries)]⟩

theorem keeps_namesakes :
    Document.Json.Keeps Document.Json.nestingRoom (.table namesakes.entries) := by
  have entries {room : Nat} : Document.Json.Keeps (room + 4) (.array namesakeEntries) :=
    .array (by simp [namesakeEntries, keeps_classEntry])
  exact .table (by decide) (by simpa [namesakes] using entries)

def namesakesHost : Host :=
  { describedHost with files := [(["w".toList], .directory),
    (["w".toList, "api.json".toList],
      .file (Document.Json.writeFile (.table namesakes.entries)))] }

/-- The host once logging is set up. -/
def namesakesReady : Host :=
  { namesakesHost with logging := (loggingHost Log.Level.info).logging }

theorem loadApi_namesakes :
    runFrom (loadApi "api.json") namesakesReady = (.ok namesakes, namesakesReady) := by
  have unlogged : namesakesReady.deliver (loadingRecord "api.json") = namesakesReady := by
    with_unfolding_all rfl
  have found : namesakesReady.files.read namesakesReady.workingDirectory "api.json" =
      .ok (Document.Json.writeFile (.table namesakes.entries)) := by
    with_unfolding_all rfl
  exact runFrom_loadApi_of_read unlogged found
    (Document.Json.read_writeFile keeps_namesakes (by decide +kernel))

theorem exists_compilerFor_namesakes : ∃ compiler,
    compilerFor Settings.bundled namesakes = .ok compiler ∧ compiler.policy.WellTyped := by
  have known : ClassSet.known (.table namesakes.entries) Settings.bundled =
      .ok (["A", "B", "Object"].map .text) := by
    with_unfolding_all rfl
  obtain ⟨sizes, configured⟩ := exists_of_isOk
    (by decide +kernel : (SizeTable.configured Settings.bundled).isOk = true)
  obtain ⟨classifier, ordered, -, -, made⟩ :=
    PlanCompiler.ofConfig_eq_map configured ["A", "B", "Object"]
  obtain ⟨policy, decided⟩ := @BindingPolicy.exists_ofConfig Settings.bundled
    (by with_unfolding_all rfl) (by with_unfolding_all rfl) ordered
  rw [decided, Except.map] at made
  refine ⟨⟨classifier, policy⟩, ?_, PlanCompiler.wellTyped_of_ofConfig made⟩
  unfold compilerFor
  rw [known]
  exact made

/-- The calls for the three classes. The last one binds the method of the first class again. -/
def namesakeCalls : List BindingCall :=
  [callOf (classDescription "A" "f" 1), callOf (classDescription "B" "h" 2),
    callOf (classDescription "A" "f" 1)]

theorem classCall_namesakes : List.Forall₂ (ClassCall namesakes)
    [.text "A", .text "B", .text "A"] namesakeCalls := by
  have found := ApiDescription.getClass_eq (rfl : namesakes.listed "classes" = _) gives_namesakes
  exact .cons (.mk (found "A")) (.cons (.mk (found "B")) (.cons (.mk (found "A")) .nil))

theorem exists_bindRequested_namesakes
    (set : runFrom (setUp none none) namesakesHost = (.ok Settings.bundled, namesakesReady)) :
    ∃ bindings after, runFrom (bindRequested (describedRequest none)) namesakesHost =
      (.ok (.ok bindings), after) := by
  obtain ⟨compiler, made, typed⟩ := exists_compilerFor_namesakes
  have goes : ∀ call ∈ namesakeCalls, ∀ descriptor ∈ call.descriptors,
      ¬BindingCall.StopsAt call.className descriptor := by
    intro call called descriptor declared
    simp only [namesakeCalls, List.mem_cons, List.not_mem_nil, or_false] at called
    rcases called with rfl | rfl | rfl <;> cases List.mem_singleton.mp declared <;>
      exact BindingCall.not_stopsAt_of_isBound (by decide)
  obtain ⟨last, done, returns⟩ := Returns.exists_of_goes typed goes .empty
  obtain ⟨after, bound⟩ := @exists_bindConfigured_of_returns (describedRequest none) namesakes
    compiler namesakesReady Settings.bundled namesakesReady namesakeCalls last done
    loadApi_namesakes made rfl _ rfl classCall_namesakes returns
  exact ⟨_, after, (runFrom_bind_of_ok set _).trans bound⟩

/-- The method of the first class is bound in place of that of the third, which has its name. -/
theorem classes_answered_by_first_of_described :
    ∃ bindings after compiler,
      runFrom (setUp none none) namesakesHost = (.ok Settings.bundled, namesakesReady) ∧
      runFrom (loadApi "api.json") namesakesReady = (.ok namesakes, namesakesReady) ∧
      runFrom (bindRequested (describedRequest none)) namesakesHost =
        (.ok (.ok bindings), after) ∧
      namesakes.classNames = .ok [.text "A", .text "B", .text "A"] ∧
      namesakes.classes = .ok [classDescription "A" "f" 1, classDescription "B" "h" 2,
        classDescription "A" "f" 1] ∧
      Returns compiler namesakeCalls .empty bindings.registrar bindings.done := by
  have configured : runFrom (Log.configure Settings.bundled (overridesOf none)) namesakesHost =
      (.ok (loggingHost Log.Level.info).logging.settings, namesakesReady) := by
    with_unfolding_all rfl
  have set := runFrom_setUp_of_alone ⟨rfl, rfl, rfl, rfl⟩ rfl configured
  obtain ⟨bindings, after, binding⟩ := exists_bindRequested_namesakes set
  have listed : namesakes.listed "classes" = .ok namesakeEntries := rfl
  obtain ⟨described, gives, names, classes, -, binds⟩ :=
    classes_answered_by_first listed isClassEntry_namesakes
  cases List.right_unique_forall₂' ApiDescription.rightUnique_givesClass gives gives_namesakes
  obtain ⟨compiler, utilityCalls, -, utilities, returns⟩ :=
    binds (describedRequest none) namesakesHost namesakesReady namesakesReady after Settings.bundled
      bindings rfl set loadApi_namesakes binding
  refine ⟨bindings, after, compiler, set, loadApi_namesakes, binding, names, classes, ?_⟩
  cases utilities with
  | none => exact returns
  | some asked => cases asked

/-- Two classes of one name, each with a method. -/
def twiceDescribed : ApiDescription :=
  ⟨[("classes", .array [
    .table [("name", .text "A"),
      ("methods", .array [.table [("name", .text "f"), ("hash", .int 1)]])],
    .table [("name", .text "A"),
      ("methods", .array [.table [("name", .text "g"), ("hash", .int 2)]])]])]⟩

/-- A later entry of a name is lost, and the first one is described again in its place. -/
theorem later_entry_described_as_first :
    let first : MethodDescriptor := ⟨"f", [], none, false, false, false, false, some (.int 1)⟩
    let second : MethodDescriptor := ⟨"g", [], none, false, false, false, false, some (.int 2)⟩
    ∃ entries, twiceDescribed.listed "classes" = .ok entries ∧
      (∀ entry ∈ entries, entry.IsClassEntry) ∧
      List.Forall₂ Document.GivesClass entries
        [⟨.text "A", [first]⟩, ⟨.text "A", [second]⟩] ∧
      twiceDescribed.classes = .ok [⟨.text "A", [first]⟩, ⟨.text "A", [first]⟩] ∧
      twiceDescribed.classes ≠ .ok [⟨.text "A", [first]⟩, ⟨.text "A", [second]⟩] := by
  intro first second
  have described : twiceDescribed.classes =
      .ok [⟨.text "A", [first]⟩, ⟨.text "A", [first]⟩] := by
    with_unfolding_all rfl
  refine ⟨_, rfl, ?_, ?_, described, ?_⟩
  · rw [List.forall_mem_cons, List.forall_mem_singleton]
    exact ⟨isClassEntry_classEntry "A" (by decide) 1, isClassEntry_classEntry "A" (by decide) 2⟩
  · exact .cons (gives_classEntry "A" (by decide) 1)
      (.cons (gives_classEntry "A" (by decide) 2) .nil)
  · rw [described]
    simp [first, second]

end Command

end EngineBridge
