import EngineBridge.Proofs.Binding.Outcome
import EngineBridge.Proofs.Command.Output

/-!
How `plan` ends when a binding fails.

Main statement: where all that comes before binding succeeds, a failure of a binding is logged and
ends the run with status 1, unless a utility function is virtual. For such a function there is no
class, and the failure leaves the run. No hash in a description is too long to be quoted, since the
description is read from JSON.
-/

namespace EngineBridge.Command

open BindingCall (EndsWith)

variable {host ready after : Host} {failure : Failure} {compiler : PlanCompiler}
  {api : ApiDescription}

/-- What makes adding a binding fail makes the call fail. -/
theorem Bindings.endsWith_of_add (typed : compiler.policy.WellTyped) {bindings : Bindings}
    (call : BindingCall)
    (failed : runFrom (bindings.add (call.perform compiler bindings.registrar)) host =
      (.error failure, after)) : EndsWith call.className call.descriptors (.error failure) := by
  have ⟨result, performed, ends⟩ := BindingCall.endsWith_perform typed bindings.registrar call
  unfold add at failed
  rw [runFrom_bind, Run.runFrom_logged, performed] at failed
  rcases runFrom_bind_eq_error failed with notReturned | ⟨binding, middle, _, returned⟩
  · have isFailure : result.outcome = .error failure := (Prod.ext_iff.mp notReturned).1
    rw [isFailure] at ends
    exact ends
  · cases returned

/-- What was loaded was read from JSON. -/
theorem isWritable_of_loadApi {path : String}
    (loading : runFrom (loadApi path) host = (.ok api, after)) : api.IsWritable := by
  have ⟨_, logged, _, reading⟩ := exists_of_runFrom_bind loading
  have ⟨document, middle, read, made⟩ := exists_of_runFrom_bind reading
  have ⟨_, _, _, read⟩ := exists_of_runFrom_bind read
  have ⟨text, _, _, read⟩ := exists_of_runFrom_bind read
  have writable := Document.Json.isWritable_of_read (of_runFrom_lift read).1
  have isTable := (of_runFrom_lift made).1
  cases document with
  | table entries =>
      cases isTable
      exact writable
  | _ => cases isTable

/-- Binding described classes fails with one of the library's own failures only. -/
theorem isReported_of_bindClasses (typed : compiler.policy.WellTyped) (writable : api.IsWritable)
    {names : List Document}
    (texts : ∀ name ∈ names, name.IsText)
    (described : ∀ name ∈ names, ∃ found, api.getClass name = .ok found) {bindings : Bindings}
    (failed : runFrom (bindClasses compiler api names bindings) host = (.error failure, after)) :
    failure.isReported = true := by
  induction names generalizing bindings host with
  | nil => cases failed
  | cons name rest induction =>
      obtain ⟨found, looked⟩ := described name List.mem_cons_self
      obtain ⟨className, isText⟩ := texts name List.mem_cons_self
      unfold bindClasses at failed
      rw [looked, runFrom_bind_of_ok (runFrom_lift _ host)] at failed
      cases found with
      | none =>
          rw [isText] at failed
          cases failed
      | some description =>
          rcases runFrom_bind_eq_error failed with here | ⟨next, middle, _, later⟩
          · rw [isText] at here
            have ends := Bindings.endsWith_of_add typed
              ⟨some className, description.methods, .classMethod⟩ here
            exact (ends.isReported_or_of_writable (writable.getClass looked)).resolve_right
              fun unowned => Option.some_ne_none _ unowned.1
          · exact induction (fun other inside => texts other (List.mem_cons_of_mem _ inside))
              (fun other inside => described other (List.mem_cons_of_mem _ inside)) later

/-- Whether all that comes before binding succeeds: settings and logging, the API with all that is
to be bound, and the compiler. -/
structure PlanRequest.Reaches (request : PlanRequest) (host : Host) (api : ApiDescription) :
    Prop where
  prepared : ∃ config ready loaded compiler names,
    runFrom (setUp request.settingsFile request.logLevel) host = (.ok config, ready) ∧
      runFrom (loadApi request.apiFile) ready = (.ok api, loaded) ∧
      compilerFor config api = .ok compiler ∧ requestedNames request api = .ok names ∧
      ∀ name ∈ names, ∃ found, api.getClass name = .ok found
  functions : request.withUtilities = true → ∃ found, api.utilityFunctions = .ok found

/-- Whether a utility function is virtual, so that it fails the way it does without a class. -/
def Unowned (api : ApiDescription) (failure : Failure) : Prop :=
  ∃ functions, api.utilityFunctions = .ok functions ∧ ∃ function ∈ functions,
    function.isVirtual = true ∧ function.abiHash = none ∧ ¬function.HasPointer ∧
      failure = .badValue (.virtualWithoutClass (.text function.name))

theorem isReported_or_of_bindRequested {request : PlanRequest} (reaches : request.Reaches host api)
    (failed : runFrom (bindRequested request) host = (.error failure, after)) :
    failure.isReported = true ∨ request.withUtilities = true ∧ Unowned api failure := by
  have ⟨config, ready, loaded, compiler, names, set, loading, made, requested, described⟩ :=
    reaches.prepared
  have ⟨known, collected, configured⟩ := exists_of_bind_eq_ok made
  have typed := PlanCompiler.wellTyped_of_ofConfig configured
  have writable := isWritable_of_loadApi loading
  have texts := isText_requestedNames collected
    (PlanCompiler.isText_of_ofConfig configured).2 requested
  unfold bindRequested at failed
  rw [runFrom_bind_of_ok set] at failed
  unfold bindConfigured at failed
  rw [runFrom_bind_of_ok loading, made, runFrom_bind_of_ok (runFrom_lift _ _), requested,
    runFrom_bind_of_ok (runFrom_lift _ _)] at failed
  rcases runFrom_bind_eq_error failed with classes | ⟨outcome, middle, _, later⟩
  · exact .inl (isReported_of_bindClasses typed writable texts described classes)
  · cases outcome with
    | error stop => cases later
    | ok bindings =>
        by_cases asked : request.withUtilities
        · have ⟨functions, listed⟩ := reaches.functions asked
          simp only [asked, if_true] at later
          rcases runFrom_bind_eq_error later with adding | ⟨_, _, _, returned⟩
          · unfold Bindings.addUtilities at adding
            rw [listed, runFrom_bind_of_ok (runFrom_lift _ _)] at adding
            have ends := Bindings.endsWith_of_add typed (BindingCall.utilities functions) adding
            exact (ends.isReported_or_of_writable (writable.utilityFunctions listed)).imp_right
              fun unowned => ⟨asked, functions, listed, unowned.2⟩
          · cases returned
        · simp only [asked] at later
          cases later

/-- A failure of the library's own ends the run with status 1 once it is logged, and any other leaves
the run. -/
theorem runRequest_of_failure {request : PlanRequest}
    (failed : runFrom (bindRequested request) host = (.error failure, after)) :
    runRequest (.plan request) host =
      if failure.isReported then
        (.status 1, after.deliver (failureRecord (failure.message.getD "")))
      else (.failed failure, after) := by
  rw [runRequest_plan]
  have stopped : runFrom (plan request) host = (.error failure, after) :=
    runFrom_bind_of_error failed _
  rw [stopped]

/-- With a configured compiler every call ends, with a binding or with what is wrong with the method
at which it stops. The failure is one of the library's own but at a virtual method without a class,
and at one whose hash cannot be written. So a run of `plan` that comes as far as binding is ended by a
failure of a binding with status 1, unless a virtual function without a class is among the utility
functions. -/
theorem binding_failures {config : Document} {known : List Document} {compiler : PlanCompiler}
    (made : PlanCompiler.ofConfig config known = .ok compiler) (registrar : VirtualRegistrar)
    (call : BindingCall) :
    (∃ result, (call.perform compiler registrar).outcome = .ok result ∧
      EndsWith call.className call.descriptors result.outcome ∧
      ∀ failure, result.outcome = .error failure → failure.isReported = false →
        (call.className = none ∧ ∃ descriptor ∈ call.descriptors,
          descriptor.isVirtual = true ∧ descriptor.abiHash = none ∧ ¬descriptor.HasPointer ∧
            failure = .badValue (.virtualWithoutClass (.text descriptor.name))) ∨
        ∃ descriptor ∈ call.descriptors, descriptor.isVirtual = true ∧
          ¬descriptor.HasWritableHash ∧ ¬descriptor.HasPointer ∧ failure = .unreadable) ∧
    ∀ (request : PlanRequest) (host after : Host) (api : ApiDescription) (failure : Failure),
      request.Reaches host api →
      runFrom (bindRequested request) host = (.error failure, after) →
        runRequest (.plan request) host =
            (.status 1, after.deliver (failureRecord (failure.message.getD ""))) ∨
          (request.withUtilities = true ∧ Unowned api failure ∧
            runRequest (.plan request) host = (.failed failure, after)) := by
  have ⟨result, performed, ends⟩ :=
    BindingCall.endsWith_perform (PlanCompiler.wellTyped_of_ofConfig made) registrar call
  refine ⟨⟨result, performed, ends, ?_⟩, ?_⟩
  · intro failure failed unreported
    rw [failed] at ends
    exact ends.isReported_or.resolve_left (ne_true_of_eq_false unreported)
  · intro request host after api failure reaches failed
    rw [runRequest_of_failure failed]
    cases reported : failure.isReported with
    | true => exact .inl rfl
    | false =>
        have ⟨asked, unowned⟩ := (isReported_or_of_bindRequested reaches failed).resolve_left
          (ne_true_of_eq_false reported)
        exact .inr ⟨asked, unowned, rfl⟩

/-- A host with the description of a class that has a method without a hash. -/
def unhashedHost : Host :=
  { describedHost with files := [(["w".toList], .directory),
    (["w".toList, "api.json".toList],
      .file "\x7b\"classes\": [\x7b\"name\": \"Object\", \"methods\": [\x7b\"name\": \"f\"\x7d]\x7d]\x7d")] }

/-- Whether an API that can be loaded has all that is to be bound. -/
def PlanRequest.isDescribed (request : PlanRequest) (config : Document) (ready : Host) : Bool :=
  match (runFrom (loadApi request.apiFile) ready).1 with
  | .error _ => false
  | .ok api => (compilerFor config api).isOk &&
      (match requestedNames request api with
        | .error _ => false
        | .ok names => names.all fun name => (api.getClass name).isOk) &&
      (!request.withUtilities || api.utilityFunctions.isOk)

theorem exists_reaches {request : PlanRequest} {config : Document}
    (set : runFrom (setUp request.settingsFile request.logLevel) host = (.ok config, ready))
    (described : request.isDescribed config ready = true) : ∃ api, request.Reaches host api := by
  unfold PlanRequest.isDescribed at described
  split at described
  · cases described
  · rename_i api loaded
    simp only [Bool.and_eq_true, Bool.or_eq_true, Bool.not_eq_true'] at described
    have ⟨⟨made, classes⟩, functions⟩ := described
    have ⟨compiler, made⟩ := exists_of_isOk made
    split at classes
    · cases classes
    · rename_i names requested
      refine ⟨api, ⟨config, ready, _, compiler, names, set, Prod.ext loaded rfl, made, requested, ?_⟩,
        ?_⟩
      · intro name inside
        exact exists_of_isOk (List.all_eq_true.mp classes name inside)
      · intro asked
        rw [asked] at functions
        exact exists_of_isOk (functions.resolve_left nofun)

def unhashedRequest : PlanRequest :=
  describedRequest (some "ERROR")

/-- The host once logging is set up. -/
def unhashedReady : Host :=
  { unhashedHost with logging := (loggingHost Log.Level.error).logging }

theorem setUp_unhashedHost :
    runFrom (setUp none (some "ERROR")) unhashedHost = (.ok Settings.bundled, unhashedReady) := by
  have configured : runFrom (Log.configure Settings.bundled (overridesOf (some "ERROR")))
      unhashedHost = (.ok (loggingHost Log.Level.error).logging.settings, unhashedReady) := by
    with_unfolding_all rfl
  exact runFrom_setUp_of_alone ⟨rfl, rfl, rfl, rfl⟩ rfl configured

/-- A function without a hash. -/
def unhashed : MethodDescriptor :=
  ⟨"f", [], none, false, false, false, false, none⟩

/-- A missing hash is reported. -/
theorem binding_failures_of_unhashed :
    (∃ compiler result failure, PlanCompiler.ofConfig (.table []) [] = .ok compiler ∧
      ((BindingCall.utilities [unhashed]).perform compiler .empty).outcome = .ok result ∧
      result.outcome = .error failure ∧ failure.isReported = true) ∧
    ∃ after, runRequest (.plan unhashedRequest) unhashedHost = (.status 1, after) := by
  have ⟨compiler, made⟩ := exists_of_isOk
    (by decide +kernel : (PlanCompiler.ofConfig (.table []) []).isOk = true)
  have ⟨⟨result, performed, ends, _⟩, reports⟩ :=
    binding_failures made .empty (.utilities [unhashed])
  have stops : BindingCall.StopsAt none unhashed := ⟨nofun, .inl rfl⟩
  refine ⟨⟨compiler, result, _, made, performed, ends.eq_stopFailure stops, rfl⟩, ?_⟩
  have ⟨api, reaches⟩ : ∃ api, unhashedRequest.Reaches unhashedHost api :=
    exists_reaches setUp_unhashedHost (by decide +kernel)
  have bound : runFrom (bindRequested unhashedRequest) unhashedHost =
      runFrom (bindConfigured unhashedRequest Settings.bundled) unhashedReady :=
    runFrom_bind_of_ok setUp_unhashedHost _
  have unbound : (runFrom (bindConfigured unhashedRequest Settings.bundled) unhashedReady).1.isOk =
      false := by
    decide +kernel
  rcases ran : runFrom (bindRequested unhashedRequest) unhashedHost with ⟨outcome, after⟩
  rw [← bound, ran] at unbound
  cases outcome with
  | ok bindings => cases unbound
  | error failure =>
      rcases reports _ _ _ _ _ reaches ran with reported | ⟨asked, _⟩
      · exact ⟨_, reported⟩
      · cases asked

/-- A utility function that is virtual has no class, and what it fails with is no failure of the
library's own. -/
theorem virtual_utility_unreported :
    ∃ compiler result failure, PlanCompiler.ofConfig (.table []) [] = .ok compiler ∧
      (bindUtilities compiler .empty
        [.ofDescriptor ⟨"f", [], none, false, true, false, false, none⟩]).outcome = .ok result ∧
      result.outcome = .error failure ∧ failure.isReported = false := by
  have ⟨compiler, made⟩ := exists_of_isOk
    (by decide +kernel : (PlanCompiler.ofConfig (.table []) []).isOk = true)
  have ⟨result, performed, ends⟩ := BindingCall.endsWith_perform
    (PlanCompiler.wellTyped_of_ofConfig made) .empty
    (.utilities [⟨"f", [], none, false, true, false, false, none⟩])
  rw [BindingCall.perform_utilities] at performed
  have stops : BindingCall.StopsAt none ⟨"f", [], none, false, true, false, false, none⟩ :=
    ⟨nofun, .inr ⟨rfl, rfl⟩⟩
  exact ⟨compiler, result, _, made, performed, ends.eq_stopFailure stops, rfl⟩

end EngineBridge.Command
