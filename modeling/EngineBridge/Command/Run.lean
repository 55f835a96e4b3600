import EngineBridge.Binding.Binder
import EngineBridge.Command.Arguments
import EngineBridge.Descriptor.Api
import EngineBridge.Files.Resource
import EngineBridge.Log.Configuration
import EngineBridge.Plan.Configured

/-!
The commands.

Both commands load the settings and set up logging first. `plan` binds classes and writes their
plans as one document, when all of them are bound; `classify` prints one line for each type. The
library's own failures are logged and end a command with status 1; all others leave it.
-/

namespace EngineBridge.Command

/-- How a run ends. -/
inductive Ending where
  | status (code : Nat)
  | failed (failure : Failure)

def commandLogger : String := "gdmarshal.__main__"

def commandPlace : String := "__main__"

/-- What a command line sets of logging. -/
def overridesOf (logLevel : Option String) : Log.Overrides :=
  { Log.Overrides.none with consoleLevel := (logLevel.map Document.text).getD .null }

def setUp (settingsFile logLevel : Option String) : Run Document := do
  let config ← Run.logged (Settings.load (← get) settingsFile)
  let _ ← Log.configure config (overridesOf logLevel)
  return config

def loadingRecord (path : String) : Log.Record :=
  Log.Record.plain Log.Level.debug "gdmarshal.descriptor.api_description" "api_description"
    ("Loading API description from " ++ path)

def loadApi (path : String) : Run ApiDescription := do
  Run.log (loadingRecord path)
  ApiDescription.ofDocument (← Run.readDocument path)

/-- The bindings so far, and the register that they share. -/
structure Bindings where
  done : List ClassBinding
  registrar : VirtualRegistrar

namespace Bindings

def empty : Bindings := ⟨[], VirtualRegistrar.empty⟩

def add (bindings : Bindings) (binding : Logged BindResult) : Run Bindings := do
  let result ← Run.logged binding
  return ⟨bindings.done ++ [← result.outcome], result.registrar⟩

def document (bindings : Bindings) : Document :=
  .table [
    ("bindings", .array (bindings.done.map ClassBinding.document)),
    ("virtual_methods", bindings.registrar.document)]

end Bindings

/-- Why binding the selected classes stops. -/
inductive Stop where
  | unknownClass (name : String)

/-- Bind classes one after the other, up to one that the description does not have. -/
def bindClasses (compiler : PlanCompiler) (api : ApiDescription) :
    List Document → Bindings → Run (Except Stop Bindings)
  | [], bindings => return .ok bindings
  | name :: rest, bindings => do
      match ← api.getClass name with
      | none => return .error (.unknownClass (← name.plainText))
      | some description => do
          let binding := bindMethods compiler bindings.registrar name
            (description.methods.map MethodDraft.ofDescriptor) .classMethod
          bindClasses compiler api rest (← bindings.add binding)

def wroteRecord (count : Nat) (path : String) : Log.Record :=
  Log.Record.plain Log.Level.info commandLogger commandPlace
    ("Wrote " ++ Number.writeInt count ++ " binding(s) to " ++ path)

/-- Write the bindings: to a file if one is named, and to the standard output otherwise. -/
def writeBindings (output : Option String) (bindings : Bindings) : Run Unit :=
  match output with
  | none | some "" => Run.printDocument bindings.document
  | some path => do
      Run.writeDocument path bindings.document
      Run.log (wroteRecord bindings.done.length path)

def compilerFor (config : Document) (api : ApiDescription) : Except Failure PlanCompiler := do
  PlanCompiler.ofConfig config (← ClassSet.known (.table api.entries) config)

/-- The classes to bind: those that are named, or else all of them. -/
def requestedNames (request : PlanRequest) (api : ApiDescription) :
    Except Failure (List Document) :=
  if request.classNames.isEmpty then api.classNames
  else .ok (request.classNames.map .text)

def Bindings.addUtilities (bindings : Bindings) (compiler : PlanCompiler) (api : ApiDescription) :
    Run Bindings := do
  let functions ← api.utilityFunctions
  bindings.add (bindUtilities compiler bindings.registrar
    (functions.map MethodDraft.ofDescriptor))

/-- Bind what is asked for, classes and the utility functions, by a configuration. -/
def bindConfigured (request : PlanRequest) (config : Document) : Run (Except Stop Bindings) := do
  let api ← loadApi request.apiFile
  let compiler ← compilerFor config api
  let names ← requestedNames request api
  match ← bindClasses compiler api names Bindings.empty with
  | .error stop => return .error stop
  | .ok bindings =>
      if request.withUtilities then return .ok (← bindings.addUtilities compiler api)
      else return .ok bindings

def bindRequested (request : PlanRequest) : Run (Except Stop Bindings) := do
  bindConfigured request (← setUp request.settingsFile request.logLevel)

/-- Carry out `plan`. -/
def plan (request : PlanRequest) : Run (Except Stop Unit) := do
  match ← bindRequested request with
  | .error stop => return .error stop
  | .ok bindings => do
      writeBindings request.output bindings
      return .ok ()

/-- Print the class of a type on a line. -/
def printClass (classifier : TypeClassifier) (typeName : String) : Run Unit := do
  let description := Document.table (classifier.classify typeName .null).description
  Run.requireWritable description
  Run.print (typeName ++ ": " ++ Document.Json.write description ++ "\n")

/-- Carry out `classify`. -/
def classify (request : ClassifyRequest) : Run Unit := do
  let config ← setUp request.settingsFile request.logLevel
  let api ← match request.apiFile with
    | none | some "" => pure (Document.table [])
    | some path => Run.readDocument path
  let sizes ← SizeTable.configured config
  let classes ← ClassSet.known api config
  let classifier ← TypeClassifier.ofTables sizes classes.texts
  request.typeNames.forM (printClass classifier)

def failureRecord (message : String) : Log.Record :=
  Log.Record.plain Log.Level.error commandLogger commandPlace message

/-- The status of a command that is used in the wrong way. -/
def usageStatus : Nat := 2

def complain (program complaint : String) (host : Host) : Host :=
  { host with errorOutput := host.errorOutput ++ program ++ ": error: " ++ complaint ++ "\n" }

def helpText : String :=
  "usage: " ++ programName ++ " [-h] \x7bplan,classify\x7d ...\n"

def perform (request : Request) : Run (Except Stop Unit) :=
  match request with
  | .plan request => plan request
  | .classify request => do
      classify request
      return .ok ()

/-- Carry out a request in a host, and say how it ends. -/
def runRequest (request : Request) (host : Host) : Ending × Host :=
  match (perform request).run.run host with
  | (.ok (.ok ()), host) => (.status 0, host)
  | (.ok (.error (.unknownClass name)), host) =>
      (.status usageStatus, complain programName ("Unknown class: " ++ name) host)
  | (.error failure, host) =>
      if failure.isReported then
        (.status 1, host.deliver (failureRecord (failure.message.getD "")))
      else (.failed failure, host)

def run (arguments : List String) (host : Host) : Ending × Host :=
  match read arguments with
  | .error .help => (.status 0, { host with output := host.output ++ helpText })
  | .error (.usage program complaint) => (.status usageStatus, complain program complaint host)
  | .ok request => runRequest request host

end EngineBridge.Command
