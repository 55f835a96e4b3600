import EngineBridge.Text.Digit
import EngineBridge.Text.Quoted
import EngineBridge.Text.Split

/-!
Command lines.

A command line is a command with options and positional arguments in any order. A long option can
be shortened as long as it stays unique and can carry its value behind an equals sign; a short one
can carry its value right behind it. Behind a lone double hyphen, everything is positional.
-/

namespace EngineBridge.Command

/-- What an option does. -/
inductive OptionKind where
  | help
  | flag
  | value
deriving DecidableEq, Repr

structure OptionRule where
  names : List String
  kind : OptionKind
deriving DecidableEq, Repr

namespace OptionRule

def title (rule : OptionRule) : String :=
  String.intercalate "/" rule.names

end OptionRule

/-- What a command takes. -/
structure CommandRule where
  /-- The name under which problems are reported. -/
  program : String
  options : List OptionRule
  positional : String
  /-- Whether the positional argument can be given more than once. -/
  isRepeated : Bool

def programName : String := "gdmarshal"

def helpOption : OptionRule := ⟨["-h", "--help"], .help⟩

def commonOptions : List OptionRule :=
  [⟨["--config", "-c"], .value⟩, ⟨["--log-level"], .value⟩]

def planRule : CommandRule where
  program := programName ++ " plan"
  options := [helpOption, ⟨["--class"], .value⟩, ⟨["--utility"], .flag⟩,
    ⟨["--output", "-o"], .value⟩] ++ commonOptions
  positional := "api_file"
  isRepeated := false

def classifyRule : CommandRule where
  program := programName ++ " classify"
  options := [helpOption, ⟨["--api-file"], .value⟩] ++ commonOptions
  positional := "type_names"
  isRepeated := true

/-- Why a command line is not carried out. -/
inductive Refusal where
  | help
  | usage (program complaint : String)
deriving DecidableEq, Repr

/-- An option as it occurs: its name, and the value that is attached to it. -/
structure Occurrence where
  rule : OptionRule
  name : String
  attached : Option String
deriving DecidableEq, Repr

/-- What an argument is taken for. -/
inductive Mark where
  | option (occurrence : Occurrence)
  | unknownOption
  | positional
  | divider
deriving DecidableEq, Repr

/-- The names of all options, in order, with their rules. -/
def optionNames (options : List OptionRule) : List (String × OptionRule) :=
  options.flatMap fun rule => rule.names.map fun name => (name, rule)

/-- The parts of an argument before and behind its first equals sign. -/
def cutAtEquals (argument : String) : String × Option String :=
  match Text.cutAt? '=' argument.toList with
  | some (before, behind) => (String.ofList before, some (String.ofList behind))
  | none => (argument, none)

def longCandidates (options : List OptionRule) (argument : String) : List Occurrence :=
  let (lead, attached) := cutAtEquals argument
  (optionNames options).filterMap fun (name, rule) =>
    if lead.toList.isPrefixOf name.toList then some ⟨rule, name, attached⟩
    else none

/-- The options that an argument with one hyphen can mean: a short one with a value right behind
it, or one that goes on like this. -/
def shortCandidates (options : List OptionRule) (argument : String) : List Occurrence :=
  let characters := argument.toList
  (optionNames options).filterMap fun (name, rule) =>
    if name.toList = characters.take 2 then
      some ⟨rule, name, some (String.ofList (characters.drop 2))⟩
    else if characters.isPrefixOf name.toList then some ⟨rule, name, none⟩
    else none

def withoutLineFeed (characters : List Char) : List Char :=
  if characters.getLast? == some '\n' then characters.dropLast else characters

/-- Whether an argument is a negative number. Its digits may be of any script, and a line feed may
end it. -/
def isNegativeNumber (argument : List Char) : Bool :=
  match withoutLineFeed argument with
  | '-' :: rest =>
      let whole := rest.takeWhile Text.isDecimalDigit
      match rest.drop whole.length with
      | [] => !whole.isEmpty
      | '.' :: fraction => !fraction.isEmpty && fraction.all Text.isDecimalDigit
      | _ => false
  | _ => false

def mark (program : String) (options : List OptionRule) (argument : String) :
    Except Refusal Mark :=
  let exact := fun name : String => (optionNames options).lookup name
  match argument.toList with
  | '-' :: second :: _ =>
      match exact argument, cutAtEquals argument with
      | some rule, _ => .ok (.option ⟨rule, argument, none⟩)
      | none, (name, attached) =>
          match (if attached.isSome then exact name else none) with
          | some rule => .ok (.option ⟨rule, name, attached⟩)
          | none =>
              let candidates := if second = '-' then longCandidates options argument
                else shortCandidates options argument
              match candidates with
              | [only] => .ok (.option only)
              | [] =>
                  if isNegativeNumber argument.toList || argument.toList.contains ' ' then
                    .ok .positional
                  else .ok .unknownOption
              | several => .error (.usage program
                  ("ambiguous option: " ++ argument ++ " could match " ++
                    String.intercalate ", " (several.map Occurrence.name)))
  | _ => .ok .positional

def markAll (program : String) (options : List OptionRule) :
    List String → Except Refusal (List (String × Mark))
  | [] => .ok []
  | argument :: rest =>
      if argument = "--" then
        .ok ((argument, .divider) :: rest.map fun argument => (argument, .positional))
      else do
        let first ← mark program options argument
        return (argument, first) :: (← markAll program options rest)

/-- How far the positional argument has come. -/
inductive Progress where
  | open_
  /-- It has begun, and can go on until an option comes. -/
  | begun
  | closed
deriving DecidableEq, Repr

/-- What a command line has come to. -/
structure Collected where
  progress : Progress
  positionals : List String
  /-- The options that were given, with their values, in order. -/
  options : List (OptionRule × String)
  extras : List String

namespace Collected

def empty : Collected := ⟨.open_, [], [], []⟩

def addExtra (collected : Collected) (argument : String) : Collected :=
  { collected with extras := collected.extras ++ [argument] }

/-- A positional argument takes its place, if there is one. -/
def addPositional (isRepeated : Bool) (collected : Collected) (argument : String) : Collected :=
  match collected.progress, isRepeated with
  | .open_, _ | .begun, true =>
      { collected with progress := .begun, positionals := collected.positionals ++ [argument] }
  | _, _ => { collected.addExtra argument with progress := .closed }

def addDivider (isRepeated isLast : Bool) (collected : Collected) : Collected :=
  match collected.progress with
  | .open_ => if isLast then collected.addExtra "--" else collected
  | .begun => if isRepeated then collected else { collected with progress := .closed }
  | .closed => collected.addExtra "--"

/-- Positional arguments that have begun do not go on behind an option. -/
def atOption (collected : Collected) : Collected :=
  match collected.progress with
  | .begun => { collected with progress := .closed }
  | _ => collected

def addOption (collected : Collected) (rule : OptionRule) (value : String) : Collected :=
  { collected with options := collected.options ++ [(rule, value)] }

/-- The values of an option, in order. -/
def valuesOf (collected : Collected) (name : String) : List String :=
  collected.options.filterMap fun (rule, value) =>
    if rule.names.contains name then some value else none

def valueOf? (collected : Collected) (name : String) : Option String :=
  (collected.valuesOf name).getLast?

end Collected

def optionProblem (program : String) (rule : OptionRule) (complaint : String) : Refusal :=
  .usage program ("argument " ++ rule.title ++ ": " ++ complaint)

/-- An option that takes no value, with one attached. -/
def ignoredValue (program : String) (rule : OptionRule) (value : List Char) : Refusal :=
  optionProblem program rule ("ignored explicit argument " ++ Text.quoted (String.ofList value))

/-- What comes of short options that stand together, the first of which asks for help. All of them
are looked at before help is given: the last may lack its value, unless a value follows. A letter
that is no option makes what is left a value of the option before. -/
def helpCluster (program : String) (options : List OptionRule) (valueFollows : Bool)
    (asking : OptionRule) : List Char → Refusal
  | [] => .help
  | letter :: rest =>
      match (optionNames options).lookup (String.ofList ['-', letter]) with
      | none => ignoredValue program asking (letter :: rest)
      | some rule =>
          match rule.kind, rest with
          | .value, [] => if valueFollows then .help
              else optionProblem program rule "expected one argument"
          | .value, _ => .help
          | _, _ => helpCluster program options valueFollows rule rest

/-- What comes of an option that takes no value and has one attached. -/
def attachedProblem (program : String) (options : List OptionRule) (valueFollows : Bool)
    (occurrence : Occurrence) (value : List Char) : Refusal :=
  match occurrence.name.toList, value with
  | ['-', _], _ :: _ => helpCluster program options valueFollows occurrence.rule value
  | _, _ => ignoredValue program occurrence.rule value

/-- Take an option as far as it goes by itself. An option whose value is still to come is given
back. -/
def takeOption (rule : CommandRule) (valueFollows : Bool) (occurrence : Occurrence)
    (collected : Collected) : Except Refusal (Collected × Option OptionRule) :=
  match occurrence.rule.kind, occurrence.attached with
  | .value, some value => .ok (collected.addOption occurrence.rule value, none)
  | .value, none => .ok (collected, some occurrence.rule)
  | .flag, none => .ok (collected.addOption occurrence.rule "", none)
  | .help, none => .error .help
  | _, some value =>
      .error (attachedProblem rule.program rule.options valueFollows occurrence value.toList)

def isValueNext (arguments : List (String × Mark)) : Bool :=
  (arguments.head?.map Prod.snd) == some .positional

/-- Collect what a command line gives, where an option may be waiting for its value. -/
def collect (rule : CommandRule) :
    List (String × Mark) → Option OptionRule → Collected → Except Refusal Collected
  | [], none, collected => .ok collected
  | (argument, .positional) :: rest, some waiting, collected =>
      collect rule rest none (collected.addOption waiting argument)
  | _, some waiting, _ => .error (optionProblem rule.program waiting "expected one argument")
  | (argument, .unknownOption) :: rest, none, collected =>
      collect rule rest none (collected.atOption.addExtra argument)
  | (argument, .positional) :: rest, none, collected =>
      collect rule rest none (collected.addPositional rule.isRepeated argument)
  | (_, .divider) :: rest, none, collected =>
      collect rule rest none (collected.addDivider rule.isRepeated rest.isEmpty)
  | (_, .option occurrence) :: rest, none, collected => do
      let (collected, waiting) ← takeOption rule (isValueNext rest) occurrence collected.atOption
      collect rule rest waiting collected

/-- What a command is given behind its name. The positional argument has to be there. -/
def readCommand (rule : CommandRule) (arguments : List String) : Except Refusal Collected := do
  let marked ← markAll rule.program rule.options arguments
  let collected ← collect rule marked none Collected.empty
  if collected.positionals.isEmpty then
    throw (.usage rule.program ("the following arguments are required: " ++ rule.positional))
  return collected

def mainOptions : List OptionRule := [helpOption]

/-- The name of the command with everything behind it, and what stands before it without having a
place. -/
def findCommand : List (String × Mark) → Except Refusal (List String × List String)
  | [] => .ok ([], [])
  | (_, .option occurrence) :: _ =>
      match occurrence.attached with
      | none => .error .help
      | some value =>
          .error (attachedProblem programName mainOptions false occurrence value.toList)
  | (argument, .unknownOption) :: rest => do
      let (command, extras) ← findCommand rest
      return (command, argument :: extras)
  | (argument, .positional) :: rest => .ok (argument :: rest.map Prod.fst, [])
  | (argument, .divider) :: rest =>
      if rest.isEmpty then .ok ([], [argument]) else .ok (argument :: rest.map Prod.fst, [])

/-- What `plan` is asked to do. -/
structure PlanRequest where
  apiFile : String
  /-- The classes to bind; all of them if none is named. -/
  classNames : List String
  withUtilities : Bool
  output : Option String
  settingsFile : Option String
  logLevel : Option String
deriving DecidableEq, Repr

/-- What `classify` is asked to do. -/
structure ClassifyRequest where
  typeNames : List String
  apiFile : Option String
  settingsFile : Option String
  logLevel : Option String
deriving DecidableEq, Repr

inductive Request where
  | plan (request : PlanRequest)
  | classify (request : ClassifyRequest)
deriving DecidableEq, Repr

namespace Request

def paths : Request → List String
  | .plan request =>
      request.apiFile :: request.output.toList ++ request.settingsFile.toList
  | .classify request => request.apiFile.toList ++ request.settingsFile.toList

end Request

def planRequest (collected : Collected) : PlanRequest where
  apiFile := collected.positionals.headD ""
  classNames := collected.valuesOf "--class"
  withUtilities := !(collected.valuesOf "--utility").isEmpty
  output := collected.valueOf? "--output"
  settingsFile := collected.valueOf? "--config"
  logLevel := collected.valueOf? "--log-level"

def classifyRequest (collected : Collected) : ClassifyRequest where
  typeNames := collected.positionals
  apiFile := collected.valueOf? "--api-file"
  settingsFile := collected.valueOf? "--config"
  logLevel := collected.valueOf? "--log-level"

/-- A request, unless something on the command line has no place. -/
def unlessExtras (request : Request) (extras : List String) : Except Refusal Request :=
  if extras.isEmpty then .ok request
  else .error (.usage programName ("unrecognized arguments: " ++ String.intercalate " " extras))

def read (arguments : List String) : Except Refusal Request := do
  let marked ← markAll programName mainOptions arguments
  let (command, extras) ← findCommand marked
  match command with
  | [] => throw (.usage programName "the following arguments are required: subcommand")
  | "plan" :: rest => do
      let collected ← readCommand planRule rest
      unlessExtras (.plan (planRequest collected)) (extras ++ collected.extras)
  | "classify" :: rest => do
      let collected ← readCommand classifyRule rest
      unlessExtras (.classify (classifyRequest collected)) (extras ++ collected.extras)
  | other :: _ =>
      throw (.usage programName ("argument subcommand: invalid choice: " ++ Text.quoted other ++
        " (choose from 'plan', 'classify')"))

example : (match read ["classify", "--api", "f", "x", "y"] with
    | .ok request => decide (request = .classify ⟨["x", "y"], some "f", none, none⟩)
    | .error _ => false) = true := by decide +kernel

end EngineBridge.Command
