import EngineBridge.Document.Spelling

/-!
Why an operation is refused.

Each cause is a constructor that carries what went wrong, and `Failure.message` words it. The
causes at the end have no wording of their own: they arise where a document, a file or a value
does not have the shape that is asked of it.

A failure is worded where it arises, and the wording fails where it quotes a document that cannot be
written. So a failure that quotes documents arises as `Failure.raised`.
-/

namespace EngineBridge

/-- A contract with the engine or with the source of the descriptors is broken. -/
inductive BrokenInvariant where
  | hashOnVirtual (location hash : Document)
  /-- A method that is not virtual has no hash. -/
  | missingHash (location : Document)
  /-- The engine has no routine that builds a Variant from a typed value of this type. -/
  | noFromType (typeName : String)
  /-- The engine has no routine that reads a typed value of this type out of a Variant. -/
  | noToType (typeName : String)
  | noMethodBind (className methodName hash : Document)
  | noUtilityFunction (name hash : Document)
  /-- A virtual method has no native callable. -/
  | virtualTarget (methodName : Document)
  /-- A class method has no class to look it up in. -/
  | noOwningClass (methodName : Document)

/-- A boxed value or a native string is used after its release. -/
inductive LifetimeFault where
  | variantDestroyedTwice
  | variantUsedAfterDestroy
  | stringUsedAfterDestroy
deriving DecidableEq, Repr

/-- A value lies outside the values that are allowed where it stands. -/
inductive BadValue where
  /-- A line of the size table is no entry. -/
  | sizeTableLine (number : Nat) (line : String)
  | sizeOverride (typeName : String)
  /-- The size table does not give the size of the array type. -/
  | noArraySize
  | noExtraArguments (methodName : Document)
  | virtualWithoutClass (methodName : Document)
  | contentSize (typeName expected : Document) (found : Nat)
  | noVariantType (typeName : Document)
  | unknownLevel (name : String)

/-- A value of one kind stands where another kind is needed. -/
inductive BadKind where
  /-- A key is a table in one of two merged documents and no table in the other. -/
  | mixedTable (key kind defaultKind : String)
  | policyNames (tableName key : Document)
  | apiDescription
  | argumentCount (exposedName : Document) (expected found : Nat)
  | extraArguments (exposedName : Document)
  | missingInstance (className methodName : Document)
  | cannotBox (kind : String)
  | cannotConvert (kind : String)

/-- A settings file that has to exist does not. -/
inductive MissingSettings where
  | bundled
  | named (path : String)
  | fromEnvironment (value : String)

inductive Failure where
  /-- A raw pointer type stands in a signature. -/
  | unsupportedSignature (location : Document) (typeName position : String)
  | invariant (cause : BrokenInvariant)
  | lifetime (cause : LifetimeFault)
  | noEngine
  /-- A method entry does not have the form of a descriptor; both texts are as shown. -/
  | invalidDescriptor (name complaint : String)
  | badValue (cause : BadValue)
  | badKind (cause : BadKind)
  | missingSettings (cause : MissingSettings)
  /-- The engine was handed something that is gone. -/
  | engineFault (message : String)
  /-- Code on the engine's side failed. -/
  | engineFailure (message : String)
  /-- A value lacks a field that is asked of it. -/
  | noSuchField
  /-- A value of the wrong shape is iterated, compared, indexed or converted. -/
  | wrongShape
  | noSuchKey
  /-- A text or a number is none of those that can be read. -/
  | unreadable
  /-- A number is too large for the form that it is to take. -/
  | tooLarge
  | indexOutOfRange
  | malformedToml
  | malformedJson
  | fileNotFound
  | isDirectory
  | notDirectory
  | fileExists
  /-- A document is nested deeper than can be read. -/
  | tooDeep
  /-- There is no memory for what is asked. -/
  | outOfMemory
  /-- The home directory of a user is not known. -/
  | unknownHome
  /-- The system refuses what it is asked: a name is too long, or a time has no date. -/
  | refusedBySystem

namespace BrokenInvariant

def message : BrokenInvariant → String
  | .hashOnVirtual location hash =>
      location.wording ++ " is virtual but carries ABI hash " ++ hash.wording
  | .missingHash location => location.wording ++ " is not virtual but has no ABI hash"
  | .noFromType typeName => "engine has no from-type constructor for " ++ typeName
  | .noToType typeName => "engine has no to-type constructor for " ++ typeName
  | .noMethodBind className methodName hash =>
      "engine has no method bind for " ++ className.wording ++ "." ++ methodName.wording ++
        " (hash " ++ hash.wording ++ ")"
  | .noUtilityFunction name hash =>
      "engine has no utility function " ++ name.wording ++ " (hash " ++ hash.wording ++ ")"
  | .virtualTarget methodName =>
      "'" ++ methodName.wording ++ "' is virtual and has no call target"
  | .noOwningClass methodName =>
      "class method '" ++ methodName.wording ++ "' has no owning class"

/-- The documents that the wording quotes. -/
def quoted : BrokenInvariant → List Document
  | .hashOnVirtual location hash => [location, hash]
  | .missingHash location => [location]
  | .noFromType _ | .noToType _ => []
  | .noMethodBind className methodName hash => [className, methodName, hash]
  | .noUtilityFunction name hash => [name, hash]
  | .virtualTarget methodName | .noOwningClass methodName => [methodName]

end BrokenInvariant

namespace LifetimeFault

def message : LifetimeFault → String
  | .variantDestroyedTwice => "Variant destroyed twice"
  | .variantUsedAfterDestroy => "Variant used after destroy"
  | .stringUsedAfterDestroy => "native string used after destroy"

end LifetimeFault

namespace BadValue

def message : BadValue → String
  | .sizeTableLine number line =>
      "Invalid entry in builtin_sizes.txt on line " ++ Number.writeInt number ++ ": '" ++ line ++ "'"
  | .sizeOverride typeName => "types.size_overrides." ++ typeName ++ " must be a positive integer"
  | .noArraySize => "built-in size table is missing 'Array'"
  | .noExtraArguments methodName =>
      "'" ++ methodName.wording ++ "' does not accept extra arguments"
  | .virtualWithoutClass methodName =>
      "virtual method '" ++ methodName.wording ++ "' has no owning class"
  | .contentSize typeName expected found =>
      typeName.wording ++ " content must be " ++ expected.wording ++ " bytes, got " ++
        Number.writeInt found
  | .noVariantType typeName => "'" ++ typeName.wording ++ "' has no Variant type"
  | .unknownLevel name => "Unknown log level: " ++ name

def quoted : BadValue → List Document
  | .sizeTableLine .. | .sizeOverride _ | .noArraySize | .unknownLevel _ => []
  | .noExtraArguments methodName | .virtualWithoutClass methodName => [methodName]
  | .contentSize typeName expected _ => [typeName, expected]
  | .noVariantType typeName => [typeName]

end BadValue

namespace BadKind

def message : BadKind → String
  | .mixedTable key kind defaultKind =>
      "Type mismatch for key '" ++ key ++ "': config has " ++ kind ++ ", default_config has " ++
        defaultKind
  | .policyNames tableName key =>
      "policy." ++ tableName.wording ++ "." ++ key.wording ++ " must be a list of method names"
  | .apiDescription => "API description must be a JSON object"
  | .argumentCount exposedName expected found =>
      exposedName.wording ++ "() takes " ++ Number.writeInt expected ++ " argument(s), got " ++
        Number.writeInt found
  | .extraArguments exposedName =>
      exposedName.wording ++ "() does not accept extra arguments"
  | .missingInstance className methodName =>
      className.wording ++ "." ++ methodName.wording ++ " needs an instance"
  | .cannotBox kind => "cannot box " ++ kind ++ " into a Variant"
  | .cannotConvert kind => "cannot convert a Variant to " ++ kind

def quoted : BadKind → List Document
  | .mixedTable .. | .apiDescription | .cannotBox _ | .cannotConvert _ => []
  | .policyNames tableName key => [tableName, key]
  | .argumentCount exposedName _ _ | .extraArguments exposedName => [exposedName]
  | .missingInstance className methodName => [className, methodName]

end BadKind

namespace MissingSettings

def message : MissingSettings → String
  | .bundled => "Could not load _resources/gdmarshal.default.toml"
  | .named path => "Could not find config file " ++ path
  | .fromEnvironment value =>
      "GDMARSHAL_CONFIG=" ++ value ++ " does not point to a readable file"

end MissingSettings

namespace Failure

/-- The wording of a failure, for the causes that have one. -/
def message : Failure → Option String
  | .unsupportedSignature location typeName position =>
      some ("unsupported C pointer type '" ++ typeName ++ "' in " ++ position ++ " of '" ++
        location.wording ++ "'")
  | .invariant cause => some cause.message
  | .lifetime cause => some cause.message
  | .noEngine =>
      some "call gdmarshal.engine.set_engine() before using Variants or dispatching calls"
  | .invalidDescriptor name complaint => some ("invalid descriptor " ++ name ++ ": " ++ complaint)
  | .badValue cause => some cause.message
  | .badKind cause => some cause.message
  | .missingSettings cause => some cause.message
  | .engineFault message => some message
  | .engineFailure message => some message
  | .noSuchField | .wrongShape | .noSuchKey | .unreadable | .tooLarge | .indexOutOfRange
  | .malformedToml | .malformedJson | .fileNotFound | .isDirectory | .notDirectory
  | .fileExists | .tooDeep | .outOfMemory | .unknownHome | .refusedBySystem => none

/-- The documents that the wording of a failure quotes. -/
def quoted : Failure → List Document
  | .unsupportedSignature location _ _ => [location]
  | .invariant cause => cause.quoted
  | .badValue cause => cause.quoted
  | .badKind cause => cause.quoted
  | _ => []

/-- A failure as it arises: itself, unless it cannot be worded. -/
def raised (failure : Failure) : Failure :=
  if failure.quoted.all Document.isWritable then failure else .unreadable

theorem raised_of_writable {failure : Failure}
    (writable : ∀ document ∈ failure.quoted, document.isWritable = true) :
    failure.raised = failure :=
  if_pos (List.all_eq_true.mpr writable)

theorem raised_eq_or (failure : Failure) :
    failure.raised = failure ∨ failure.raised = .unreadable := by
  unfold raised
  split
  · exact .inl rfl
  · exact .inr rfl

/-- Whether a failure is one of the library's own: those are reported and end a command with
status 1. -/
def isReported : Failure → Bool
  | .unsupportedSignature .. | .invariant _ | .lifetime _ | .noEngine | .invalidDescriptor .. => true
  | _ => false

end Failure

end EngineBridge
