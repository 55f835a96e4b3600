import EngineBridge.Descriptor.AbiHash

/-!
Descriptors of the methods of an engine's classes and of its utility functions.
-/

namespace EngineBridge

structure Argument where
  name : String
  typeName : String
  /-- The width of a number, where the description gives one. -/
  metadata : Option String
  /-- The default value as the description writes it. -/
  defaultValue : Option String

structure ReturnValue where
  typeName : String
  metadata : Option String

structure MethodDescriptor where
  name : String
  arguments : List Argument
  returnValue : Option ReturnValue
  isStatic : Bool
  isVirtual : Bool
  isVararg : Bool
  isConst : Bool
  /-- Present exactly for methods that the engine can be asked for. -/
  abiHash : Option AbiHash

namespace MethodDescriptor

/-- The type names of a signature: those of the arguments in order, then that of the result. -/
def typeNames (descriptor : MethodDescriptor) : List String :=
  descriptor.arguments.map Argument.typeName ++
    (descriptor.returnValue.map ReturnValue.typeName).toList

end MethodDescriptor

end EngineBridge
