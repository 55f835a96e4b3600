import EngineBridge.Document.Key

/-!
The hash that identifies the binary interface of a bound method.

Descriptions write it as an integer, or as a float that is whole. Both forms stand for the same
number, and each is passed on in the form in which it was written.
-/

namespace EngineBridge

inductive AbiHash where
  | int (number : Int)
  | float (number : Float)

namespace AbiHash

def document : AbiHash → Document
  | .int number => .int number
  | .float number => .float number

instance : Inhabited AbiHash := ⟨.int 0⟩

end AbiHash

end EngineBridge
