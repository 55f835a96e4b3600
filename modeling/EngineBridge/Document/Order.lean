import EngineBridge.Document.Access

/-!
Documents in ascending order.

Texts have an order among each other, and so do numbers of all kinds, by their exact value. A list
that mixes them, or that holds two members without an order, cannot be sorted.
-/

namespace EngineBridge.Document

/-- The number that a document is: the integer part, rounded down, and what lies above it. -/
inductive Magnitude where
  /-- An integer part with the bits of the whole if it is no integer. -/
  | finite (floor : Int) (rest : Option Float)
  | infinite (isNegative : Bool)

namespace Magnitude

def ofFloat (value : Float) : Magnitude :=
  match Number.floor? value with
  | some floor => .finite floor (if (Number.exactInt? value).isSome then none else some value)
  | none => .infinite (Number.isNegative value)

def lessThan : Magnitude → Magnitude → Bool
  | .infinite true, .infinite isNegative => !isNegative
  | .infinite isNegative, .finite .. => isNegative
  | .infinite false, .infinite _ => false
  | .finite .., .infinite isNegative => !isNegative
  | .finite left leftRest, .finite right rightRest =>
      left < right || left == right && match leftRest, rightRest with
        | none, some _ => true
        | some first, some second => first < second
        | _, none => false

end Magnitude

def magnitude? : Document → Option Magnitude
  | .float value => some (Magnitude.ofFloat value)
  | other => other.number?.map fun number => .finite number none

/-- Whether one document is below another, for documents that have an order. -/
def below? (left right : Document) : Option Bool :=
  match left, right with
  | .text first, .text second => some (first < second)
  | left, right => do return (← left.magnitude?).lessThan (← right.magnitude?)

/-- Documents in ascending order; equal ones stay in the order in which they came. -/
def sorted (documents : List Document) : Except Failure (List Document) :=
  match documents with
  | [] | [_] => .ok documents
  | first :: rest =>
      if rest.all fun other => (below? first other).isSome then
        .ok (documents.mergeSort fun left right => !(below? right left).getD false)
      else .error .wrongShape

end EngineBridge.Document
