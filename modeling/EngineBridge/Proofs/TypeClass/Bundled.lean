import EngineBridge.TypeClass.Classifier

/-!
Classifying by the sizes that come with the library.

What a value looks like to the engine follows from the name of the type it is declared with.
`crossingForm` says this by the names alone, and `crossesAs_classify` that the classes of types
agree with it, as long as no primitive is taken for the name of a class.
-/

namespace EngineBridge

/-- What a value looks like to the engine when it is passed as a declared type. -/
inductive CrossingForm where
  /-- A byte that is zero or one. -/
  | truth
  /-- A float of 64 bits. -/
  | real
  /-- A signed integer of 64 bits. -/
  | word
  /-- The number of a member, as a signed integer of 64 bits. -/
  | ordinal
  /-- A native string. -/
  | text
  /-- A boxed value. -/
  | boxed
  /-- Bytes that only the engine can read. -/
  | content
  /-- The handle of an object, which takes the place of an address. -/
  | handle
deriving DecidableEq, Repr

open TypeClassifier in
/-- The form in which values of a declared type cross, where some names are those of classes. -/
def crossingForm (classes : List String) (typeName : String) : CrossingForm :=
  if (Text.after? enumLead typeName).isSome || (Text.after? bitfieldLead typeName).isSome then
    .ordinal
  else if (Text.after? typedArrayLead typeName).isSome then .content
  else if typeName = objectType then .handle
  else if typeName = "bool" then .truth
  else if typeName = "float" then .real
  else if typeName = stringType then .text
  else if typeName = variantType then .boxed
  else if (Entries.get? SizeTable.bundled typeName).isSome then .content
  else if classes.contains typeName then .handle
  else .word

example : crossingForm [] "enum::Error" = .ordinal ∧ crossingForm [] "Vector2" = .content ∧
    crossingForm ["Node"] "Node" = .handle ∧ crossingForm [] "Node" = .word := by
  decide +kernel

/-- How the class of a type name belongs to the form of its values. -/
inductive CrossesAs (typeName : String) : TypeClass → CrossingForm → Prop
  | truth {metadata : Document} (named : typeName = "bool") :
      CrossesAs typeName (.primitive typeName metadata) .truth
  | real {metadata : Document} (named : typeName = "float") :
      CrossesAs typeName (.primitive typeName metadata) .real
  | word {metadata : Document} (notString : typeName ≠ stringType) (notBool : typeName ≠ "bool")
      (notFloat : typeName ≠ "float") : CrossesAs typeName (.primitive typeName metadata) .word
  | ordinal {base : String} {isBitfield : Bool} (notString : typeName ≠ stringType) :
      CrossesAs typeName (.enumeration base isBitfield) .ordinal
  | text {size : Size} (named : typeName = stringType)
      (sized : Entries.get? SizeTable.bundled typeName = some size) :
      CrossesAs typeName (.builtin typeName size) .text
  | boxed {size : Size} (named : typeName = variantType)
      (sized : Entries.get? SizeTable.bundled typeName = some size) :
      CrossesAs typeName (.builtin typeName size) .boxed
  | builtin {size : Size} (notString : typeName ≠ stringType) (notVariant : typeName ≠ variantType)
      (sized : Entries.get? SizeTable.bundled typeName = some size) :
      CrossesAs typeName (.builtin typeName size) .content
  | typedArray {element : String} (notString : typeName ≠ stringType) :
      CrossesAs typeName (.typedArray element (.bytes 8)) .content
  | handle (notString : typeName ≠ stringType) : CrossesAs typeName (.classHandle typeName) .handle

namespace SizeTable

theorem ofPairs_bundled : Entries.ofPairs bundled = bundled := rfl

end SizeTable

namespace TypeClassifier

/-- The classifier of the sizes that come with the library. -/
def bundled (classes : List String) : TypeClassifier where
  sizes := Entries.ofPairs SizeTable.bundled
  classes
  arraySize := .bytes 8
  arraySize_mem := rfl

private theorem ne_of_lead {lead typeName other : String}
    (led : (Text.after? lead typeName).isSome = true) (notLed : Text.after? lead other = none) :
    typeName ≠ other := by
  rintro rfl
  rw [notLed] at led
  cases led

/-- What is classified as an integer has the name of one. -/
theorem eq_of_classify_primitive {classifier : TypeClassifier} {typeName known : String}
    {metadata given : Document}
    (classified : classifier.classify typeName metadata = .primitive known given) :
    typeName = known := by
  unfold classify classifyPlain at classified
  split at classified
  · cases classified
  · cases classified
  · cases classified
  · split at classified
    · cases classified
    · split at classified
      · cases classified
      · split at classified
        · cases classified
        · cases classified
          rfl

/-- Texts are not classified as members of an enumeration. -/
theorem ne_stringType_of_classify_enumeration {classifier : TypeClassifier} {typeName base : String}
    {metadata : Document} {isBitfield : Bool}
    (classified : classifier.classify typeName metadata = .enumeration base isBitfield) :
    typeName ≠ stringType := by
  unfold classify at classified
  split at classified
  · rename_i enumLed
    exact ne_of_lead (by rw [enumLed]; rfl) (by decide +kernel)
  · rename_i bitfieldLed
    exact ne_of_lead (by rw [bitfieldLed]; rfl) (by decide +kernel)
  · cases classified
  · unfold classifyPlain at classified
    split at classified
    · cases classified
    · split at classified
      · cases classified
      · split at classified <;> cases classified

private theorem crossesAs_classifyPlain {classes : List String}
    (primitive : ∀ typeName ∈ ["bool", "int", "float"], typeName ∉ classes) {typeName : String}
    (notObject : typeName ≠ objectType) (metadata : Document) :
    CrossesAs typeName ((bundled classes).classifyPlain typeName metadata)
      (if typeName = "bool" then .truth
      else if typeName = "float" then .real
      else if typeName = stringType then .text
      else if typeName = variantType then .boxed
      else if (Entries.get? SizeTable.bundled typeName).isSome then .content
      else if classes.contains typeName then .handle
      else .word) := by
  unfold classifyPlain
  rw [if_neg notObject, show (bundled classes).sizes = SizeTable.bundled from
    SizeTable.ofPairs_bundled]
  by_cases isBool : typeName = "bool"
  · subst isBool
    rw [if_pos rfl, show Entries.get? SizeTable.bundled "bool" = none from rfl]
    simp only [bundled, List.contains_iff_mem, primitive "bool" (by simp), if_false]
    exact .truth rfl
  by_cases isFloat : typeName = "float"
  · subst isFloat
    rw [if_neg isBool, if_pos rfl, show Entries.get? SizeTable.bundled "float" = none from rfl]
    simp only [bundled, List.contains_iff_mem, primitive "float" (by simp), if_false]
    exact .real rfl
  rw [if_neg isBool, if_neg isFloat]
  by_cases isString : typeName = stringType
  · subst isString
    rw [if_pos rfl, show Entries.get? SizeTable.bundled stringType = some (.bytes 8) from rfl]
    exact .text rfl rfl
  rw [if_neg isString]
  by_cases isVariant : typeName = variantType
  · subst isVariant
    rw [if_pos rfl, show Entries.get? SizeTable.bundled variantType = some (.bytes 24) from rfl]
    exact .boxed rfl rfl
  rw [if_neg isVariant]
  cases sized : Entries.get? SizeTable.bundled typeName with
  | some size => exact .builtin isString isVariant sized
  | none =>
      simp only [Option.isSome_none, Bool.false_eq_true, if_false]
      change CrossesAs typeName (if classes.contains typeName then _ else _) _
      cases classes.contains typeName with
      | true => exact .handle isString
      | false => exact .word isString isBool isFloat

/-- The class of a type name fits the form of its values. -/
theorem crossesAs_classify {classes : List String}
    (primitive : ∀ typeName ∈ ["bool", "int", "float"], typeName ∉ classes) (typeName : String)
    (metadata : Document) :
    CrossesAs typeName ((bundled classes).classify typeName metadata)
      (crossingForm classes typeName) := by
  unfold classify crossingForm
  cases enumLed : Text.after? enumLead typeName with
  | some base => exact .ordinal (ne_of_lead (by rw [enumLed]; rfl) (by decide +kernel))
  | none =>
      cases bitfieldLed : Text.after? bitfieldLead typeName with
      | some base => exact .ordinal (ne_of_lead (by rw [bitfieldLed]; rfl) (by decide +kernel))
      | none =>
          cases arrayLed : Text.after? typedArrayLead typeName with
          | some element =>
              exact .typedArray (ne_of_lead (by rw [arrayLed]; rfl) (by decide +kernel))
          | none =>
              simp only [Option.isSome_none, Bool.or_self, Bool.false_eq_true, if_false]
              by_cases isObject : typeName = objectType
              · subst isObject
                exact .handle (by decide)
              · rw [if_neg isObject]
                exact crossesAs_classifyPlain primitive isObject metadata

end TypeClassifier

end EngineBridge
