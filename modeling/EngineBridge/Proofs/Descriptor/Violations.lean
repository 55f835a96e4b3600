import EngineBridge.Descriptor.Schema
import EngineBridge.Proofs.Document.Layered
import EngineBridge.Proofs.Document.Writable
import Mathlib.Data.List.Induction

/-!
Violations of a schema, and which of them is reported.

A violation names a part of the document and says what is wrong with it. Main statements: the
violations are all that a schema finds in a document; the paths of two of them can be compared,
since at the first step in which they differ both go to a key or both to a position; and the
violation that is reported is the first of those whose path comes first.
-/

namespace EngineBridge.Document

/-- The part of a document to which a step leads. -/
def child? : Document → Step → Option Document
  | .table entries, .key name => Entries.get? entries name
  | .array items, .index position => items[position]?
  | _, _ => none

/-- The part of a document to which a path leads. -/
def part? : Document → Path → Option Document
  | document, [] => some document
  | document, step :: rest => (document.child? step).bind fun part => part.part? rest

namespace Schema

/-! ## The parts of a schema -/

def kind : Schema → Kind
  | .mk kind _ _ _ _ _ => kind

def nonEmpty : Schema → Bool
  | .mk _ nonEmpty _ _ _ _ => nonEmpty

def required : Schema → List String
  | .mk _ _ required _ _ _ => required

def properties : Schema → List (String × Schema)
  | .mk _ _ _ properties _ _ => properties

def items : Schema → List Schema
  | .mk _ _ _ _ items _ => items

def notTogether : Schema → List String
  | .mk _ _ _ _ _ notTogether => notTogether

/-! ## What a schema finds -/

/-- What a schema finds wrong with a document and its parts, and what it says of it. -/
inductive Finds : Schema → Document → Violation → Prop
  | kind {schema : Schema} {document : Document} (other : schema.kind.admits document = false) :
      Finds schema document ⟨[], document, "is not of type '" ++ schema.kind.name ++ "'"⟩
  | empty {schema : Schema} (asked : schema.nonEmpty = true) :
      Finds schema (.text "") ⟨[], .text "", "should be non-empty"⟩
  | missing {schema : Schema} {entries : List (String × Document)} {key : String}
      (asked : key ∈ schema.required) (absent : Entries.contains entries key = false) :
      Finds schema (.table entries) ⟨[], .text key, "is a required property"⟩
  | property {schema part : Schema} {entries : List (String × Document)} {key : String}
      {value : Document} {violation : Violation} (asked : (key, part) ∈ schema.properties)
      (found : Entries.get? entries key = some value) (inside : part.Finds value violation) :
      Finds schema (.table entries) (violation.below (.key key))
  | item {schema part : Schema} {values : List Document} {position : Nat} {value : Document}
      {violation : Violation} (asked : schema.items.head? = some part)
      (found : values[position]? = some value) (inside : part.Finds value violation) :
      Finds schema (.array values) (violation.below (.index position))
  | together {schema : Schema} {document : Document} (asked : schema.notTogether ≠ [])
      (all : holdsAll schema.notTogether document = true) :
      Finds schema document ⟨[], document, "should not be valid under " ++
        spelling (.table [("required", .array (schema.notTogether.map .text))])⟩

/-- A violation leads to a part of the document. -/
theorem Finds.exists_part {schema : Schema} {document : Document} {violation : Violation}
    (finds : schema.Finds document violation) :
    ∃ part, document.part? violation.path = some part := by
  induction finds with
  | kind | empty | missing | together => exact ⟨_, rfl⟩
  | property _ found _ induction =>
      obtain ⟨part, there⟩ := induction
      exact ⟨part, by rw [Violation.below, part?, child?, found, Option.bind_some, there]⟩
  | item _ found _ induction =>
      obtain ⟨part, there⟩ := induction
      exact ⟨part, by rw [Violation.below, part?, child?, found, Option.bind_some, there]⟩

/-- What is found in a document that can be written can be worded: it quotes a part of it, or a key. -/
theorem Finds.isWritable {schema : Schema} {document : Document} {violation : Violation}
    (finds : schema.Finds document violation) (writable : document.isWritable = true) :
    violation.isWritable = true := by
  induction finds with
  | kind other => exact writable
  | empty asked => rfl
  | missing asked absent => rfl
  | property asked found _ induction => exact induction (isWritable_of_get? writable found)
  | item asked found _ induction =>
      exact induction (isWritable_array.mp writable _ (List.mem_of_getElem? found))
  | together asked all => exact writable

section Own

variable {violation : Violation} {document : Document}

theorem mem_checkKind_iff {kind : Kind} :
    violation ∈ checkKind kind document ↔ kind.admits document = false ∧
      violation = ⟨[], document, "is not of type '" ++ kind.name ++ "'"⟩ := by
  unfold checkKind
  split <;> simp_all

theorem mem_checkNonEmpty_iff {nonEmpty : Bool} :
    violation ∈ checkNonEmpty nonEmpty document ↔
      nonEmpty = true ∧ document = .text "" ∧
        violation = ⟨[], .text "", "should be non-empty"⟩ := by
  cases document with
  | text value =>
      by_cases empty : value = ""
      · subst empty
        cases nonEmpty <;> simp [checkNonEmpty]
      · simp [checkNonEmpty, empty]
  | _ => simp [checkNonEmpty]

theorem mem_checkRequired_iff {required : List String} :
    violation ∈ checkRequired required document ↔ ∃ entries key, document = .table entries ∧
      key ∈ required ∧ Entries.contains entries key = false ∧
      violation = ⟨[], .text key, "is a required property"⟩ := by
  cases document with
  | table entries =>
      simp only [checkRequired, List.mem_map, List.mem_filter, Bool.not_eq_true', and_assoc]
      constructor
      · rintro ⟨key, asked, absent, rfl⟩
        exact ⟨entries, key, rfl, asked, absent, rfl⟩
      · rintro ⟨_, key, same, asked, absent, rfl⟩
        cases same
        exact ⟨key, asked, absent, rfl⟩
  | _ => simp [checkRequired]

theorem mem_checkTogether_iff {notTogether : List String} :
    violation ∈ checkTogether notTogether document ↔
      notTogether ≠ [] ∧ holdsAll notTogether document = true ∧
      violation = ⟨[], document, "should not be valid under " ++
        spelling (.table [("required", .array (notTogether.map .text))])⟩ := by
  simp [checkTogether, and_assoc]

theorem mem_parts_iff {schema : Schema} :
    violation ∈ schema.violations document ↔
      violation ∈ checkKind schema.kind document ∨
      violation ∈ checkNonEmpty schema.nonEmpty document ∨
      violation ∈ checkRequired schema.required document ∨
      violation ∈ propertyViolations schema.properties document ∨
      violation ∈ itemViolations schema.items document ∨
      violation ∈ checkTogether schema.notTogether document := by
  cases schema
  simp only [violations, List.mem_append, or_assoc]
  rfl

end Own

mutual

theorem finds_of_mem_violations (schema : Schema) (document : Document) (violation : Violation)
    (member : violation ∈ schema.violations document) : schema.Finds document violation := by
  obtain ⟨kind, nonEmpty, required, properties, items, notTogether⟩ := schema
  simp only [mem_parts_iff, mem_checkKind_iff, mem_checkNonEmpty_iff, mem_checkRequired_iff,
    mem_checkTogether_iff] at member
  rcases member with ⟨other, rfl⟩ | ⟨asked, rfl, rfl⟩ | ⟨_, _, rfl, asked, absent, rfl⟩ |
    inProperty | inItem | ⟨asked, all, rfl⟩
  · exact .kind other
  · exact .empty asked
  · exact .missing asked absent
  · have ⟨key, part, _, value, inner, asked, same, found, inside, below⟩ :=
      exists_property_of_mem properties document violation inProperty
    rw [same, below]
    exact .property asked found inside
  · have ⟨part, _, position, value, inner, asked, same, found, inside, below⟩ :=
      exists_item_of_mem items document violation inItem
    rw [same, below]
    exact .item asked found inside
  · exact .together asked all

theorem exists_property_of_mem (properties : List (String × Schema)) (document : Document)
    (violation : Violation) (member : violation ∈ propertyViolations properties document) :
    ∃ key part entries value inner, (key, part) ∈ properties ∧ document = .table entries ∧
      Entries.get? entries key = some value ∧ part.Finds value inner ∧
      violation = inner.below (.key key) := by
  match properties with
  | [] => cases member
  | (key, schema) :: rest =>
      rcases List.mem_append.mp member with here | behind
      · cases document with
        | table entries =>
            simp only at here
            cases found : Entries.get? entries key with
            | none =>
                rw [found] at here
                cases here
            | some value =>
                rw [found] at here
                obtain ⟨inner, inside, rfl⟩ := List.mem_map.mp here
                exact ⟨key, schema, entries, value, inner, List.mem_cons_self, rfl, found,
                  finds_of_mem_violations schema value inner inside, rfl⟩
        | _ => cases here
      · have ⟨key, part, entries, value, inner, asked, others⟩ :=
          exists_property_of_mem rest document violation behind
        exact ⟨key, part, entries, value, inner, List.mem_cons_of_mem _ asked, others⟩

theorem exists_item_of_mem (items : List Schema) (document : Document) (violation : Violation)
    (member : violation ∈ itemViolations items document) :
    ∃ part values position value inner, items.head? = some part ∧ document = .array values ∧
      values[position]? = some value ∧ part.Finds value inner ∧
      violation = inner.below (.index position) := by
  match items with
  | [] => cases document <;> cases member
  | schema :: _ =>
      cases document with
      | array values =>
          obtain ⟨found, listed, inside⟩ := List.mem_flatten.mp member
          obtain ⟨position, bound, rfl⟩ := List.mem_mapIdx.mp listed
          obtain ⟨inner, within, rfl⟩ := List.mem_map.mp inside
          exact ⟨schema, values, position, _, inner, rfl, rfl, List.getElem?_eq_getElem bound,
            finds_of_mem_violations schema _ inner within, rfl⟩
      | _ => cases member

end

theorem mem_propertyViolations {properties : List (String × Schema)} {key : String} {part : Schema}
    (asked : (key, part) ∈ properties) {entries : List (String × Document)} {value : Document}
    (found : Entries.get? entries key = some value) {violation : Violation}
    (inside : violation ∈ part.violations value) :
    violation.below (.key key) ∈ propertyViolations properties (.table entries) := by
  induction properties with
  | nil => cases asked
  | cons property rest induction =>
      rcases List.mem_cons.mp asked with rfl | behind
      · apply List.mem_append_left
        simp only [found]
        exact List.mem_map_of_mem inside
      · exact List.mem_append_right _ (induction behind)

theorem mem_itemViolations {items : List Schema} {part : Schema} (asked : items.head? = some part)
    {values : List Document} {position : Nat} {value : Document}
    (found : values[position]? = some value) {violation : Violation}
    (inside : violation ∈ part.violations value) :
    violation.below (.index position) ∈ itemViolations items (.array values) := by
  obtain ⟨others, rfl⟩ := List.head?_eq_some_iff.mp asked
  obtain ⟨bound, rfl⟩ := List.getElem?_eq_some_iff.mp found
  exact List.mem_flatten.mpr
    ⟨_, List.mem_mapIdx.mpr ⟨position, bound, rfl⟩, List.mem_map_of_mem inside⟩

/-- The violations are all that the schema finds. -/
theorem mem_violations_iff {schema : Schema} {document : Document} {violation : Violation} :
    violation ∈ schema.violations document ↔ schema.Finds document violation := by
  refine ⟨finds_of_mem_violations schema document violation, fun finds => ?_⟩
  induction finds with
  | kind other => exact mem_parts_iff.mpr (.inl (mem_checkKind_iff.mpr ⟨other, rfl⟩))
  | empty asked =>
      exact mem_parts_iff.mpr (.inr (.inl (mem_checkNonEmpty_iff.mpr ⟨asked, rfl, rfl⟩)))
  | missing asked absent =>
      exact mem_parts_iff.mpr (.inr (.inr (.inl
        (mem_checkRequired_iff.mpr ⟨_, _, rfl, asked, absent, rfl⟩))))
  | property asked found _ induction =>
      exact mem_parts_iff.mpr (.inr (.inr (.inr (.inl
        (mem_propertyViolations asked found induction)))))
  | item asked found _ induction =>
      exact mem_parts_iff.mpr (.inr (.inr (.inr (.inr (.inl
        (mem_itemViolations asked found induction))))))
  | together asked all =>
      exact mem_parts_iff.mpr (.inr (.inr (.inr (.inr (.inr
        (mem_checkTogether_iff.mpr ⟨asked, all, rfl⟩))))))

end Schema

/-! ## Comparing paths -/

namespace Step

theorem lessThan_irrefl (step : Step) : step.lessThan step = false := by
  cases step <;> simp [lessThan]

theorem lessThan_trans {first second third : Step} (lower : first.lessThan second = true)
    (upper : second.lessThan third = true) : first.lessThan third = true := by
  cases first <;> cases second <;> cases third <;>
    simp only [lessThan, decide_eq_true_eq, Bool.false_eq_true] at lower upper ⊢
  · exact String.lt_trans lower upper
  · exact Nat.lt_trans lower upper

/-- Of two steps one comes first, if they are not the same. -/
theorem lessThan_of_not_lessThan {first second : Step} (notFirst : first.lessThan second = false)
    (different : first ≠ second) : second.lessThan first = true := by
  cases first <;> cases second <;>
    simp only [lessThan, decide_eq_true_eq, decide_eq_false_iff_not, ne_eq, key.injEq, index.injEq,
      Bool.true_eq_false] at notFirst different ⊢
  · exact Std.lt_of_le_of_ne (String.not_lt.mp notFirst) (Ne.symm different)
  · omega

/-- Whether two steps are of one kind, so that they can be compared. -/
def IsLike : Step → Step → Prop
  | .key _, .key _ => True
  | .index _, .index _ => True
  | _, _ => False

end Step

namespace Path

/-- Whether two paths can be compared: where they part, both go to a key or both to a position. -/
def Comparable : Path → Path → Prop
  | left :: lefts, right :: rights => left.IsLike right ∧ (left = right → Comparable lefts rights)
  | _, _ => True

theorem isLike_of_isSome_child? {document : Document} {first second : Step}
    (there : (document.child? first).isSome = true)
    (thereToo : (document.child? second).isSome = true) : first.IsLike second := by
  cases document <;> cases first <;> cases second <;> trivial

/-- Paths to parts of one document can be compared. -/
theorem comparable_of_part? {document leftPart rightPart : Document} {left right : Path}
    (toLeft : document.part? left = some leftPart)
    (toRight : document.part? right = some rightPart) : left.Comparable right := by
  induction left generalizing document right with
  | nil => cases right <;> trivial
  | cons first lefts induction =>
      cases right with
      | nil => trivial
      | cons second rights =>
          rw [part?, Option.bind_eq_some_iff] at toLeft toRight
          have ⟨part, leads, inside⟩ := toLeft
          have ⟨other, leadsToo, insideOther⟩ := toRight
          refine ⟨isLike_of_isSome_child? (Option.isSome_of_mem leads)
            (Option.isSome_of_mem leadsToo), ?_⟩
          rintro rfl
          cases leads.symm.trans leadsToo
          exact induction inside insideOther

theorem lessThan_cons (first second : Step) (lefts rights : Path) :
    lessThan (first :: lefts) (second :: rights) =
      if first = second then lessThan lefts rights else first.lessThan second := by
  rw [lessThan]

theorem lessThan_asymm {left right : Path} (lower : left.lessThan right = true) :
    right.lessThan left = false := by
  induction left generalizing right with
  | nil =>
      cases right with
      | nil => cases lower
      | cons second rights => rfl
  | cons first lefts induction =>
      cases right with
      | nil => cases lower
      | cons second rights =>
          rw [lessThan_cons] at lower ⊢
          by_cases same : first = second
          · rw [if_pos same] at lower
            rw [if_pos same.symm]
            exact induction lower
          · rw [if_neg same] at lower
            rw [if_neg (Ne.symm same), ← Bool.not_eq_true]
            intro upper
            have itself := Step.lessThan_trans lower upper
            rw [Step.lessThan_irrefl] at itself
            cases itself

/-- What comes before a path comes before everything that does not come before it. -/
theorem lessThan_of_lessThan_of_not {first second third : Path}
    (lower : first.lessThan second = true) (notBelow : third.lessThan second = false) :
    first.lessThan third = true := by
  induction second generalizing first third with
  | nil => cases first <;> cases lower
  | cons middle middles induction =>
      cases third with
      | nil => cases notBelow
      | cons last lasts =>
          cases first with
          | nil => rfl
          | cons first firsts =>
              rw [lessThan_cons] at lower notBelow ⊢
              by_cases isMiddle : last = middle
              · subst isMiddle
                rw [if_pos rfl] at notBelow
                by_cases same : first = last
                · rw [if_pos same] at lower ⊢
                  exact induction lower notBelow
                · rwa [if_neg same] at lower ⊢
              · rw [if_neg isMiddle] at notBelow
                have upper := Step.lessThan_of_not_lessThan notBelow isMiddle
                by_cases same : first = middle
                · subst same
                  rwa [if_neg (Ne.symm isMiddle)]
                · rw [if_neg same] at lower
                  have through := Step.lessThan_trans lower upper
                  by_cases isLast : first = last
                  · rw [isLast, Step.lessThan_irrefl] at through
                    cases through
                  · rwa [if_neg isLast]

theorem lessThan_trans {first second third : Path} (lower : first.lessThan second = true)
    (upper : second.lessThan third = true) : first.lessThan third = true :=
  lessThan_of_lessThan_of_not lower (lessThan_asymm upper)

end Path

/-! ## The violation that is reported -/

namespace Schema

/-- Whether a violation is the first of those whose path comes first. -/
def IsReported (violations : List Violation) (violation : Violation) : Prop :=
  ∃ before after, violations = before ++ violation :: after ∧
    (∀ other ∈ before, violation.path.lessThan other.path = true) ∧
    ∀ other ∈ after, other.path.lessThan violation.path = false

theorem isReported_foldl_lower (first : Violation) (rest : List Violation) :
    IsReported (first :: rest) (rest.foldl lower first) := by
  induction rest using List.reverseRecOn with
  | nil => exact ⟨[], [], rfl, List.forall_mem_nil _, List.forall_mem_nil _⟩
  | append_singleton rest last induction =>
      rw [List.foldl_append, List.foldl_cons, List.foldl_nil]
      generalize rest.foldl lower first = least at induction ⊢
      have ⟨before, after, split, above, notBelow⟩ := induction
      unfold lower
      cases lowers : last.path.lessThan least.path with
      | true =>
          refine ⟨first :: rest, [], by simp, ?_, List.forall_mem_nil _⟩
          intro other member
          rw [split, List.mem_append, List.mem_cons] at member
          rcases member with inBefore | rfl | inAfter
          · exact Path.lessThan_trans lowers (above other inBefore)
          · exact lowers
          · exact Path.lessThan_of_lessThan_of_not lowers (notBelow other inAfter)
      | false =>
          refine ⟨before, after ++ [last], ?_, above, ?_⟩
          · rw [← List.cons_append, split]
            simp
          · intro other member
            rcases List.mem_append.mp member with inAfter | isLast
            · exact notBelow other inAfter
            · rw [List.mem_singleton.mp isLast]
              exact lowers

/-- A document is refused exactly if a violation is reported. -/
theorem firstViolation?_eq_none_iff {schema : Schema} {document : Document} :
    schema.firstViolation? document = none ↔ schema.violations document = [] := by
  unfold firstViolation?
  cases schema.violations document <;> simp

theorem isReported_of_firstViolation? {schema : Schema} {document : Document}
    {violation : Violation} (first : schema.firstViolation? document = some violation) :
    IsReported (schema.violations document) violation := by
  unfold firstViolation? at first
  split at first
  · cases first
  · next head rest found =>
      cases first
      rw [found]
      exact isReported_foldl_lower head rest

end Schema

end EngineBridge.Document
