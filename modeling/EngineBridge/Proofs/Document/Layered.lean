import EngineBridge.Document.Merge
import EngineBridge.Proofs.Running

/-!
What one document laid over another holds at each path of keys.

A path leads from table to table. The two documents clash at a path at which both have a value and
only one of the values is a table. Main statement: merging fails exactly if there is such a path, at
the one that a walk through the lower document meets first. Where there is none, every value of the
result is that of the upper document, or else that of the lower one, and a table that both have
lists the keys of the lower one first.
-/

namespace EngineBridge

namespace Entries

variable {α : Type}

theorem isSome_get?_iff {entries : Entries α} {key : String} :
    (get? entries key).isSome = true ↔ key ∈ entries.keys := by
  simp only [get?, List.lookup_isSome_iff, keys, List.mem_map, beq_iff_eq]
  constructor
  · rintro ⟨entry, member, same⟩
    exact ⟨entry, member, same.symm⟩
  · rintro ⟨entry, member, same⟩
    exact ⟨entry, member, same.symm⟩

theorem contains_iff {entries : Entries α} {key : String} :
    contains entries key = true ↔ key ∈ entries.keys :=
  isSome_get?_iff

theorem mem_of_get? {entries : Entries α} {key : String} {value : α}
    (found : get? entries key = some value) : (key, value) ∈ entries :=
  mem_of_lookup found

theorem get?_of_mem {entries : Entries α} (distinct : entries.keys.Nodup) {key : String} {value : α}
    (member : (key, value) ∈ entries) : get? entries key = some value := by
  induction entries with
  | nil => cases member
  | cons entry rest induction =>
      have ⟨absent, distinct⟩ := List.nodup_cons.mp distinct
      rw [get?_cons]
      rcases List.mem_cons.mp member with rfl | behind
      · exact if_pos rfl
      · have different : key ≠ entry.1 := by
          intro same
          exact absent (same ▸ List.mem_map_of_mem behind)
        rw [if_neg different]
        exact induction distinct behind

/-- Entries with different keys are given by their keys in order and the value of each key. -/
theorem eq_of_get?_eq {first second : Entries α} (distinct : first.keys.Nodup)
    (keys : first.keys = second.keys) (each : ∀ key, get? first key = get? second key) :
    first = second := by
  induction first generalizing second with
  | nil =>
      cases second with
      | nil => rfl
      | cons entry rest => cases keys
  | cons entry rest induction =>
      cases second with
      | nil => cases keys
      | cons other others =>
          have ⟨same, sameKeys⟩ := List.cons.inj keys
          have ⟨absent, distinct⟩ := List.nodup_cons.mp distinct
          have value := each entry.1
          rw [get?_cons, get?_cons, if_pos rfl, if_pos same] at value
          have sameEntry : entry = other := Prod.ext same (Option.some.inj value)
          subst sameEntry
          congr 1
          apply induction distinct sameKeys
          intro key
          by_cases isFirst : key = entry.1
          · have missing (entries : Entries α) (listed : Entries.keys rest = entries.keys) :
                get? entries key = none := by
              rw [← Option.not_isSome_iff_eq_none, isSome_get?_iff, ← listed, isFirst]
              exact absent
            rw [missing rest rfl, missing others sameKeys]
          · have there := each key
            rwa [get?_cons, get?_cons, if_neg isFirst, if_neg isFirst] at there

theorem get?_append (first second : Entries α) (key : String) :
    get? (first ++ second) key = (get? first key).or (get? second key) :=
  List.lookup_append

/-- Leaving out entries by their keys leaves out the values of these keys. -/
theorem get?_filter (kept : String → Bool) (entries : Entries α) (key : String) :
    get? (entries.filter fun entry => kept entry.1) key =
      if kept key then get? entries key else none := by
  induction entries with
  | nil => simp
  | cons entry rest induction =>
      rcases entry with ⟨other, value⟩
      rw [List.filter_cons, get?_cons]
      by_cases same : key = other
      · subst same
        cases keeps : kept key
        · simpa [keeps] using induction
        · simp [get?_cons]
      · cases kept other
        · simpa [same] using induction
        · simpa [same, get?_cons] using induction

theorem keys_filter (kept : String → Bool) (entries : Entries α) :
    keys (entries.filter fun entry => kept entry.1) = entries.keys.filter kept := by
  rw [keys, keys, List.filter_map]
  rfl

end Entries

namespace Document

/-- The value at a path of keys. -/
def at? : Document → List String → Option Document
  | document, [] => some document
  | .table entries, key :: rest => (Entries.get? entries key).bind fun value => value.at? rest
  | _, _ :: _ => none

mutual

/-- The paths at which a document has values: a walk that enters each table before its next key. -/
def paths : Document → List (List String)
  | .table entries => [] :: pathsBelow entries
  | _ => [[]]

def pathsBelow : List (String × Document) → List (List String)
  | [] => []
  | (key, value) :: rest => value.paths.map (key :: ·) ++ pathsBelow rest

end

/-- Whether both documents have a value at a path and exactly one of the values is a table. -/
def clashes (upper lower : Document) (path : List String) : Bool :=
  match upper.at? path, lower.at? path with
  | some upperValue, some lowerValue => upperValue.isTable != lowerValue.isTable
  | _, _ => false

def firstClash? (upper lower : Document) : Option (List String) :=
  lower.paths.find? (clashes upper lower)

example : firstClash? (.table [("a", .table [("b", .null)])])
    (.table [("c", .null), ("a", .table [("b", .table [])])]) = some ["a", "b"] := by
  decide +kernel

/-- Whether no table has a key twice, down to the values that are no tables. -/
inductive HasDistinctKeys : Document → Prop
  | table {entries : List (String × Document)} (distinct : (Entries.keys entries).Nodup)
      (inside : ∀ entry ∈ entries, HasDistinctKeys entry.2) : HasDistinctKeys (.table entries)
  | plain {document : Document} (plain : document.isTable = false) : HasDistinctKeys document

section Paths

variable {entries : List (String × Document)}

theorem at?_of_plain {document : Document} (plain : document.isTable = false) (key : String)
    (path : List String) : document.at? (key :: path) = none := by
  cases document with
  | table entries => cases plain
  | _ => rfl

theorem at?_table_cons (entries : List (String × Document)) (key : String) (path : List String) :
    (Document.table entries).at? (key :: path) =
      (Entries.get? entries key).bind fun value => value.at? path := rfl

theorem paths_of_plain {document : Document} (plain : document.isTable = false) :
    document.paths = [[]] := by
  cases document with
  | table entries => cases plain
  | _ => rfl

theorem exists_key_of_mem_pathsBelow {path : List String} (member : path ∈ pathsBelow entries) :
    ∃ key rest, path = key :: rest ∧ key ∈ Entries.keys entries := by
  induction entries with
  | nil => cases member
  | cons entry others induction =>
      rcases List.mem_append.mp member with here | behind
      · rcases List.mem_map.mp here with ⟨rest, -, rfl⟩
        exact ⟨entry.1, rest, rfl, List.mem_cons_self⟩
      · rcases induction behind with ⟨key, rest, same, inside⟩
        exact ⟨key, rest, same, List.mem_cons_of_mem _ inside⟩

theorem mem_pathsBelow {key : String} {value : Document} {path : List String}
    (found : Entries.get? entries key = some value) (inside : path ∈ value.paths) :
    key :: path ∈ pathsBelow entries := by
  induction entries with
  | nil => cases found
  | cons entry rest induction =>
      rw [Entries.get?_cons] at found
      apply List.mem_append.mpr
      by_cases same : key = entry.1
      · rw [if_pos same] at found
        cases found
        rw [same]
        exact .inl (List.mem_map_of_mem inside)
      · rw [if_neg same] at found
        exact .inr (induction found)

/-- The walk through a document comes by every path at which there is a value. -/
theorem mem_paths_of_at? {document : Document} {path : List String}
    (present : (document.at? path).isSome = true) : path ∈ document.paths := by
  induction path generalizing document with
  | nil => cases document <;> exact List.mem_cons_self
  | cons key rest induction =>
      cases document with
      | table entries =>
          rw [at?_table_cons] at present
          cases found : Entries.get? entries key with
          | none =>
              rw [found] at present
              cases present
          | some value =>
              rw [found] at present
              exact List.mem_cons_of_mem _ (mem_pathsBelow found (induction present))
      | _ => cases present

end Paths

/-! ## Merging without a clash -/

/-- How what two merged documents have at a path belongs to what the two have there. -/
structure LaidOver (upper lower merged : Option Document) : Prop where
  present : merged.isSome = true ↔ upper.isSome = true ∨ lower.isSome = true
  kind : ∀ value given, merged = some value → upper = some given ∨ lower = some given →
    value.isTable = given.isTable
  plain : ∀ value, merged = some value → value.isTable = false → upper.or lower = some value
  keys : ∀ uppers lowers, upper = some (.table uppers) → lower = some (.table lowers) →
    ∃ entries, merged = some (.table entries) ∧ Entries.keys entries = Entries.keys lowers ++
      (Entries.keys uppers).filter fun key => key ∉ Entries.keys lowers

namespace LaidOver

theorem missing : LaidOver none none none where
  present := by simp
  kind := nofun
  plain := nofun
  keys := nofun

theorem upper (value : Document) : LaidOver (some value) none (some value) where
  present := by simp
  kind := by
    rintro value given ⟨⟩ (⟨⟨⟩⟩ | ⟨⟨⟩⟩)
    rfl
  plain := by
    rintro value ⟨⟩ _
    rfl
  keys := nofun

theorem lower (value : Document) : LaidOver none (some value) (some value) where
  present := by simp
  kind := by
    rintro value given ⟨⟩ (⟨⟨⟩⟩ | ⟨⟨⟩⟩)
    rfl
  plain := by
    rintro value ⟨⟩ _
    rfl
  keys := nofun

theorem of_plain {upper lower : Document} (plainUpper : upper.isTable = false)
    (plainLower : lower.isTable = false) : LaidOver (some upper) (some lower) (some upper) where
  present := by simp
  kind := by
    rintro value given ⟨⟩ (⟨⟨⟩⟩ | ⟨⟨⟩⟩)
    · rfl
    · rw [plainUpper, plainLower]
  plain := by
    rintro value ⟨⟩ _
    rfl
  keys := by
    rintro uppers lowers ⟨⟩
    cases plainUpper

theorem of_tables {uppers lowers merged : List (String × Document)}
    (keys : Entries.keys merged = Entries.keys lowers ++
      (Entries.keys uppers).filter fun key => key ∉ Entries.keys lowers) :
    LaidOver (some (.table uppers)) (some (.table lowers)) (some (.table merged)) where
  present := by simp
  kind := by
    rintro value given ⟨⟩ (⟨⟨⟩⟩ | ⟨⟨⟩⟩) <;> rfl
  plain := by
    rintro value ⟨⟩ ⟨⟩
  keys := by
    rintro uppers lowers ⟨⟩ ⟨⟩
    exact ⟨merged, rfl, keys⟩

end LaidOver

/-- What merging makes of a key of the lower table. -/
def mergeEntry (uppers : List (String × Document)) (key : String) (lower : Document) :
    Except Failure Document :=
  match Entries.get? uppers key with
  | some upper => mergeValue key upper lower
  | none => .ok lower

theorem mergeLower_cons (uppers rest : List (String × Document)) (key : String) (lower : Document) :
    mergeLower uppers ((key, lower) :: rest) =
      (do
        let first ← mergeEntry uppers key lower
        return (key, first) :: (← mergeLower uppers rest)) := by
  rw [mergeLower, mergeEntry]
  cases Entries.get? uppers key <;> rfl

/-- How the value under a key of two merged tables belongs to those that the two have there. -/
inductive LaidUnder (key : String) :
    Option Document → Option Document → Option Document → Prop
  | missing : LaidUnder key none none none
  | upper (value : Document) : LaidUnder key (some value) none (some value)
  | lower (value : Document) : LaidUnder key none (some value) (some value)
  | both {upper lower merged : Document} (laid : mergeValue key upper lower = .ok merged) :
      LaidUnder key (some upper) (some lower) (some merged)

section Success

variable {uppers lowers merged : List (String × Document)}

theorem laidUnder_mergeEntry {key : String} {lower value : Document}
    (laid : mergeEntry uppers key lower = .ok value) :
    LaidUnder key (Entries.get? uppers key) (some lower) (some value) := by
  unfold mergeEntry at laid
  cases found : Entries.get? uppers key with
  | none =>
      rw [found] at laid
      cases laid
      exact .lower lower
  | some upper =>
      rw [found] at laid
      exact .both laid

/-- The entries of the lower table stay in their places, each with what its key gives. -/
theorem laidUnder_mergeLower (laid : mergeLower uppers lowers = .ok merged) :
    Entries.keys merged = Entries.keys lowers ∧ ∀ key value, Entries.get? lowers key = some value →
      LaidUnder key (Entries.get? uppers key) (some value) (Entries.get? merged key) := by
  induction lowers generalizing merged with
  | nil =>
      cases laid
      exact ⟨rfl, nofun⟩
  | cons entry rest induction =>
      rcases entry with ⟨key, lower⟩
      rw [mergeLower_cons] at laid
      have ⟨first, here, laid⟩ := exists_of_bind_eq_ok laid
      have ⟨others, there, same⟩ := exists_of_bind_eq_ok laid
      cases same
      have ⟨keys, each⟩ := induction there
      constructor
      · exact congrArg (key :: ·) keys
      · intro other value found
        rw [Entries.get?_cons] at found ⊢
        by_cases isFirst : other = key
        · rw [if_pos isFirst] at found ⊢
          cases found
          rw [isFirst]
          exact laidUnder_mergeEntry here
        · rw [if_neg isFirst] at found ⊢
          exact each other value found

/-- A merged table has the keys of the lower table and then those that only the upper one has. -/
theorem keys_mergeTables (laid : mergeTables uppers lowers = .ok merged) :
    Entries.keys merged = Entries.keys lowers ++
      (Entries.keys uppers).filter fun key => key ∉ Entries.keys lowers := by
  have ⟨front, there, laid⟩ := exists_of_bind_eq_ok laid
  cases laid
  rw [Entries.keys, List.map_append]
  congr 1
  · exact (laidUnder_mergeLower there).1
  · have same : (fun key => !Entries.contains lowers key) =
        fun key => decide (key ∉ Entries.keys lowers) := by
      funext key
      rw [Bool.eq_iff_iff, decide_eq_true_iff, ← Entries.contains_iff]
      simp
    exact (Entries.keys_filter (fun key => !Entries.contains lowers key) uppers).trans
      (congrArg (fun kept => (Entries.keys uppers).filter kept) same)

theorem laidUnder_mergeTables (laid : mergeTables uppers lowers = .ok merged) (key : String) :
    LaidUnder key (Entries.get? uppers key) (Entries.get? lowers key) (Entries.get? merged key) := by
  have ⟨front, there, laid⟩ := exists_of_bind_eq_ok laid
  cases laid
  have ⟨keys, each⟩ := laidUnder_mergeLower there
  rw [Entries.get?_append, Entries.get?_filter fun key => !Entries.contains lowers key]
  cases below : Entries.get? lowers key with
  | none =>
      have absent : Entries.get? front key = none := by
        rw [← Option.not_isSome_iff_eq_none, Entries.isSome_get?_iff, keys,
          ← Entries.isSome_get?_iff, below]
        exact nofun
      rw [absent, Entries.contains, below, Option.none_or]
      cases Entries.get? uppers key with
      | none => exact .missing
      | some value => exact .upper value
  | some lower =>
      rw [Entries.contains, below, Option.isSome_some]
      have here := each key lower below
      simpa using here

/-- Two values are merged either as tables, or because neither of them is one. -/
theorem mergeValue_cases {key : String} {upper lower value : Document}
    (laid : mergeValue key upper lower = .ok value) :
    (∃ uppers lowers merged, upper = .table uppers ∧ lower = .table lowers ∧
      value = .table merged ∧ mergeTables uppers lowers = .ok merged) ∨
    upper.isTable = false ∧ lower.isTable = false ∧ value = upper := by
  cases lower with
  | table lowers =>
      cases upper with
      | table uppers =>
          have ⟨front, there, laid⟩ := exists_of_bind_eq_ok laid
          cases laid
          refine .inl ⟨uppers, lowers, _, rfl, rfl, rfl, ?_⟩
          rw [mergeTables, there]
          rfl
      | _ => cases laid
  | _ =>
      cases upper with
      | table uppers => cases laid
      | _ =>
          cases laid
          exact .inr ⟨rfl, rfl, rfl⟩

theorem laidOver_tables (laid : mergeTables uppers lowers = .ok merged) (path : List String) :
    LaidOver ((Document.table uppers).at? path) ((Document.table lowers).at? path)
      ((Document.table merged).at? path) := by
  induction path generalizing uppers lowers merged with
  | nil => exact .of_tables (keys_mergeTables laid)
  | cons key rest induction =>
      rw [at?_table_cons, at?_table_cons, at?_table_cons]
      have below := laidUnder_mergeTables laid key
      generalize Entries.get? uppers key = upper?, Entries.get? lowers key = lower?,
        Entries.get? merged key = merged? at below ⊢
      cases below with
      | missing => exact .missing
      | upper value =>
          change LaidOver (value.at? rest) none (value.at? rest)
          cases value.at? rest with
          | none => exact .missing
          | some found => exact .upper found
      | lower value =>
          change LaidOver none (value.at? rest) (value.at? rest)
          cases value.at? rest with
          | none => exact .missing
          | some found => exact .lower found
      | @both upperValue lowerValue value inside =>
          change LaidOver (upperValue.at? rest) (lowerValue.at? rest) (value.at? rest)
          rcases mergeValue_cases inside with
            ⟨uppers, lowers, merged, rfl, rfl, rfl, deeper⟩ | ⟨plainUpper, plainLower, rfl⟩
          · exact induction deeper
          · cases rest with
            | nil => exact .of_plain plainUpper plainLower
            | cons next rest =>
                rw [at?_of_plain plainUpper, at?_of_plain plainLower]
                exact .missing

end Success

/-! ## Clashes -/

/-- What is said about two documents that clash at a path below a key. -/
def refusal (key : String) (upper lower : Document) (path : List String) : Failure :=
  .badKind (.mixedTable (path.getLastD key) (((upper.at? path).getD .null).kindLabel)
    (((lower.at? path).getD .null).kindLabel))

/-- How merging ends: at the first clash, or with a value if there is none. -/
def Settles {α : Type} (clash? : Option (List String)) (refuse : List String → Failure)
    (outcome : Except Failure α) : Prop :=
  match clash? with
  | some path => outcome = .error (refuse path)
  | none => ∃ value, outcome = .ok value

namespace Settles

variable {α β : Type} {clash? later? : Option (List String)} {refuse other : List String → Failure}
  {outcome : Except Failure α}

theorem succeed (value : α) : Settles none refuse (.ok value) :=
  ⟨value, rfl⟩

/-- Only the first clash is spoken of. -/
theorem congr (settles : Settles clash? refuse outcome)
    (same : ∀ path, clash? = some path → refuse path = other path) :
    Settles clash? other outcome := by
  cases clash? with
  | none => exact settles
  | some path => exact settles.trans (congrArg Except.error (same path rfl))

/-- Clashes below a key are clashes of the tables around it. -/
theorem below {key : String} (settles : Settles clash? (fun path => refuse (key :: path)) outcome) :
    Settles (clash?.map (key :: ·)) refuse outcome := by
  cases clash? with
  | none => exact settles
  | some path => exact settles

/-- What follows is looked at only after the first part has succeeded. -/
theorem bind {next : α → Except Failure β} (settles : Settles clash? refuse outcome)
    (later : ∀ value, Settles later? refuse (next value)) :
    Settles (clash?.or later?) refuse (outcome >>= next) := by
  cases clash? with
  | none =>
      rcases settles with ⟨value, rfl⟩
      exact later value
  | some path =>
      change outcome = _ at settles
      rw [settles]
      rfl

theorem map (settles : Settles clash? refuse outcome) (change : α → β) :
    Settles clash? refuse (do return change (← outcome)) := by
  have both := settles.bind fun value => succeed (change value)
  rwa [Option.or_none] at both

end Settles

section Clashing

variable {uppers rest : List (String × Document)} {key : String} {lower : Document}

theorem clashes_of_absent {path : List String} (absent : Entries.get? uppers key = none)
    (lowers : List (String × Document)) :
    clashes (.table uppers) (.table lowers) (key :: path) = false := by
  simp [clashes, at?_table_cons, absent]

theorem clashes_cons_self {upper : Document} (found : Entries.get? uppers key = some upper)
    (path : List String) :
    clashes (.table uppers) (.table ((key, lower) :: rest)) (key :: path) =
      clashes upper lower path := by
  simp [clashes, at?_table_cons, found, Entries.get?_cons]

theorem refusal_cons_self {upper : Document} (found : Entries.get? uppers key = some upper)
    (path : List String) (other : String) :
    refusal other (.table uppers) (.table ((key, lower) :: rest)) (key :: path) =
      refusal key upper lower path := by
  simp only [refusal, at?_table_cons, found, Entries.get?_cons, List.getLastD_cons, if_true,
    Option.bind_some]

/-- What stands behind another key is found without that key. -/
theorem at?_cons_of_mem (value : Document) {path : List String} (absent : key ∉ Entries.keys rest)
    (member : path ∈ pathsBelow rest) :
    (Document.table ((key, value) :: rest)).at? path = (Document.table rest).at? path := by
  rcases exists_key_of_mem_pathsBelow member with ⟨other, tail, rfl, inside⟩
  have different : other ≠ key := by
    rintro rfl
    exact absent inside
  rw [at?_table_cons, at?_table_cons, Entries.get?_cons, if_neg different]

theorem find?_clashes_cons (absent : key ∉ Entries.keys rest) (uppers : List (String × Document)) :
    (pathsBelow rest).find? (clashes (.table uppers) (.table ((key, lower) :: rest))) =
      (pathsBelow rest).find? (clashes (.table uppers) (.table rest)) := by
  have same : ∀ path ∈ pathsBelow rest,
      clashes (.table uppers) (.table ((key, lower) :: rest)) path =
        clashes (.table uppers) (.table rest) path := by
    intro path member
    rw [clashes, clashes, at?_cons_of_mem lower absent member]
  rw [← List.head?_filter, ← List.head?_filter, List.filter_congr same]

/-- What the two tables have under a key of the lower one is merged, if both have something. -/
theorem settles_entry (uppers rest : List (String × Document)) (key other : String)
    (each : ∀ upper,
      Settles (firstClash? upper lower) (refusal key upper lower) (mergeValue key upper lower)) :
    Settles ((lower.paths.map (key :: ·)).find?
        (clashes (.table uppers) (.table ((key, lower) :: rest))))
      (refusal other (.table uppers) (.table ((key, lower) :: rest)))
      (mergeEntry uppers key lower) := by
  rw [List.find?_map, mergeEntry]
  apply Settles.below
  cases found : Entries.get? uppers key with
  | none =>
      have plain : lower.paths.find?
          (clashes (.table uppers) (.table ((key, lower) :: rest)) ∘ (key :: ·)) = none := by
        rw [List.find?_eq_none]
        intro path _
        simp [clashes_of_absent found]
      rw [plain]
      exact .succeed lower
  | some upper =>
      have below : clashes (.table uppers) (.table ((key, lower) :: rest)) ∘ (key :: ·) =
          clashes upper lower := by
        funext path
        exact clashes_cons_self found path
      rw [below]
      exact (each upper).congr fun path _ => (refusal_cons_self found path other).symm

/-- The lower table is gone through in order, and each value that the upper table has for a key is
laid over before the next key is looked at. -/
theorem settles_mergeLower (uppers : List (String × Document)) {lowers : List (String × Document)}
    (distinct : (Entries.keys lowers).Nodup)
    (each : ∀ entry ∈ lowers, ∀ key upper, Settles (firstClash? upper entry.2)
      (refusal key upper entry.2) (mergeValue key upper entry.2)) (other : String) :
    Settles ((pathsBelow lowers).find? (clashes (.table uppers) (.table lowers)))
      (refusal other (.table uppers) (.table lowers)) (mergeLower uppers lowers) := by
  induction lowers with
  | nil => exact .succeed []
  | cons entry rest induction =>
      rcases entry with ⟨key, lower⟩
      have ⟨absent, distinct⟩ := List.nodup_cons.mp distinct
      have here := each (key, lower) List.mem_cons_self key
      have behind := induction distinct fun entry member =>
        each entry (List.mem_cons_of_mem _ member)
      rw [pathsBelow, List.find?_append, find?_clashes_cons absent, mergeLower_cons]
      apply (settles_entry uppers rest key other here).bind
      intro first
      apply (behind.congr ?_).map
      intro path found
      rw [refusal, refusal, at?_cons_of_mem lower absent (List.mem_of_find?_eq_some found)]

theorem firstClash?_tables (uppers lowers : List (String × Document)) :
    firstClash? (.table uppers) (.table lowers) =
      (pathsBelow lowers).find? (clashes (.table uppers) (.table lowers)) := by
  rw [firstClash?, paths, List.find?_cons_of_neg]
  simp [clashes, at?, isTable]

/-- Merging two values ends at their first clash. -/
theorem settles_mergeValue (distinct : lower.HasDistinctKeys) (key : String) (upper : Document) :
    Settles (firstClash? upper lower) (refusal key upper lower) (mergeValue key upper lower) := by
  induction distinct generalizing key upper with
  | @table lowers distinct inside induction =>
      cases upper with
      | table uppers =>
          rw [firstClash?_tables, mergeValue]
          exact (settles_mergeLower uppers distinct induction key).map _
      | _ => rfl
  | @plain lower plain =>
      rw [firstClash?, paths_of_plain plain]
      cases lower with
      | table lowers => cases plain
      | _ =>
          cases upper with
          | table uppers => rfl
          | _ => exact .succeed _

end Clashing

/-! ## Merging two tables -/

theorem exists_of_clashes {upper lower : Document} {path : List String}
    (clash : clashes upper lower path = true) :
    ∃ upperValue lowerValue, upper.at? path = some upperValue ∧ lower.at? path = some lowerValue ∧
      upperValue.isTable ≠ lowerValue.isTable := by
  rw [clashes] at clash
  split at clash
  · next above below => exact ⟨_, _, above, below, bne_iff_ne.mp clash⟩
  · cases clash

/-- The walk through the lower document comes by a clash if there is one. -/
theorem exists_firstClash?_iff {upper lower : Document} :
    (∃ path, firstClash? upper lower = some path) ↔ ∃ path, clashes upper lower path = true := by
  constructor
  · rintro ⟨path, first⟩
    exact ⟨path, List.find?_some first⟩
  · rintro ⟨path, clash⟩
    have ⟨upperValue, lowerValue, above, below, differ⟩ := exists_of_clashes clash
    apply Option.isSome_iff_exists.mp
    rw [firstClash?, List.find?_isSome]
    refine ⟨path, mem_paths_of_at? ?_, clash⟩
    rw [below]
    rfl

theorem merge_tables (uppers lowers : List (String × Document)) (key : String) :
    merge (.table uppers) (.table lowers) = mergeValue key (.table uppers) (.table lowers) := by
  rw [merge, mergeTables, mergeValue]
  cases mergeLower uppers lowers <;> rfl

theorem exists_last_of_firstClash? {uppers lowers : List (String × Document)} {path : List String}
    (first : firstClash? (.table uppers) (.table lowers) = some path) :
    ∃ before key, path = before ++ [key] := by
  have clash := List.find?_some first
  have nonempty : path ≠ [] := by
    rintro rfl
    cases clash
  exact ⟨path.dropLast, path.getLast nonempty, (List.dropLast_concat_getLast nonempty).symm⟩

/-- Merging two tables fails exactly if they clash somewhere, and then about the first clash;
otherwise what the result holds at each path follows from what the two hold there. -/
theorem merge_tables_outcome {lowers : List (String × Document)}
    (distinct : (Document.table lowers).HasDistinctKeys) (uppers : List (String × Document)) :
    ((∃ failure, merge (.table uppers) (.table lowers) = .error failure) ↔
      ∃ path, clashes (.table uppers) (.table lowers) path = true) ∧
    (∀ failure, merge (.table uppers) (.table lowers) = .error failure →
      ∃ before key upperValue lowerValue,
        firstClash? (.table uppers) (.table lowers) = some (before ++ [key]) ∧
        (Document.table uppers).at? (before ++ [key]) = some upperValue ∧
        (Document.table lowers).at? (before ++ [key]) = some lowerValue ∧
        failure = .badKind (.mixedTable key upperValue.kindLabel lowerValue.kindLabel)) ∧
    ∀ merged, merge (.table uppers) (.table lowers) = .ok merged → ∀ path,
      LaidOver ((Document.table uppers).at? path) ((Document.table lowers).at? path)
        (merged.at? path) := by
  have settles := settles_mergeValue distinct "" (.table uppers)
  rw [← merge_tables] at settles
  rw [← exists_firstClash?_iff]
  refine ⟨?_, ?_, ?_⟩
  · cases first : firstClash? (.table uppers) (.table lowers) with
    | none =>
        rw [first] at settles
        rcases settles with ⟨merged, laid⟩
        simp [laid]
    | some path =>
        rw [first] at settles
        exact ⟨fun _ => ⟨path, rfl⟩, fun _ => ⟨_, settles⟩⟩
  · intro failure failed
    cases first : firstClash? (.table uppers) (.table lowers) with
    | none =>
        rw [first] at settles
        rcases settles with ⟨merged, laid⟩
        rw [failed] at laid
        cases laid
    | some path =>
        rw [first] at settles
        have ⟨before, key, same⟩ := exists_last_of_firstClash? first
        have ⟨upperValue, lowerValue, above, below, _⟩ := exists_of_clashes (List.find?_some first)
        cases failed.symm.trans settles
        cases same
        refine ⟨before, key, upperValue, lowerValue, rfl, above, below, ?_⟩
        rw [refusal, above, below, List.getLastD_concat]
        rfl
  · intro merged succeeded path
    have ⟨entries, laid, same⟩ := exists_of_bind_eq_ok succeeded
    cases same
    exact laidOver_tables laid path

/-- Of two clashes the failure names the one that comes first in the lower document. -/
theorem merge_tables_outcome_of_two_clashes :
    let uppers := [("level", text "info"), ("file", table [("name", table [])])]
    let file := [("mode", text "w"), ("name", text "out")]
    let lowers := [("file", table file), ("level", table [])]
    (table lowers).HasDistinctKeys ∧ merge (.table uppers) (.table lowers) =
      .error (.badKind (.mixedTable "name" "<class 'dict'>" "<class 'str'>")) := by
  intro uppers file lowers
  have isPlain (value : String) : (text value).HasDistinctKeys := .plain rfl
  have inFile : (table file).HasDistinctKeys := .table (by decide) (by simp [file, isPlain])
  have inLevel : (table []).HasDistinctKeys := .table (by decide) nofun
  have distinct : (table lowers).HasDistinctKeys :=
    .table (by decide) (by simp [lowers, inFile, inLevel])
  refine ⟨distinct, ?_⟩
  have ⟨fails, names, _⟩ := merge_tables_outcome distinct uppers
  have ⟨failure, failed⟩ := fails.mpr ⟨["level"], rfl⟩
  have ⟨before, key, upperValue, lowerValue, first, above, below, same⟩ := names failure failed
  have here : before ++ [key] = [] ++ ["file"] ++ ["name"] := by
    apply Option.some.inj
    rw [← first]
    decide +kernel
  have ⟨same₁, same₂⟩ := List.append_inj' here rfl
  cases same₁
  cases same₂
  cases above
  cases below
  rw [failed, same]
  rfl

end Document

end EngineBridge
