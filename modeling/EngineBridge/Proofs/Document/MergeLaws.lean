import EngineBridge.Proofs.Document.Layered

/-!
Laws of laying documents over each other.

What is seen of a document at a path is a table, a value that is none, or nothing, and a table has
its keys in their order. These observations determine a document, and merging combines them path by
path: the upper one is seen first, and its new keys come last. Main statement: of three tables it
does not matter which two are merged first, an empty table changes nothing, and a table that was
laid over another does not change when it is laid over it again.
-/

namespace EngineBridge

namespace Document

/-! ## What is seen of a document -/

/-- What stands at a path: nothing, a table, or a value that is none. -/
def seenAt (document : Document) (path : List String) : Option (Option Document) :=
  (document.at? path).map fun value => if value.isTable then none else some value

/-- The keys of the table at a path, none where there is no table. -/
def keysAt (document : Document) (path : List String) : List String :=
  match document.at? path with
  | some (.table entries) => Entries.keys entries
  | _ => []

/-- The keys of a lower table with those of an upper one laid over them. -/
def overlay (uppers lowers : List String) : List String :=
  lowers ++ uppers.filter fun key => key ∉ lowers

@[simp] theorem overlay_nil (uppers : List String) : overlay uppers [] = uppers := by
  simp [overlay]

@[simp] theorem nil_overlay (lowers : List String) : overlay [] lowers = lowers := by
  simp [overlay]

theorem mem_overlay {key : String} {uppers lowers : List String} :
    key ∈ overlay uppers lowers ↔ key ∈ uppers ∨ key ∈ lowers := by
  simp only [overlay, List.mem_append, List.mem_filter, decide_eq_true_eq]
  by_cases inLower : key ∈ lowers <;> simp [inLower]

theorem overlay_assoc (uppers middles lowers : List String) :
    overlay (overlay uppers middles) lowers = overlay uppers (overlay middles lowers) := by
  have onlyAbove : (uppers.filter fun key => key ∉ middles).filter (fun key => key ∉ lowers) =
      uppers.filter fun key => key ∉ overlay middles lowers := by
    rw [List.filter_filter]
    apply List.filter_congr
    intro key _
    simp only [mem_overlay, not_or, Bool.decide_and]
    exact Bool.and_comm _ _
  rw [overlay, overlay, List.filter_append, onlyAbove, ← List.append_assoc]
  rfl

theorem overlay_self (keys : List String) : overlay keys keys = keys := by
  simp [overlay]

theorem nodup_overlay {uppers lowers : List String} (above : uppers.Nodup) (below : lowers.Nodup) :
    (overlay uppers lowers).Nodup := by
  refine List.nodup_append.mpr ⟨below, above.filter _, ?_⟩
  rintro key inLower _ inFilter rfl
  have absent := (List.mem_filter.mp inFilter).2
  simp [inLower] at absent

theorem seenAt_table_cons (entries : List (String × Document)) (key : String)
    (path : List String) :
    (Document.table entries).seenAt (key :: path) =
      (Entries.get? entries key).bind fun value => value.seenAt path := by
  rw [seenAt, at?_table_cons]
  cases Entries.get? entries key <;> rfl

theorem keysAt_table_cons {entries : List (String × Document)} {key : String} {value : Document}
    (found : Entries.get? entries key = some value) (path : List String) :
    (Document.table entries).keysAt (key :: path) = value.keysAt path := by
  rw [keysAt, at?_table_cons, found]
  rfl

theorem keysAt_of_plain {document : Document} (plain : document.isTable = false)
    (path : List String) : document.keysAt path = [] := by
  cases document with
  | table entries => cases plain
  | _ => cases path <;> rfl

/-- Documents of which the same is seen at every path are the same. -/
theorem eq_of_seenAt_eq {first second : Document} (distinct : first.HasDistinctKeys)
    (seen : ∀ path, first.seenAt path = second.seenAt path)
    (keys : ∀ path, first.keysAt path = second.keysAt path) : first = second := by
  induction distinct generalizing second with
  | @table entries distinct inside induction =>
      cases second with
      | table others =>
          have sameKeys : Entries.keys entries = Entries.keys others := keys []
          congr 1
          apply Entries.eq_of_get?_eq distinct sameKeys
          intro key
          cases found : Entries.get? entries key with
          | none =>
              symm
              rw [← Option.not_isSome_iff_eq_none, Entries.isSome_get?_iff, ← sameKeys,
                ← Entries.isSome_get?_iff, found]
              exact nofun
          | some value =>
              have present : (Entries.get? others key).isSome = true := by
                rw [Entries.isSome_get?_iff, ← sameKeys, ← Entries.isSome_get?_iff, found]
                rfl
              have ⟨other, there⟩ := Option.isSome_iff_exists.mp present
              rw [there]
              congr 1
              apply induction (key, value) (Entries.mem_of_get? found)
              · intro path
                have below := seen (key :: path)
                rwa [seenAt_table_cons, seenAt_table_cons, found, there] at below
              · intro path
                have below := keys (key :: path)
                rwa [keysAt_table_cons found, keysAt_table_cons there] at below
      | _ => cases seen []
  | @plain first plain =>
      have here := seen []
      simp only [seenAt, at?, Option.map_some, plain, Bool.false_eq_true, if_false,
        Option.some.injEq] at here
      split at here
      · cases here
      · exact Option.some.inj here

/-! ## What merging makes of it -/

section Merged

variable {uppers lowers merged : List (String × Document)}

/-- The upper document is seen first. -/
theorem seenAt_merged (laid : mergeTables uppers lowers = .ok merged) (path : List String) :
    (Document.table merged).seenAt path =
      ((Document.table uppers).seenAt path).or ((Document.table lowers).seenAt path) := by
  have above := laidOver_tables laid path
  unfold seenAt
  generalize (Document.table uppers).at? path = upper?, (Document.table lowers).at? path = lower?,
    (Document.table merged).at? path = merged? at above ⊢
  cases merged? with
  | none =>
      have ⟨noUpper, noLower⟩ := not_or.mp (mt above.present.mpr nofun)
      rw [Option.not_isSome_iff_eq_none] at noUpper noLower
      rw [noUpper, noLower]
      rfl
  | some value =>
      have first : ∃ given, upper?.or lower? = some given ∧
          ((upper?.map fun value => if value.isTable then none else some value).or
            (lower?.map fun value => if value.isTable then none else some value)) =
          some (if given.isTable then none else some given) := by
        cases upper? with
        | some upper => exact ⟨upper, rfl, rfl⟩
        | none =>
            cases lower? with
            | some lower => exact ⟨lower, rfl, rfl⟩
            | none => simpa using above.present.mp rfl
      have ⟨given, isFirst, same⟩ := first
      have kind : value.isTable = given.isTable := by
        apply above.kind value given rfl
        cases upper? with
        | some upper => exact .inl isFirst
        | none => exact .inr isFirst
      rw [same, Option.map_some, kind]
      cases plain : given.isTable with
      | true => rfl
      | false =>
          have found := above.plain value rfl (kind.trans plain)
          rw [isFirst] at found
          rw [Option.some.inj found]

/-- The new keys of an upper table come last. -/
theorem keysAt_merged (laid : mergeTables uppers lowers = .ok merged) (path : List String) :
    (Document.table merged).keysAt path =
      overlay ((Document.table uppers).keysAt path) ((Document.table lowers).keysAt path) := by
  induction path generalizing uppers lowers merged with
  | nil => exact keys_mergeTables laid
  | cons key rest induction =>
      have below := laidUnder_mergeTables laid key
      simp only [keysAt, at?_table_cons]
      generalize Entries.get? uppers key = upper?, Entries.get? lowers key = lower?,
        Entries.get? merged key = merged? at below ⊢
      cases below with
      | missing => rfl
      | upper value => exact (overlay_nil _).symm
      | lower value => exact (nil_overlay _).symm
      | both inside =>
          rcases mergeValue_cases inside with
            ⟨uppers, lowers, merged, rfl, rfl, rfl, deeper⟩ | ⟨plainUpper, plainLower, rfl⟩
          · exact induction deeper
          · change keysAt _ rest = overlay (keysAt _ rest) (keysAt _ rest)
            rw [keysAt_of_plain plainUpper, keysAt_of_plain plainLower]
            rfl

end Merged

theorem HasDistinctKeys.of_table {entries : List (String × Document)}
    (distinct : (Document.table entries).HasDistinctKeys) :
    (Entries.keys entries).Nodup ∧ ∀ entry ∈ entries, entry.2.HasDistinctKeys := by
  cases distinct with
  | table distinct inside => exact ⟨distinct, inside⟩
  | plain plain => cases plain

/-- Merging repeats no key. -/
theorem HasDistinctKeys.of_mergeValue {key : String} {upper lower value : Document}
    (distinctUpper : upper.HasDistinctKeys) (distinctLower : lower.HasDistinctKeys)
    (laid : mergeValue key upper lower = .ok value) : value.HasDistinctKeys := by
  induction distinctLower generalizing key upper value with
  | @table lowers distinct inside induction =>
      rcases mergeValue_cases laid with
        ⟨uppers, _, merged, rfl, same, rfl, deeper⟩ | ⟨-, isTable, -⟩
      · cases same
        have ⟨distinctKeys, insideUpper⟩ := distinctUpper.of_table
        have keys : (Entries.keys merged).Nodup := by
          rw [keys_mergeTables deeper]
          exact nodup_overlay distinctKeys distinct
        refine .table keys fun entry member => ?_
        have under := laidUnder_mergeTables deeper entry.1
        rw [Entries.get?_of_mem keys member] at under
        generalize above : Entries.get? uppers entry.1 = upper?,
          below : Entries.get? lowers entry.1 = lower?, entry.2 = value at under ⊢
        cases under with
        | upper value => exact insideUpper _ (Entries.mem_of_get? above)
        | lower value => exact inside _ (Entries.mem_of_get? below)
        | both laid =>
            exact induction _ (Entries.mem_of_get? below)
              (insideUpper _ (Entries.mem_of_get? above))
              laid
      · cases isTable
  | plain plain =>
      rcases mergeValue_cases laid with ⟨-, lowers, -, -, rfl, -, -⟩ | ⟨-, -, rfl⟩
      · cases plain
      · exact distinctUpper

/-! ## Laws of merging -/

/-- Whether two things that are seen are a table and a value that is none. -/
def collide (upper lower : Option (Option Document)) : Bool :=
  match upper, lower with
  | some upper, some lower => upper.isNone != lower.isNone
  | _, _ => false

theorem clashes_eq_collide (upper lower : Document) (path : List String) :
    clashes upper lower path = collide (upper.seenAt path) (lower.seenAt path) := by
  have isNone (value : Document) :
      (if value.isTable then none else some value).isNone = value.isTable := by
    cases value.isTable <;> rfl
  simp only [clashes, seenAt, collide]
  cases upper.at? path with
  | none => rfl
  | some above =>
      cases lower.at? path with
      | none => rfl
      | some below => simp only [Option.map_some, isNone]

/-- Something collides with what is seen first of two that agree if it does with one of them. -/
theorem collide_or {upper middle lower : Option (Option Document)}
    (agree : collide middle lower = false) :
    collide upper (middle.or lower) = (collide upper middle || collide upper lower) := by
  rcases upper with _ | _ | _ <;> rcases middle with _ | _ | _ <;> rcases lower with _ | _ | _ <;>
    simp_all [collide]

theorem or_collide {upper middle lower : Option (Option Document)}
    (agree : collide upper middle = false) :
    collide (upper.or middle) lower = (collide upper lower || collide middle lower) := by
  rcases upper with _ | _ | _ <;> rcases middle with _ | _ | _ <;> rcases lower with _ | _ | _ <;>
    simp_all [collide]

/-- Whether there is no path at which one of two documents has a table and the other a value that is
none. -/
def Agree (upper lower : Document) : Prop :=
  ∀ path, collide (upper.seenAt path) (lower.seenAt path) = false

/-- Whether merging ended because a table would have met a value that is none. -/
def IsRefused (outcome : Except Failure Document) : Prop :=
  ∃ key kind lowerKind, outcome = .error (.badKind (.mixedTable key kind lowerKind))

section Laws

variable {uppers middles lowers merged : List (String × Document)}

/-- Merging two tables is refused exactly if they do not agree. -/
theorem merge_tables_cases (distinct : (table lowers).HasDistinctKeys)
    (uppers : List (String × Document)) :
    (∃ merged, mergeTables uppers lowers = .ok merged ∧
      merge (table uppers) (table lowers) = .ok (table merged) ∧
      Agree (table uppers) (table lowers)) ∨
    IsRefused (merge (table uppers) (table lowers)) ∧ ¬ Agree (table uppers) (table lowers) := by
  have settles := settles_mergeValue distinct "" (table uppers)
  rw [← merge_tables] at settles
  simp only [Agree, ← clashes_eq_collide]
  cases first : firstClash? (table uppers) (table lowers) with
  | none =>
      rw [first] at settles
      have ⟨merged, laid⟩ := settles
      have ⟨entries, inside, same⟩ := exists_of_bind_eq_ok laid
      cases same
      refine .inl ⟨entries, inside, laid, fun path => ?_⟩
      rw [← Bool.not_eq_true]
      intro clash
      have ⟨other, found⟩ := exists_firstClash?_iff.mpr ⟨path, clash⟩
      rw [first] at found
      cases found
  | some path =>
      rw [first] at settles
      have ⟨path, clash⟩ := exists_firstClash?_iff.mp ⟨path, first⟩
      refine .inr ⟨⟨_, _, _, settles⟩, fun agree => ?_⟩
      rw [agree path] at clash
      cases clash

theorem agree_merged_iff (laid : mergeTables middles lowers = .ok merged)
    (agree : Agree (table middles) (table lowers)) (upper : Document) :
    Agree upper (table merged) ↔ Agree upper (table middles) ∧ Agree upper (table lowers) := by
  simp only [Agree, seenAt_merged laid, collide_or (agree _), Bool.or_eq_false_iff, forall_and]

theorem merged_agree_iff (laid : mergeTables uppers middles = .ok merged)
    (agree : Agree (table uppers) (table middles)) (lower : Document) :
    Agree (table merged) lower ↔ Agree (table uppers) lower ∧ Agree (table middles) lower := by
  simp only [Agree, seenAt_merged laid, or_collide (agree _), Bool.or_eq_false_iff, forall_and]

theorem hasDistinctKeys_mergeTables (distinctUpper : (table uppers).HasDistinctKeys)
    (distinctLower : (table lowers).HasDistinctKeys)
    (laid : mergeTables uppers lowers = .ok merged) : (table merged).HasDistinctKeys := by
  have whole : merge (table uppers) (table lowers) = .ok (table merged) := by
    rw [merge, laid]
    rfl
  rw [merge_tables _ _ ""] at whole
  exact .of_mergeValue distinctUpper distinctLower whole

theorem IsRefused.bind {outcome : Except Failure Document} (refused : IsRefused outcome)
    (next : Document → Except Failure Document) : IsRefused (outcome >>= next) := by
  have ⟨key, kind, lowerKind, same⟩ := refused
  exact ⟨key, kind, lowerKind, by rw [same]; rfl⟩

/-- Laying a table over two others that are merged first needs that each two agree. -/
theorem merge_below_cases (distinctMiddle : (table middles).HasDistinctKeys)
    (distinctLower : (table lowers).HasDistinctKeys) (uppers : List (String × Document)) :
    let outcome := do merge (table uppers) (← merge (table middles) (table lowers))
    let compatible := Agree (table uppers) (table middles) ∧ Agree (table uppers) (table lowers) ∧
      Agree (table middles) (table lowers)
    (∃ below result, mergeTables middles lowers = .ok below ∧
      mergeTables uppers below = .ok result ∧ outcome = .ok (table result) ∧ compatible) ∨
    IsRefused outcome ∧ ¬ compatible := by
  rcases merge_tables_cases distinctLower middles with
    ⟨below, inside, laid, agree⟩ | ⟨refused, differ⟩
  · have distinctBelow := hasDistinctKeys_mergeTables distinctMiddle distinctLower inside
    have each := agree_merged_iff inside agree (table uppers)
    rcases merge_tables_cases distinctBelow uppers with
      ⟨result, merges, laidOver, agreeOver⟩ | ⟨refused, differ⟩
    · have ⟨withMiddle, withLower⟩ := each.mp agreeOver
      exact .inl ⟨below, result, inside, merges, by rw [laid]; exact laidOver, withMiddle, withLower,
        agree⟩
    · refine .inr ⟨by rw [laid]; exact refused, fun ⟨withMiddle, withLower, _⟩ => ?_⟩
      exact differ (each.mpr ⟨withMiddle, withLower⟩)
  · exact .inr ⟨refused.bind _, fun ⟨_, _, agree⟩ => differ agree⟩

/-- Laying two tables that are merged first over another needs that each two agree. -/
theorem merge_above_cases (distinctMiddle : (table middles).HasDistinctKeys)
    (distinctLower : (table lowers).HasDistinctKeys) (uppers : List (String × Document)) :
    let outcome := do merge (← merge (table uppers) (table middles)) (table lowers)
    let compatible := Agree (table uppers) (table middles) ∧ Agree (table uppers) (table lowers) ∧
      Agree (table middles) (table lowers)
    (∃ above result, mergeTables uppers middles = .ok above ∧
      mergeTables above lowers = .ok result ∧ outcome = .ok (table result) ∧ compatible) ∨
    IsRefused outcome ∧ ¬ compatible := by
  rcases merge_tables_cases distinctMiddle uppers with
    ⟨above, inside, laid, agree⟩ | ⟨refused, differ⟩
  · have each := merged_agree_iff inside agree (table lowers)
    rcases merge_tables_cases distinctLower above with
      ⟨result, merges, laidOver, agreeOver⟩ | ⟨refused, differ⟩
    · have ⟨ofUpper, ofMiddle⟩ := each.mp agreeOver
      exact .inl ⟨above, result, inside, merges, by rw [laid]; exact laidOver, agree, ofUpper,
        ofMiddle⟩
    · refine .inr ⟨by rw [laid]; exact refused, fun ⟨_, ofUpper, ofMiddle⟩ => ?_⟩
      exact differ (each.mpr ⟨ofUpper, ofMiddle⟩)
  · exact .inr ⟨refused.bind _, fun ⟨agree, _⟩ => differ agree⟩

/-- Where three tables are merged in either order, the results are the same. -/
theorem merged_eq {above below left right : List (String × Document)}
    (distinctUpper : (table uppers).HasDistinctKeys)
    (distinctMiddle : (table middles).HasDistinctKeys)
    (distinctLower : (table lowers).HasDistinctKeys)
    (inBelow : mergeTables middles lowers = .ok below)
    (overBelow : mergeTables uppers below = .ok left)
    (inAbove : mergeTables uppers middles = .ok above)
    (aboveLower : mergeTables above lowers = .ok right) : table left = table right := by
  have distinct : (table left).HasDistinctKeys :=
    hasDistinctKeys_mergeTables distinctUpper
      (hasDistinctKeys_mergeTables distinctMiddle distinctLower inBelow) overBelow
  apply eq_of_seenAt_eq distinct
  · intro path
    rw [seenAt_merged overBelow, seenAt_merged inBelow, seenAt_merged aboveLower,
      seenAt_merged inAbove, Option.or_assoc]
  · intro path
    rw [keysAt_merged overBelow, keysAt_merged inBelow, keysAt_merged aboveLower,
      keysAt_merged inAbove, overlay_assoc]

theorem merge_assoc (distinctUpper : (table uppers).HasDistinctKeys)
    (distinctMiddle : (table middles).HasDistinctKeys)
    (distinctLower : (table lowers).HasDistinctKeys) :
    let belowFirst := do merge (table uppers) (← merge (table middles) (table lowers))
    let aboveFirst := do merge (← merge (table uppers) (table middles)) (table lowers)
    IsRefused belowFirst ∧ IsRefused aboveFirst ∨
      ∃ merged, belowFirst = .ok merged ∧ aboveFirst = .ok merged := by
  rcases merge_below_cases distinctMiddle distinctLower uppers with
    ⟨below, left, inBelow, overBelow, laidLeft, compatible⟩ | ⟨refused, differ⟩
  · rcases merge_above_cases distinctMiddle distinctLower uppers with
      ⟨above, right, inAbove, aboveLower, laidRight, -⟩ | ⟨-, differ⟩
    · have same := merged_eq distinctUpper distinctMiddle distinctLower inBelow overBelow inAbove
        aboveLower
      exact .inr ⟨table left, laidLeft, same ▸ laidRight⟩
    · exact absurd compatible differ
  · rcases merge_above_cases distinctMiddle distinctLower uppers with
      ⟨-, -, -, -, -, compatible⟩ | ⟨refusedToo, -⟩
    · exact absurd compatible differ
    · exact .inl ⟨refused, refusedToo⟩

theorem empty_merge (lowers : List (String × Document)) :
    merge (table []) (table lowers) = .ok (table lowers) := by
  have kept : mergeLower [] lowers = .ok lowers := by
    induction lowers with
    | nil => rfl
    | cons entry rest induction =>
        rw [mergeLower_cons, induction]
        rfl
  simp only [merge, mergeTables, kept, List.filter_nil, List.append_nil]
  rfl

theorem merge_empty (uppers : List (String × Document)) :
    merge (table uppers) (table []) = .ok (table uppers) := by
  have all :
      (uppers.filter fun entry => !Entries.contains ([] : Entries Document) entry.1) = uppers :=
    List.filter_eq_self.mpr fun _ _ => rfl
  simp only [merge, mergeTables, mergeLower, all]
  rfl

/-- A table agrees with itself, and is itself where it lies over itself. -/
theorem merge_self (distinct : (table lowers).HasDistinctKeys) :
    merge (table lowers) (table lowers) = .ok (table lowers) := by
  rcases merge_tables_cases distinct lowers with ⟨merged, inside, laid, -⟩ | ⟨-, differ⟩
  · rw [laid]
    congr 1
    apply eq_of_seenAt_eq (hasDistinctKeys_mergeTables distinct distinct inside)
    · intro path
      rw [seenAt_merged inside, Option.or_self]
    · intro path
      rw [keysAt_merged inside, overlay_self]
  · refine absurd (fun path => ?_) differ
    cases (table lowers).seenAt path <;> simp [collide]

/-- What lies over a table already does not change when it is laid over it again. -/
theorem merge_merged (distinctUpper : (table uppers).HasDistinctKeys)
    (distinctLower : (table lowers).HasDistinctKeys) {merged : Document}
    (laid : merge (table uppers) (table lowers) = .ok merged) :
    merge merged (table lowers) = .ok merged := by
  have same := merge_assoc distinctUpper distinctLower distinctLower
  simp only [merge_self distinctLower, laid] at same
  change IsRefused (merge (table uppers) (table lowers)) ∧ IsRefused (merge merged (table lowers)) ∨
    ∃ other, merge (table uppers) (table lowers) = .ok other ∧
      merge merged (table lowers) = .ok other at same
  rw [laid] at same
  rcases same with ⟨⟨_, _, _, refused⟩, -⟩ | ⟨other, isMerged, again⟩
  · cases refused
  · cases isMerged
    exact again

/-- The laws by which tables are laid over each other. -/
theorem merge_laws (distinctUpper : (table uppers).HasDistinctKeys)
    (distinctMiddle : (table middles).HasDistinctKeys)
    (distinctLower : (table lowers).HasDistinctKeys) :
    let belowFirst := do merge (table uppers) (← merge (table middles) (table lowers))
    let aboveFirst := do merge (← merge (table uppers) (table middles)) (table lowers)
    (IsRefused belowFirst ∧ IsRefused aboveFirst ∨
      ∃ merged, belowFirst = .ok merged ∧ aboveFirst = .ok merged) ∧
    merge (table []) (table lowers) = .ok (table lowers) ∧
    merge (table uppers) (table []) = .ok (table uppers) ∧
    ∀ merged, merge (table uppers) (table lowers) = .ok merged →
      merge merged (table lowers) = .ok merged :=
  ⟨merge_assoc distinctUpper distinctMiddle distinctLower, empty_merge lowers, merge_empty uppers,
    fun _ laid => merge_merged distinctUpper distinctLower laid⟩

end Laws

/-- Settings in three layers: a key of each two of them, a table in all, and a key of the first. -/
theorem merge_laws_of_settings :
    let uppers :=
      [("color", bool true), ("file", table [("mode", text "w")]), ("level", text "debug")]
    let middles :=
      [("file", table [("name", text "out"), ("mode", text "a")]), ("level", text "info")]
    let lowers := [("level", text "error"), ("file", table [("size", int 1)])]
    let all := table [("level", text "debug"),
      ("file", table [("size", int 1), ("name", text "out"), ("mode", text "w")]),
      ("color", bool true)]
    (table uppers).HasDistinctKeys ∧ (table middles).HasDistinctKeys ∧
      (table lowers).HasDistinctKeys ∧
      (do merge (table uppers) (← merge (table middles) (table lowers))) = .ok all ∧
      (do merge (← merge (table uppers) (table middles)) (table lowers)) = .ok all := by
  intro uppers middles lowers all
  have isText (value : String) : (text value).HasDistinctKeys := .plain rfl
  have isBool (value : Bool) : (bool value).HasDistinctKeys := .plain rfl
  have inUpper : (table [("mode", text "w")]).HasDistinctKeys :=
    .table (by decide) (by simp [isText])
  have inMiddle : (table [("name", text "out"), ("mode", text "a")]).HasDistinctKeys :=
    .table (by decide) (by simp [isText])
  have inLower : (table [("size", int 1)]).HasDistinctKeys :=
    .table (by decide) (by simpa using .plain rfl)
  have distinctUpper : (table uppers).HasDistinctKeys :=
    .table (by decide) (by simp [uppers, isText, isBool, inUpper])
  have distinctMiddle : (table middles).HasDistinctKeys :=
    .table (by decide) (by simp [middles, isText, inMiddle])
  have distinctLower : (table lowers).HasDistinctKeys :=
    .table (by decide) (by simp [lowers, isText, inLower])
  have belowFirst :
      (do merge (table uppers) (← merge (table middles) (table lowers))) = .ok all := rfl
  refine ⟨distinctUpper, distinctMiddle, distinctLower, belowFirst, ?_⟩
  have ⟨either, _⟩ := merge_laws distinctUpper distinctMiddle distinctLower
  rcases either with ⟨⟨_, _, _, refused⟩, -⟩ | ⟨merged, left, right⟩
  · cases belowFirst.symm.trans refused
  · cases belowFirst.symm.trans left
    exact right

end Document

end EngineBridge
