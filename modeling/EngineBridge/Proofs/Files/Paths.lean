import EngineBridge.Files.Tree
import EngineBridge.Proofs.Running

/-!
What absolute paths lead to.

A path is a front, which ends in a slash if there is one, and its last part. Main statements: the
normal form of an absolute path leads to the place that its parts name and to no other; of two paths
with the same front, one with a name at its end leads nowhere that the other does unless they are the
same; and what is left of a path without its ending is the same front with a part that is shorter.
-/

namespace EngineBridge

namespace Text

variable {separator : Char} {characters part : List Char} {parts : List (List Char)}

theorem splitOn_of_not_mem (absent : separator ∉ characters) :
    splitOn separator characters = [characters] := by
  induction characters with
  | nil => rfl
  | cons character rest induction =>
      rw [List.mem_cons, not_or] at absent
      rw [splitOn, if_neg (Ne.symm absent.1), induction absent.2]

theorem splitOn_append_cons (separator : Char) (before behind : List Char) :
    splitOn separator (before ++ separator :: behind) =
      splitOn separator before ++ splitOn separator behind := by
  induction before with
  | nil => simp [splitOn]
  | cons character rest induction =>
      rw [List.cons_append, splitOn, splitOn, induction]
      split
      · rfl
      · cases parts : splitOn separator rest with
        | nil => exact absurd parts (splitOn_ne_nil separator rest)
        | cons first others => rfl

theorem not_mem_of_mem_splitOn (inside : part ∈ splitOn separator characters) :
    separator ∉ part := by
  induction characters generalizing part with
  | nil =>
      rw [List.mem_singleton.mp inside]
      exact List.not_mem_nil
  | cons character rest induction =>
      rw [splitOn] at inside
      split at inside
      · rcases List.mem_cons.mp inside with rfl | behind
        · exact List.not_mem_nil
        · exact induction behind
      · rename_i differs
        cases parts : splitOn separator rest with
        | nil => exact absurd parts (splitOn_ne_nil separator rest)
        | cons first others =>
            rw [parts] at inside induction
            rcases List.mem_cons.mp inside with rfl | behind
            · exact List.not_mem_cons_of_ne_of_not_mem (Ne.symm differs) (induction List.mem_cons_self)
            · exact induction (List.mem_cons_of_mem _ behind)

/-- Parts without the separator are found again once they have been joined. -/
theorem splitOn_joinWith (nonempty : parts ≠ []) (each : ∀ part ∈ parts, separator ∉ part) :
    splitOn separator (joinWith separator parts) = parts := by
  induction parts with
  | nil => exact absurd rfl nonempty
  | cons part rest induction =>
      cases rest with
      | nil => exact splitOn_of_not_mem (each part List.mem_cons_self)
      | cons next others =>
          rw [joinWith, splitOn_append_cons, splitOn_of_not_mem (each part List.mem_cons_self),
            induction (by simp) fun other inside => each other (List.mem_cons_of_mem _ inside)]
          · rfl
          · simp

end Text

namespace Path

variable {path front last name : String} {part : List Char} {done rest : List (List Char)}

/-- Whether a part of a path is the name of something in a directory. -/
def IsName (part : List Char) : Prop :=
  isIdle part = false ∧ part ≠ parent

/-- The names on the way from the root, in reverse, after one more part. -/
def visit (done : List (List Char)) (part : List Char) : List (List Char) :=
  if isIdle part then done
  else if part = parent then done.tail
  else part :: done

theorem forall_visit {holds : List Char → Prop} (each : ∀ other ∈ done, holds other)
    (here : IsName part → holds part) : ∀ other ∈ visit done part, holds other := by
  unfold visit
  split
  · exact each
  · rename_i active
    split
    · exact fun other inside => each other (List.mem_of_mem_tail inside)
    · rename_i proper
      exact List.forall_mem_cons.mpr ⟨here ⟨eq_false_of_ne_true active, proper⟩, each⟩

theorem forall_foldl_visit {holds : List Char → Prop} (each : ∀ other ∈ done, holds other)
    (behind : ∀ part ∈ rest, IsName part → holds part) :
    ∀ other ∈ rest.foldl visit done, holds other := by
  induction rest generalizing done with
  | nil => exact each
  | cons part others induction =>
      have ⟨here, there⟩ := List.forall_mem_cons.mp behind
      exact induction (forall_visit each here) there

/-- Below the root, a step to the parent takes a name away if there is one. -/
theorem normalParts_eq (names : ∀ other ∈ done, IsName other) :
    normalParts true done rest = (rest.foldl visit done).reverse := by
  induction rest generalizing done with
  | nil => rw [normalParts, List.foldl_nil]
  | cons part others induction =>
      have following : normalParts true (visit done part) others =
          (others.foldl visit (visit done part)).reverse := induction (forall_visit names id)
      rw [List.foldl_cons, ← following]
      by_cases idle : isIdle part = true
      · simp [normalParts, visit, idle]
      by_cases up : part = parent
      · -- The parent of the root is the root, and no name is that of a parent.
        have isActive : isIdle parent = false := rfl
        cases done with
        | nil => simp [normalParts, visit, up, isActive]
        | cons top before =>
            have named := (names top List.mem_cons_self).2
            simp [normalParts, visit, up, isActive, named]
      · simp [normalParts, visit, idle, up]

/-- The place that an absolute path names. -/
def target (path : String) : Place :=
  ((parts path).foldl visit []).reverse

theorem isName_of_mem_target (inside : part ∈ target path) : IsName part :=
  forall_foldl_visit (by simp) (fun _ _ named => named) part (List.mem_reverse.mp inside)

theorem not_mem_of_mem_target (inside : part ∈ target path) : '/' ∉ part := by
  have each : ∀ other ∈ (parts path).foldl visit [], '/' ∉ other :=
    forall_foldl_visit (by simp) fun _ member _ => Text.not_mem_of_mem_splitOn member
  exact each part (List.mem_reverse.mp inside)

theorem lead_of_isAbsolute (absolute : isAbsolute path = true) :
    lead path = "/" ∨ lead path = "//" := by
  unfold isAbsolute at absolute
  unfold lead
  split
  · exact .inl rfl
  · exact .inr rfl
  · exact .inl rfl
  · rename_i other
    cases characters : path.toList with
    | nil => simp [characters] at absolute
    | cons character rest =>
        simp only [characters, List.head?_cons, beq_iff_eq, Option.some.injEq] at absolute
        exact absurd (absolute ▸ characters) (other rest)

theorem parts_slash_append (path : String) : parts ("/" ++ path) = [] :: parts path := by
  unfold parts
  rw [String.toList_append]
  rfl

/-- A path of which the steps that are not idle are those to a place, one name each. -/
structure LeadsTo (path : String) (place : Place) : Prop where
  absolute : isAbsolute path = true
  forward : parent ∉ parts path
  names : (parts path).filter (fun part => !isIdle part) = place

theorem leadsTo_slash_target (path : String) :
    LeadsTo ("/" ++ ofParts (target path)) (target path) := by
  have named : (target path).filter (fun part => !isIdle part) = target path := by
    rw [List.filter_eq_self]
    intro part inside
    rw [(isName_of_mem_target inside).1]
    rfl
  have split : parts (ofParts (target path)) = target path ∨
      target path = [] ∧ parts (ofParts (target path)) = [[]] := by
    unfold parts ofParts
    rw [String.toList_ofList]
    by_cases empty : target path = []
    · rw [empty]
      exact .inr ⟨rfl, rfl⟩
    · exact .inl (Text.splitOn_joinWith empty fun part inside => not_mem_of_mem_target inside)
  refine ⟨by simp [isAbsolute], ?_, ?_⟩
  · rw [parts_slash_append]
    rcases split with same | ⟨_, single⟩
    · rw [same]
      exact List.not_mem_cons_of_ne_of_not_mem (by simp [parent]) fun inside =>
        (isName_of_mem_target inside).2 rfl
    · rw [single]
      simp [parent]
  · rw [parts_slash_append]
    rcases split with same | ⟨empty, single⟩
    · rw [same]
      exact named
    · rw [single, empty]
      rfl

theorem LeadsTo.slash {place : Place} (leads : LeadsTo path place) :
    LeadsTo ("/" ++ path) place where
  absolute := by simp [isAbsolute]
  forward := by
    rw [parts_slash_append]
    exact List.not_mem_cons_of_ne_of_not_mem (by simp [parent]) leads.forward
  names := by
    rw [parts_slash_append]
    exact leads.names

/-- The normal form of an absolute path takes no steps but those to the place that it names. -/
theorem leadsTo_normal (absolute : isAbsolute path = true) : LeadsTo (normal path) (target path) := by
  have named : normalParts (isAbsolute path) [] (parts path) = target path := by
    rw [absolute, normalParts_eq (by simp), target]
  unfold normal
  rw [named]
  rcases lead_of_isAbsolute absolute with single | double
  · have nonempty : ("/" ++ ofParts (target path)).isEmpty = false := by simp
    rw [single]
    dsimp only
    rw [nonempty]
    exact leadsTo_slash_target path
  · have nonempty : ("//" ++ ofParts (target path)).isEmpty = false := by simp
    have split : "//" ++ ofParts (target path) = "/" ++ ("/" ++ ofParts (target path)) := by
      rw [← String.append_assoc]
      rfl
    rw [double]
    dsimp only
    rw [nonempty, split]
    exact (leadsTo_slash_target path).slash

/-- Whether a path may stand in front of another part. -/
def IsFront (front : String) : Prop :=
  front = "" ∨ front.toList.getLast? = some '/'

/-- Behind the front of an absolute path, a last part is one more step. -/
theorem exists_target_append (isFront : IsFront front) (absolute : isAbsolute front = true) :
    ∃ done, ∀ last : String, '/' ∉ last.toList →
      target (front ++ last) = (visit done last.toList).reverse := by
  rcases isFront with empty | ends
  · rw [empty] at absolute
    cases absolute
  · obtain ⟨before, same⟩ := List.getLast?_eq_some_iff.mp ends
    refine ⟨(Text.splitOn '/' before).foldl visit [], ?_⟩
    intro last slashless
    unfold target parts
    rw [String.toList_append, same, List.append_assoc, List.singleton_append,
      Text.splitOn_append_cons, Text.splitOn_of_not_mem slashless, List.foldl_append,
      List.foldl_cons, List.foldl_nil]

/-- A name at the end of a path leads to another place than any other last part. -/
theorem target_eq_iff (isFront : IsFront front) (absolute : isAbsolute front = true)
    (slashless : '/' ∉ last.toList) (slashlessName : '/' ∉ name.toList)
    (isName : IsName name.toList) :
    target (front ++ last) = target (front ++ name) ↔ last = name := by
  constructor
  · obtain ⟨done, leads⟩ := exists_target_append isFront absolute
    have named : visit done name.toList = name.toList :: done := by
      rw [visit, if_neg (by simp [isName.1]), if_neg isName.2]
    rw [leads last slashless, leads name slashlessName, named, List.reverse_inj, visit]
    -- Only another name makes the place as long.
    split
    · intro same
      have lengths := congrArg List.length same
      rw [List.length_cons] at lengths
      omega
    · split
      · intro same
        have lengths := congrArg List.length same
        rw [List.length_tail, List.length_cons] at lengths
        omega
      · intro same
        exact String.toList_inj.mp (List.cons.inj same).1
  · rintro rfl
    rfl

theorem isAbsolute_append (slashless : '/' ∉ last.toList) :
    isAbsolute (front ++ last) = isAbsolute front := by
  unfold isAbsolute
  rw [String.toList_append]
  cases front.toList with
  | cons character rest => rfl
  | nil =>
      rw [List.nil_append]
      cases characters : last.toList with
      | nil => rfl
      | cons character rest =>
          rw [characters, List.mem_cons, not_or] at slashless
          simp [Ne.symm slashless.1]

theorem isAbsolute_join {directory : String} (absolute : isAbsolute directory = true)
    (path : String) : isAbsolute (join directory path) = true := by
  have longer (rest : String) : isAbsolute (directory ++ rest) = true := by
    unfold isAbsolute at absolute ⊢
    rw [String.toList_append, List.head?_append, beq_iff_eq.mp absolute]
    rfl
  unfold join
  split
  · assumption
  · split
    · exact longer path
    · rw [String.append_assoc]
      exact longer _

/-- Paths with the same front have one in each directory as well. -/
theorem exists_join_append (isFront : IsFront front) (directory : String) :
    ∃ outer, IsFront outer ∧ ∀ last : String, '/' ∉ last.toList →
      join directory (front ++ last) = outer ++ last := by
  by_cases absolute : isAbsolute front = true
  · refine ⟨front, isFront, ?_⟩
    intro last slashless
    rw [join, if_pos (by rwa [isAbsolute_append slashless])]
  have joined (last : String) (slashless : '/' ∉ last.toList) :
      join directory (front ++ last) =
        if directory.isEmpty || directory.toList.getLast? == some '/' then
          directory ++ front ++ last
        else directory ++ "/" ++ front ++ last := by
    rw [join, if_neg (by rwa [isAbsolute_append slashless])]
    simp only [String.append_assoc]
  have behind (before : String) (isBefore : IsFront before) : IsFront (before ++ front) := by
    rcases isFront with empty | ends
    · rwa [empty, String.append_empty]
    · right
      rw [String.toList_append, List.getLast?_append, ends]
      rfl
  by_cases ready : (directory.isEmpty || directory.toList.getLast? == some '/') = true
  · refine ⟨directory ++ front, behind directory ?_, ?_⟩
    · simpa [IsFront] using ready
    · intro last slashless
      rw [joined last slashless, if_pos ready]
  · refine ⟨directory ++ "/" ++ front, behind (directory ++ "/") ?_, ?_⟩
    · right
      simp
    · intro last slashless
      rw [joined last slashless, if_neg ready]

/-- Whether a path ends in a dot and a word behind a last part of which not all are dots. -/
def HasEnding (path ending : String) : Prop :=
  ∃ front stem : String, path = front ++ (stem ++ ("." ++ ending)) ∧ IsFront front ∧
    '/' ∉ stem.toList ∧ ∃ character ∈ stem.toList, character ≠ '.'

/-- Each path is a front and its last part. -/
theorem exists_front (path : String) :
    ∃ front last : String, path = front ++ last ∧ IsFront front ∧ '/' ∉ last.toList := by
  refine ⟨String.ofList (path.toList.reverse.dropWhile (· != '/')).reverse,
    String.ofList (path.toList.reverse.takeWhile (· != '/')).reverse, ?_, ?_, ?_⟩
  · rw [← String.ofList_append, ← List.reverse_append, List.takeWhile_append_dropWhile,
      List.reverse_reverse, String.ofList_toList]
  · unfold IsFront
    rw [String.toList_ofList, List.getLast?_reverse]
    cases rest : path.toList.reverse.dropWhile (· != '/') with
    | nil => exact .inl rfl
    | cons character others =>
        have first := List.head?_dropWhile_not (· != '/') path.toList.reverse
        rw [rest] at first
        exact .inr (by simpa using first)
  · rw [String.toList_ofList, List.mem_reverse]
    intro inside
    simpa using List.all_eq_true.mp List.all_takeWhile _ inside

/-- The ending of a path is looked for in its last part only. -/
theorem withoutEnding_append (isFront : IsFront front) (slashless : '/' ∉ last.toList) :
    withoutEnding (front ++ last) =
      if (last.toList.reverse.takeWhile (· != '.')).length < last.toList.reverse.length &&
          (last.toList.reverse.drop
            ((last.toList.reverse.takeWhile (· != '.')).length + 1)).any (· != '.') then
        front ++ String.ofList (last.toList.reverse.drop
          ((last.toList.reverse.takeWhile (· != '.')).length + 1)).reverse
      else front ++ last := by
  have each : ∀ character ∈ last.toList.reverse, (character != '/') = true := by
    intro character inside
    rw [bne_iff_ne]
    rintro rfl
    exact slashless (List.mem_reverse.mp inside)
  have stops : front.toList.reverse.takeWhile (· != '/') = [] := by
    rcases isFront with empty | ends
    · rw [empty]
      rfl
    · obtain ⟨before, same⟩ := List.getLast?_eq_some_iff.mp ends
      simp [same]
  have name : (front ++ last).toList.reverse.takeWhile (· != '/') = last.toList.reverse := by
    rw [String.toList_append, List.reverse_append, List.takeWhile_append_of_pos each, stops,
      List.append_nil]
  unfold withoutEnding
  dsimp only
  rw [name, List.drop_drop]
  split
  · rename_i ends
    rw [Bool.and_eq_true, decide_eq_true_eq] at ends
    rw [String.toList_append, List.reverse_append, List.drop_append_of_le_length ends.1,
      List.reverse_append, List.reverse_reverse, String.ofList_append, String.ofList_toList]
  · rfl

/-- Without its ending, a path has the same front, and what is not only dots behind it. -/
theorem withoutEnding_cases (isFront : IsFront front) (slashless : '/' ∉ last.toList) :
    withoutEnding (front ++ last) = front ++ last ∨
      ∃ stem : String, withoutEnding (front ++ last) = front ++ stem ∧ '/' ∉ stem.toList ∧
        ∃ character ∈ stem.toList, character ≠ '.' := by
  rw [withoutEnding_append isFront slashless]
  split
  · rename_i ends
    rw [Bool.and_eq_true, List.any_eq_true] at ends
    obtain ⟨character, inside, proper⟩ := ends.2
    refine .inr ⟨_, rfl, ?_, character, ?_, bne_iff_ne.mp proper⟩
    · rw [String.toList_ofList, List.mem_reverse]
      exact fun member => slashless (List.mem_reverse.mp (List.mem_of_mem_drop member))
    · rw [String.toList_ofList, List.mem_reverse]
      exact inside
  · exact .inl rfl

/-- To take an ending away and to put it there again changes nothing just where it was there. -/
theorem withoutEnding_append_eq_iff {ending : String} (slashless : '/' ∉ ending.toList)
    (dotless : '.' ∉ ending.toList) :
    withoutEnding path ++ ("." ++ ending) = path ↔ HasEnding path ending := by
  constructor
  · intro same
    obtain ⟨front, last, split, isFront, slashlessLast⟩ := exists_front path
    rw [split] at same
    rcases withoutEnding_cases isFront slashlessLast with whole | ⟨stem, cut, slashlessStem, proper⟩
    · rw [whole] at same
      have lengths := congrArg String.length same
      simp at lengths
    · rw [cut, String.append_assoc] at same
      exact ⟨front, stem, split.trans same.symm, isFront, slashlessStem, proper⟩
  · rintro ⟨front, stem, rfl, isFront, slashlessStem, character, inside, proper⟩
    have slashlessLast : '/' ∉ (stem ++ ("." ++ ending)).toList := by
      simp [slashlessStem, slashless]
    have reversed : (stem ++ ("." ++ ending)).toList.reverse =
        ending.toList.reverse ++ '.' :: stem.toList.reverse := by
      simp
    have each : ∀ character ∈ ending.toList.reverse, (character != '.') = true := by
      intro character inside
      rw [bne_iff_ne]
      rintro rfl
      exact dotless (List.mem_reverse.mp inside)
    have word : (ending.toList.reverse ++ '.' :: stem.toList.reverse).takeWhile (· != '.') =
        ending.toList.reverse := by
      rw [List.takeWhile_append_of_pos each]
      simp
    have rest : (ending.toList.reverse ++ '.' :: stem.toList.reverse).drop
        (ending.toList.reverse.length + 1) = stem.toList.reverse := by
      rw [← List.drop_drop, List.drop_left]
      rfl
    have ends : (ending.toList.reverse.length <
          (ending.toList.reverse ++ '.' :: stem.toList.reverse).length &&
        stem.toList.reverse.any (· != '.')) = true := by
      rw [Bool.and_eq_true, decide_eq_true_eq, List.length_append, List.length_cons, List.any_eq_true]
      exact ⟨by omega, character, List.mem_reverse.mpr inside, bne_iff_ne.mpr proper⟩
    rw [withoutEnding_append isFront slashlessLast, reversed, word, rest, if_pos ends,
      List.reverse_reverse, String.ofList_toList, String.append_assoc]

end Path

namespace FileTree

variable {tree : FileTree} {directory place reached : Place} {path : String}

/-- Steps that do not go back lead to the names that are taken. -/
theorem foldlM_step_eq {parts : List (List Char)} (forward : Path.parent ∉ parts)
    (stepped : parts.foldlM tree.step place = .ok reached) :
    reached = place ++ parts.filter (fun part => !Path.isIdle part) := by
  induction parts generalizing place with
  | nil =>
      cases stepped
      exact (List.append_nil _).symm
  | cons part rest induction =>
      rw [List.mem_cons, not_or] at forward
      rw [List.foldlM_cons] at stepped
      have ⟨next, first, others⟩ := exists_of_bind_eq_ok stepped
      rw [induction forward.2 others]
      have here : next = place ++ [part].filter (fun part => !Path.isIdle part) := by
        unfold step at first
        split at first
        · cases first
        · cases first
        · split at first
          · cases first
            simp_all
          · split at first
            · rename_i up
              exact absurd up.symm forward.1
            · split at first
              · cases first
              · cases first
                simp_all
      rw [here, List.append_assoc, ← List.filter_append]
      rfl

/-- A path that leads to a place leads nowhere else, from whatever directory. -/
theorem eq_of_find (leads : Path.LeadsTo path place)
    (found : tree.find directory path = .ok reached) : reached = place := by
  have ⟨(start, parts), split, stepped⟩ := exists_of_bind_eq_ok found
  have same : start = [] ∧ parts = Path.parts path := by
    unfold steps at split
    rw [leads.absolute] at split
    split at split
    · cases split
    · split at split
      · cases split
      · split at split
        · cases split
        · cases split
          exact ⟨rfl, rfl⟩
  obtain ⟨rfl, rfl⟩ := same
  rw [foldlM_step_eq leads.forward stepped, List.nil_append]
  exact leads.names

end FileTree

end EngineBridge
