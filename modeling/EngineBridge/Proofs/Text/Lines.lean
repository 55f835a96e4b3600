import EngineBridge.Text.Blank
import EngineBridge.Text.Lines
import Mathlib.Data.List.TakeWhile

/-!
Lines of text, and what is left of a line without the blanks around it.

Main statements: what stands between blanks is found again, and a line that is followed by a line
ending is the first line of a text. A carriage return is taken together with a line feed behind it,
whatever the line feed was meant to end.
-/

namespace EngineBridge.Text

section

variable {isEdge : Char → Bool} {left core right : List Char}

theorem dropWhile_of_head?
    (first : ∀ character, core.head? = some character → isEdge character = false) :
    core.dropWhile isEdge = core := by
  cases core with
  | nil => rfl
  | cons character rest => simp [first character rfl]

/-- What begins and ends with characters that are not removed is left of what stands around it. -/
theorem trimWhere_surrounded (leftEdges : ∀ character ∈ left, isEdge character = true)
    (rightEdges : ∀ character ∈ right, isEdge character = true)
    (first : ∀ character, core.head? = some character → isEdge character = false)
    (last : ∀ character, core.getLast? = some character → isEdge character = false) :
    trimWhere isEdge (left ++ core ++ right) = core := by
  rw [trimWhere, List.append_assoc, List.dropWhile_append_of_pos leftEdges]
  cases core with
  | nil =>
      rw [List.nil_append, List.dropWhile_eq_nil_iff.mpr rightEdges]
      rfl
  | cons character rest =>
      have begins : (character :: rest ++ right).dropWhile isEdge = character :: rest ++ right :=
        dropWhile_of_head? fun other found => first other found
      have ends : ∀ other, (character :: rest).reverse.head? = some other →
          isEdge other = false := by
        rw [List.head?_reverse]
        exact last
      have edges : ∀ other ∈ right.reverse, isEdge other = true :=
        fun other inside => rightEdges other (List.mem_reverse.mp inside)
      rw [begins, List.reverse_append, List.dropWhile_append_of_pos edges, dropWhile_of_head? ends,
        List.reverse_reverse]

theorem trimWhere_of_ends
    (first : ∀ character, core.head? = some character → isEdge character = false)
    (last : ∀ character, core.getLast? = some character → isEdge character = false) :
    trimWhere isEdge core = core := by
  have trimmed : trimWhere isEdge ([] ++ core ++ []) = core :=
    trimWhere_surrounded (by simp) (by simp) first last
  rwa [List.nil_append, List.append_nil] at trimmed

/-- The first character that is not removed remains the first one. -/
theorem head?_trimWhere_append {character : Char} {rest : List Char}
    (leftEdges : ∀ character ∈ left, isEdge character = true)
    (inside : isEdge character = false) :
    (trimWhere isEdge (left ++ character :: rest)).head? = some character := by
  have begins : (character :: rest).dropWhile isEdge = character :: rest :=
    dropWhile_of_head? (by simp [inside])
  rw [trimWhere, List.dropWhile_append_of_pos leftEdges, begins, List.reverse_cons,
    List.dropWhile_append]
  split
  · simp [inside]
  · simp

end

/-- The characters that end a line: a single boundary, or a carriage return and a line feed. -/
inductive IsLineEnding : List Char → Prop
  | single {character : Char} (boundary : isLineBoundary character = true) :
      IsLineEnding [character]
  | both : IsLineEnding ['\r', '\n']

section

variable {line ending : List Char}

/-- Characters that are no boundaries are taken into the current line. -/
theorem splitLinesAfter_append (plain : ∀ character ∈ line, isLineBoundary character = false)
    (current rest : List Char) :
    splitLinesAfter current (line ++ rest) = splitLinesAfter (line.reverse ++ current) rest := by
  induction line generalizing current with
  | nil => rfl
  | cons character line induction =>
      have ⟨here, others⟩ := List.forall_mem_cons.mp plain
      rw [List.cons_append, splitLinesAfter, here]
      · simpa using induction others (character :: current)
      · rintro _ rfl _
        cases here

theorem splitLines_of_plain (plain : ∀ character ∈ line, isLineBoundary character = false) :
    splitLines line = if line = [] then [] else [line] := by
  have split := splitLinesAfter_append plain [] []
  rw [List.append_nil, List.append_nil, splitLinesAfter] at split
  rw [splitLines, split]
  simp

/-- A boundary ends the current line. A carriage return takes a line feed with it. -/
theorem splitLinesAfter_boundary {boundary : Char} (isBoundary : isLineBoundary boundary = true)
    (current rest : List Char) :
    splitLinesAfter current (boundary :: rest) = current.reverse :: splitLines rest ∨
    ∃ behind, boundary = '\r' ∧ rest = '\n' :: behind ∧
      splitLinesAfter current (boundary :: rest) = current.reverse :: splitLines behind := by
  by_cases joined : boundary = '\r' ∧ ∃ behind, rest = '\n' :: behind
  · have ⟨carriage, behind, feed⟩ := joined
    subst carriage feed
    exact .inr ⟨behind, rfl, rfl, rfl⟩
  · left
    rw [splitLinesAfter, if_pos isBoundary, splitLines]
    rintro behind rfl rfl
    exact joined ⟨rfl, behind, rfl⟩

/-- A line that is ended is the first line of a text. A line feed behind it may be taken for a part
of its ending. -/
theorem splitLines_line_append (plain : ∀ character ∈ line, isLineBoundary character = false)
    (ends : IsLineEnding ending) (rest : List Char) :
    splitLines (line ++ ending ++ rest) = line :: splitLines rest ∨
    ∃ behind, rest = '\n' :: behind ∧
      splitLines (line ++ ending ++ rest) = line :: splitLines behind := by
  rw [splitLines, List.append_assoc, splitLinesAfter_append plain, List.append_nil]
  cases ends with
  | single boundary =>
      rcases splitLinesAfter_boundary boundary line.reverse rest with
        apart | ⟨behind, _, feed, joined⟩
      · exact .inl (by rw [List.singleton_append, apart, List.reverse_reverse])
      · exact .inr ⟨behind, feed, by rw [List.singleton_append, joined, List.reverse_reverse]⟩
  | both =>
      left
      change line.reverse.reverse :: _ = _
      rw [List.reverse_reverse]
      rfl

/-- A line feed in front ends an empty line. -/
theorem splitLines_feed (rest : List Char) : splitLines ('\n' :: rest) = [] :: splitLines rest := rfl

end

end EngineBridge.Text
