/-!
Texts split at a character.

A text with a number of separators has one part more than it has separators; parts may be empty.
-/

namespace EngineBridge.Text

def splitOn (separator : Char) : List Char → List (List Char)
  | [] => [[]]
  | character :: rest =>
      if character = separator then [] :: splitOn separator rest
      else match splitOn separator rest with
        | [] => [[character]]
        | first :: others => (character :: first) :: others

example : splitOn '/' "a//b".toList = ["a".toList, [], "b".toList] := by decide

def joinWith (separator : Char) : List (List Char) → List Char
  | [] => []
  | [part] => part
  | part :: rest => part ++ separator :: joinWith separator rest

theorem splitOn_ne_nil (separator : Char) (characters : List Char) :
    splitOn separator characters ≠ [] := by
  cases characters with
  | nil => simp [splitOn]
  | cons character rest =>
      simp only [splitOn]
      split
      · simp
      · split <;> simp

/-- Joining the parts gives the text back. -/
@[simp] theorem joinWith_splitOn (separator : Char) (characters : List Char) :
    joinWith separator (splitOn separator characters) = characters := by
  induction characters with
  | nil => rfl
  | cons character rest induction =>
      simp only [splitOn]
      split
      · next same =>
          subst same
          cases parts : splitOn character rest with
          | nil => exact absurd parts (splitOn_ne_nil character rest)
          | cons first others => simp [joinWith, ← parts, induction]
      · cases parts : splitOn separator rest with
        | nil => exact absurd parts (splitOn_ne_nil separator rest)
        | cons first others =>
            rw [parts] at induction
            cases others with
            | nil => simpa [joinWith] using induction
            | cons second remaining => simpa [joinWith] using induction

/-- What stands before the first occurrence of a character, and what stands behind it. -/
def cutAt? (separator : Char) : List Char → Option (List Char × List Char)
  | [] => none
  | character :: rest =>
      if character = separator then some ([], rest)
      else (cutAt? separator rest).map fun (before, behind) => (character :: before, behind)

example : cutAt? '=' "a=b=c".toList = some ("a".toList, "b=c".toList) := by decide

end EngineBridge.Text
