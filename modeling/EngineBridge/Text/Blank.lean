/-!
Blank characters and the trimming of text.

A character is blank if it has the white-space property of Unicode 14 or is one of the four
separators U+001C to U+001F. `trim` removes blanks at both ends and nothing else.
-/

namespace EngineBridge.Text

/-- A closed range of code points. -/
structure CodeRange where
  first : Nat
  last : Nat
deriving DecidableEq, Repr

namespace CodeRange

def contains (range : CodeRange) (code : Nat) : Bool :=
  range.first ≤ code && code ≤ range.last

/-- The number of code points in the range. -/
def size (range : CodeRange) : Nat :=
  range.last + 1 - range.first

end CodeRange

def inRanges (ranges : List CodeRange) (character : Char) : Bool :=
  ranges.any fun range => range.contains character.toNat

def blankRanges : List CodeRange :=
  [⟨0x09, 0x0D⟩, ⟨0x1C, 0x20⟩, ⟨0x85, 0x85⟩, ⟨0xA0, 0xA0⟩, ⟨0x1680, 0x1680⟩,
    ⟨0x2000, 0x200A⟩, ⟨0x2028, 0x2029⟩, ⟨0x202F, 0x202F⟩, ⟨0x205F, 0x205F⟩, ⟨0x3000, 0x3000⟩]

def isBlank (character : Char) : Bool :=
  inRanges blankRanges character

/-- There are twenty-nine blank characters. -/
example : (blankRanges.map CodeRange.size).sum = 29 := by decide

example : isBlank '\u00a0' = true ∧ isBlank '\u200b' = false := by decide

/-- The characters with the characters of a class removed at both ends. -/
def trimWhere (isEdge : Char → Bool) (characters : List Char) : List Char :=
  ((characters.dropWhile isEdge).reverse.dropWhile isEdge).reverse

def trim (characters : List Char) : List Char :=
  trimWhere isBlank characters

example : trim "\t a b \n".toList = "a b".toList := by decide

end EngineBridge.Text
