/-!
Line boundaries.

A line ends at a line feed, a carriage return (alone or before a line feed), a vertical tab, a
form feed, one of the separators U+001C to U+001E, U+0085, U+2028 or U+2029. The boundary is not
part of the line, and text that ends with a boundary has no empty line after it.
-/

namespace EngineBridge.Text

def isLineBoundary (character : Char) : Bool :=
  let code := character.toNat
  (0x0A ≤ code && code ≤ 0x0D) || (0x1C ≤ code && code ≤ 0x1E) ||
    code == 0x85 || code == 0x2028 || code == 0x2029

/-- Lines of text, where `line` holds the characters of the current line in reverse. -/
def splitLinesAfter (line : List Char) : List Char → List (List Char)
  | [] => if line.isEmpty then [] else [line.reverse]
  | '\r' :: '\n' :: rest => line.reverse :: splitLinesAfter [] rest
  | character :: rest =>
      if isLineBoundary character then line.reverse :: splitLinesAfter [] rest
      else splitLinesAfter (character :: line) rest

/-- The lines of a text, without their boundaries. -/
def splitLines (characters : List Char) : List (List Char) :=
  splitLinesAfter [] characters

example : splitLines "a\r\nb\n\nc\n".toList = ["a".toList, "b".toList, [], "c".toList] := by decide

/-- Text in which each carriage return and line feed, and each lone carriage return, is one line
feed, as a file read as text is. -/
def unifyLineFeeds : List Char → List Char
  | [] => []
  | '\r' :: '\n' :: rest => '\n' :: unifyLineFeeds rest
  | '\r' :: rest => '\n' :: unifyLineFeeds rest
  | character :: rest => character :: unifyLineFeeds rest

/-- Text in which each carriage return and line feed is one line feed. Lone carriage returns stay. -/
def joinLineFeeds : List Char → List Char
  | [] => []
  | '\r' :: '\n' :: rest => '\n' :: joinLineFeeds rest
  | character :: rest => character :: joinLineFeeds rest

end EngineBridge.Text
