/-
# White space and words

A character is blank when it has the property `White_Space` of the Unicode character database.
A text is cut into its words at the blank characters; a word is never empty.
-/
import RobotScribe.Text.CharSets

namespace RobotScribe.Text

/-- The code points of the blank characters. -/
def blankRanges : CharRanges := [
  (0x09, 0x0D), (0x20, 0x20), (0x85, 0x85), (0xA0, 0xA0), (0x1680, 0x1680), (0x2000, 0x200A),
  (0x2028, 0x2029), (0x202F, 0x202F), (0x205F, 0x205F), (0x3000, 0x3000)]

/-- Whether a character separates words. -/
def isBlank (c : Char) : Bool := blankRanges.contains c

/-- Puts a character before the first word of what follows it, or makes it a word of its own
when a blank, or nothing, follows. -/
def attach (c : Char) (rest : List Char) (words : List (List Char)) : List (List Char) :=
  match rest, words with
  | d :: _, word :: others => if isBlank d then [c] :: word :: others else (c :: word) :: others
  | _, words => [c] :: words

/-- The words of a text: the longest runs of characters without a blank, in order. -/
def words : List Char → List (List Char)
  | [] => []
  | c :: rest => if isBlank c then words rest else attach c rest (words rest)

/-- The words of a string. -/
def wordsOf (text : String) : List String := (words text.toList).map String.ofList

end RobotScribe.Text
