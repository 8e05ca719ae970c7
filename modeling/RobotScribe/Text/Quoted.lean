/-
# Quoted text

A text in double quotes, on one line and with every character visible.  A backslash stands
before a quote and before a backslash; NUL, tab, line feed and carriage return have a letter
of their own; and a character that would not show, or that would be drawn over the one before
it, is given by its code point in hexadecimal.
-/
import RobotScribe.Text.CharSets

namespace RobotScribe.Text

/-- A voiced or semi-voiced sound mark of half width.  It extends the letter before it, but it is
drawn in a cell of its own. -/
def isHalfwidthSoundMark (c : Char) : Bool := c == '\uFF9E' || c == '\uFF9F'

/-- Whether a character is drawn over the one before it. -/
def isOverlaid (c : Char) : Bool := isGraphemeExtend c && !isHalfwidthSoundMark c

/-- A character that would not be seen as one of its own: it has no visible form, takes no room,
or is drawn over the one before it. -/
def isHidden (c : Char) : Bool := isUnprintable c || isDefaultIgnorable c || isOverlaid c

/-- A character that stands for itself between quotes, where no shorter escape applies. -/
def isPlain (c : Char) : Bool := (0x20 ≤ c.toNat && c.toNat < 0x7F) || !isHidden c

/-- The code point of a character in hexadecimal, between braces. -/
def codePointForm (c : Char) : List Char :=
  ['\\', 'u', '\x7b'] ++ Nat.toDigits 16 c.toNat ++ ['\x7d']

/-- How a character is written between quotes. -/
def escape (c : Char) : List Char :=
  if c = '\x00' then ['\\', '0']
  else if c = '\t' then ['\\', 't']
  else if c = '\r' then ['\\', 'r']
  else if c = '\n' then ['\\', 'n']
  else if c = '"' then ['\\', '"']
  else if c = '\\' then ['\\', '\\']
  else if isPlain c then [c]
  else codePointForm c

/-- A text in quotes. -/
def quote (text : String) : String :=
  String.ofList (['"'] ++ text.toList.flatMap escape ++ ['"'])

/-- The written form of no character is empty. -/
theorem escape_ne_nil (c : Char) : escape c ≠ [] := by
  unfold escape codePointForm
  repeat' split
  all_goals simp

end RobotScribe.Text
