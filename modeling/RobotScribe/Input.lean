/-
# The input of a program

A program reads words from a byte stream, one line of the stream at a time.  A line that is
not valid text fails as a whole and is dropped.
-/
import RobotScribe.Fault
import RobotScribe.Text.Blank
import RobotScribe.Text.Decimal
import RobotScribe.Text.Quoted
import RobotScribe.Text.Utf8

namespace RobotScribe

/-- What is left of the input. -/
structure Input where
  /-- The words of the current line that have not been read. -/
  pending : List String
  /-- The lines after the current one. -/
  unread : List (List UInt8)
deriving DecidableEq, Repr, Inhabited

namespace Input

/-- The input that a byte stream gives. -/
def ofBytes (bytes : List UInt8) : Input := ⟨[], Text.cutLines bytes⟩

/-- The input that a text gives. -/
def ofText (text : String) : Input := ofBytes text.toUTF8.toList

/-- The fault of a line that is not valid text. -/
def invalidLine : Fault := .io "stream did not contain valid UTF-8"

/-- The next word of the pending words and the unread lines, and what is left after it. -/
def takeWord : List String → List (List UInt8) → Except Fault (Option String) × Input
  | word :: pending, unread => (.ok (some word), ⟨pending, unread⟩)
  | [], [] => (.ok none, ⟨[], []⟩)
  | [], line :: unread =>
    match Text.decode? line with
    | none => (.error invalidLine, ⟨[], unread⟩)
    | some text => takeWord (Text.wordsOf text) unread

/-- The next word, nothing at the end of the input, or the fault of the next line. -/
def nextWord (input : Input) : Except Fault (Option String) × Input :=
  takeWord input.pending input.unread

/-- The integer that a word has to be; at the end of the input there is none. -/
def integerOf : Option String → Except Fault Int64
  | none => .error (.formatError "end of input")
  | some word =>
    match Text.readInt64? word with
    | some n => .ok n
    | none => .error (.formatError word)

/-- The next word read as an integer.  A word that is no integer is gone too. -/
def nextInteger (input : Input) : Except Fault Int64 × Input :=
  let (word, rest) := input.nextWord
  (word.bind integerOf, rest)

/-- The pending words as they are shown. -/
def describe (input : Input) : String :=
  "InputTokens \x7b pending: [" ++ String.intercalate ", " (input.pending.map Text.quote)
    ++ "], .. \x7d"

@[simp] theorem nextWord_pending (word : String) (pending : List String)
    (unread : List (List UInt8)) :
    nextWord ⟨word :: pending, unread⟩ = (.ok (some word), ⟨pending, unread⟩) := by
  simp [nextWord, takeWord]

/-- A line that is valid text makes its words pending. -/
theorem nextWord_line {line : List UInt8} {text : String} (h : Text.decode? line = some text)
    (unread : List (List UInt8)) :
    nextWord ⟨[], line :: unread⟩ = nextWord ⟨Text.wordsOf text, unread⟩ := by
  simp [nextWord, takeWord, h]

/-- A line that is not valid text is dropped. -/
theorem nextWord_invalid {line : List UInt8} (h : Text.decode? line = none)
    (unread : List (List UInt8)) :
    nextWord ⟨[], line :: unread⟩ = (.error invalidLine, ⟨[], unread⟩) := by
  simp [nextWord, takeWord, h]

end Input

end RobotScribe
