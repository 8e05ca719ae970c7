/-
# The transcript

The transcript is the program for the robot, line by line.  It keeps the depth of a line apart
from its text, so that the width of an indentation step is chosen only when it is rendered.
-/
import RobotScribe.Cursor

namespace RobotScribe

/-- A line of the program for the robot. -/
inductive Entry where
  /-- The start or the end of a block; it is never indented. -/
  | label (text : String)
  /-- An instruction. -/
  | instruction (depth : Nat) (text : String)
  /-- The call of a block. -/
  | marker (depth : Nat) (text : String)
deriving DecidableEq, Repr, Inhabited

namespace Entry

/-- How many levels deep a line is indented. -/
def depth : Entry → Nat
  | label _ => 0
  | instruction depth _ => depth
  | marker depth _ => depth

/-- A line without its indentation. -/
def text : Entry → String
  | label text => text
  | instruction _ text => text
  | marker _ text => text

/-- Whether a line is the call of a block. -/
def isMarker : Entry → Bool
  | marker .. => true
  | _ => false

/-- A line indented by so many spaces for each level. -/
def render (width : Nat) (entry : Entry) : String :=
  String.ofList (List.replicate (entry.depth * width) ' ') ++ entry.text

end Entry

/-- The lines of the program for the robot that have been written, in order. -/
structure Transcript where
  /-- The lines. -/
  entries : Array Entry
deriving DecidableEq, Repr, Inhabited

namespace Transcript

/-- The transcript before anything is written. -/
def empty : Transcript := ⟨#[]⟩

/-- The number of lines. -/
def length (t : Transcript) : Nat := t.entries.size

/-- Adds a line. -/
def add (t : Transcript) (entry : Entry) : Transcript := ⟨t.entries.push entry⟩

/-- Adds a label, whatever the phase. -/
def label (t : Transcript) (text : String) : Transcript := t.add (.label text)

/-- Adds an instruction at a cursor, if its phase writes. -/
def emit (t : Transcript) (here : Cursor) (text : String) : Transcript :=
  if here.phase.emits then t.add (.instruction here.depth text) else t

/-- Adds the call of a block at a cursor, whatever its phase. -/
def mark (t : Transcript) (here : Cursor) (text : String) : Transcript :=
  t.add (.marker here.depth text)

/-- The rendered lines, from a given position on. -/
def linesFrom (t : Transcript) (start width : Nat) : List String :=
  (t.entries.toList.drop start).map (Entry.render width)

/-- The rendered lines. -/
def lines (t : Transcript) (width : Nat) : List String := t.linesFrom 0 width

@[simp] theorem toList_add (t : Transcript) (entry : Entry) :
    (t.add entry).entries.toList = t.entries.toList ++ [entry] := by
  simp [add]

end Transcript

end RobotScribe
