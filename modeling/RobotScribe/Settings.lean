/-
# Settings

How a session is set up: where the call trace goes, how far a line is indented, and how much
of a backtrace is shown.  Settings are read from a JSON document, in which every field may be
left out and no other field may stand.
-/
import RobotScribe.Json.Library
import RobotScribe.Text.Decimal

namespace RobotScribe

/-- How a session is set up. -/
structure Settings where
  /-- The path that the call trace is written to, if it is written at all. -/
  trace : Option String := none
  /-- How many spaces one level of indentation has. -/
  indentWidth : Nat := 2
  /-- How many frames a backtrace shows unless it is asked for another number. -/
  backtraceLimit : Option Nat := none
deriving DecidableEq, Repr, Inhabited

namespace Settings

/-- The settings of a session that is not set up otherwise: no trace, two spaces, and
backtraces without a bound. -/
def standard : Settings := {}

/-- The settings with a trace path. -/
def withTrace (s : Settings) (path : String) : Settings := { s with trace := some path }

/-- The settings with an indentation width. -/
def withIndentWidth (s : Settings) (width : Nat) : Settings := { s with indentWidth := width }

/-- The settings with a bound on backtraces. -/
def withBacktraceLimit (s : Settings) (limit : Nat) : Settings :=
  { s with backtraceLimit := some limit }

/-- The names of the fields, in order. -/
def fieldNames : List String := ["trace", "indent_width", "backtrace_limit"]

/-- The fields of a document, each present or absent.  An array gives the first fields in
order. -/
def fields? : Json → Option (List (Option Json))
  | .array items =>
    if items.length ≤ fieldNames.length then
      some (items.map some ++ List.replicate (fieldNames.length - items.length) none)
    else none
  | .object members =>
    if members.all (fun member => fieldNames.contains member.1) then
      (Json.object members).record? fieldNames
    else none
  | _ => none

/-- Reads a count. -/
def count? (value : Json) : Option Nat := value.int?.bind Text.exactCount?

/-- Reads the width, which may be left out but may not be `null`. -/
def width? : Option Json → Option Nat
  | none => some standard.indentWidth
  | some value => count? value

/-- Reads settings from a document. -/
def decode (document : Json) : Option Settings :=
  match fields? document with
  | some [trace, width, limit] => do
    let trace ← Json.optional? Json.string? trace
    let width ← width? width
    let limit ← Json.optional? count? limit
    return ⟨trace, width, limit⟩
  | _ => none

/-- Reads settings from the text of a document, with a library. -/
def readWith (lib : Json.Library) (text : String) : Option Settings := (lib.read text).bind decode

/-- Reads settings from the text of a document. -/
def parse? (text : String) : Option Settings := readWith (Json.compact none) text

/-- A count that may be missing, in JSON form. -/
def encodeLimit : Option Nat → Json
  | none => .null
  | some limit => .int limit

/-- A path that may be missing, in JSON form. -/
def encodePath : Option String → Json
  | none => .null
  | some path => .string path

/-- Settings in JSON form. -/
def encode (s : Settings) : Json :=
  .object [("trace", encodePath s.trace), ("indent_width", .int s.indentWidth),
    ("backtrace_limit", encodeLimit s.backtraceLimit)]

end Settings

end RobotScribe
