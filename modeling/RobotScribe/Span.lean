/-
# Source positions

A span is a stretch of source text between two (line, column) positions.  Lines count from
one, so a span that starts at line zero records no position at all.

Spans are merged to the least span that covers both: the earlier start and the later end,
where positions are ordered first by line and then by column.
-/
namespace RobotScribe

/-- A stretch of source text, from a start position to an end position. -/
structure Span where
  /-- The line of the first position. -/
  startLine : UInt32
  /-- The column of the first position. -/
  startCol : UInt32
  /-- The line of the last position. -/
  endLine : UInt32
  /-- The column of the last position. -/
  endCol : UInt32
deriving DecidableEq, Repr, Inhabited

namespace Span

/-- The span of a node whose position was not recorded. -/
def unknown : Span := ⟨0, 0, 0, 0⟩

/-- The empty span at a single position. -/
def point (line col : UInt32) : Span := ⟨line, col, line, col⟩

/-- The span of a node of which only the line is known: column one of that line. -/
def ofLine (line : UInt32) : Span := point line 1

/-- A span records a position exactly when it does not start at line zero. -/
def isKnown (s : Span) : Bool := s.startLine != 0

/-- The earlier of two positions; a tie in the line is decided by the column. -/
def earlier (p q : UInt32 × UInt32) : UInt32 × UInt32 :=
  if p.1 < q.1 then p else if q.1 < p.1 then q else (p.1, min p.2 q.2)

/-- The later of two positions; a tie in the line is decided by the column. -/
def later (p q : UInt32 × UInt32) : UInt32 × UInt32 :=
  if q.1 < p.1 then p else if p.1 < q.1 then q else (p.1, max p.2 q.2)

/-- The position at which a span starts. -/
def start (s : Span) : UInt32 × UInt32 := (s.startLine, s.startCol)

/-- The position at which a span ends. -/
def stop (s : Span) : UInt32 × UInt32 := (s.endLine, s.endCol)

/-- The least span that covers two spans. -/
def merge (s t : Span) : Span :=
  let first := earlier s.start t.start
  let last := later s.stop t.stop
  ⟨first.1, first.2, last.1, last.2⟩

/-- The least span that covers a list of spans; an empty list has no position. -/
def cover : List Span → Span
  | [] => unknown
  | s :: rest => rest.foldl merge s

/-- The text of a span is the position where it starts, as `line:column`. -/
def text (s : Span) : String := toString s.startLine ++ ":" ++ toString s.startCol

@[simp] theorem start_merge (s t : Span) : (s.merge t).start = earlier s.start t.start := rfl

@[simp] theorem stop_merge (s t : Span) : (s.merge t).stop = later s.stop t.stop := rfl

@[simp] theorem isKnown_unknown : unknown.isKnown = false := by decide

end Span

end RobotScribe
